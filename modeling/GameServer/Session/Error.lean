import GameServer.Payload.Fault

/- This file words the causes that end a session. -/

namespace GameServer

/-- The stream under a session fails for one of these causes. -/
inductive TransportFault where
  | readFailed
  | writeFailed
  | flushFailed
  /-- The stream ended in the middle of a frame. -/
  | cutShort
deriving DecidableEq

/-- The wording of a fault of the stream. -/
def TransportFault.message : TransportFault → String
  | .readFailed => "read failed"
  | .writeFailed => "write failed"
  | .flushFailed => "flush failed"
  | .cutShort => "stream ended mid-frame"

/-- A session ends for one of these causes. -/
inductive SessionError where
  /-- The client broke the framing or sent a message out of place. -/
  | protocol (error : ProtocolError)
  | transport (fault : TransportFault)
  /-- The login block broke a rule. -/
  | rejected (code : ResponseCode)
  /-- The authenticator or the registry refused the player. -/
  | authenticationFailed (code : ResponseCode)
  | closed
  | timedOut
deriving DecidableEq

/-- The wording of an error. -/
def SessionError.message : SessionError → String
  | .protocol error => error.message
  | .transport fault => "transport error: " ++ fault.message
  | .rejected code => "login rejected: " ++ code.text
  | .authenticationFailed code => "authentication failed: " ++ code.text
  | .closed => "session closed"
  | .timedOut => "session timed out"

/-- The client of a refused login is told this code. -/
def SessionError.refusal? : SessionError → Option ResponseCode
  | .rejected code => some code
  | .authenticationFailed code => some code
  | _ => none

end GameServer
