import GameServer.Bytes
import GameServer.Message.Kind
import GameServer.Message.ResponseCode

/- This file defines the messages of the login and of the game. -/

namespace GameServer

/-- A login block carries protocol constants, session keys and credentials. -/
structure LoginBlock where
  /-- The client logs in again after it lost its connection. -/
  reconnecting : Bool
  magic : UInt8
  clientVersion : UInt16
  /-- The client draws with low detail for zero and with high detail for one. -/
  detail : UInt8
  archiveChecksums : Vector UInt32 9
  operation : UInt8
  /-- The keys of the client stand before the keys of the server. -/
  sessionKeys : List UInt32
  userId : UInt32
  username : String
  password : String
deriving DecidableEq

/-- Chat text stays in the packed form of the client. -/
structure ChatLine where
  effects : UInt8
  color : UInt8
  text : Bytes
deriving DecidableEq

/-- A walk begins at an absolute position and goes on by offsets from it. -/
structure WalkRoute where
  startX : UInt16
  startY : UInt16
  offsets : List (Int8 × Int8)
  running : Bool
  /-- A walk on the minimap carries these further bytes. -/
  trailer : Bytes
deriving DecidableEq

/-- The status of a login carries the rights of the player. -/
structure LoginReply where
  code : ResponseCode
  privilege : UInt8
  flagged : Bool
deriving DecidableEq

/-- A refusal carries nothing but its code. -/
def LoginReply.refusal (code : ResponseCode) : LoginReply :=
  ⟨code, 0, false⟩

/-- A message is what the payload of a frame means. -/
inductive Message where
  | handshake (nameHash : UInt8)
  | login (block : LoginBlock)
  | ping
  | chat (line : ChatLine)
  | walk (route : WalkRoute)
  | command (line : String)
  | handshakeResponse (status : UInt8) (serverKey : UInt64)
  | loginResponse (reply : LoginReply)
  | serverChat (text : String)
deriving DecidableEq

/-- The kind of a message does not depend on its fields. -/
def Message.kind : Message → Message.Kind
  | .handshake _ => .handshake
  | .login _ => .login
  | .ping => .ping
  | .chat _ => .chat
  | .walk _ => .walk
  | .command _ => .command
  | .handshakeResponse _ _ => .handshakeResponse
  | .loginResponse _ => .loginResponse
  | .serverChat _ => .serverChat

namespace WalkRoute

/-- The first position of the route. -/
def start (route : WalkRoute) : Int × Int :=
  (route.startX.toNat, route.startY.toNat)

/-- Every offset is added to the first position and not to the position before it. -/
def positions (route : WalkRoute) : List (Int × Int) :=
  route.start :: route.offsets.map fun offset =>
    (route.start.1 + offset.1.toInt, route.start.2 + offset.2.toInt)

/-- The route ends at its last position. -/
def destination (route : WalkRoute) : Int × Int :=
  route.positions.getLastD route.start

end WalkRoute

end GameServer
