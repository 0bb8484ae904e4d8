import GameServer.Session.Basic

/- A read decodes what was received before it asks the pipe for more. -/

namespace GameServer.Session

/-- A read yields a message, or the end of the stream, or nothing yet. -/
inductive Incoming where
  | message (message : Message)
  | ended
  | waiting
deriving DecidableEq

/-- A read may take this many bytes. -/
def room (session : Session) : Nat := session.received.ready.room

/-- The bytes that were read wait for the framer. -/
def receive (session : Session) (pipe : Pipe) (bytes : Bytes) : Session :=
  { session with pipe, received := session.received.ready.push bytes }

/-- The framer has taken its bytes, and the payload that it waits for is given room at once. -/
def consume (session : Session) (cut : Framer.Cut Message) : Session :=
  let received := session.received.drop cut.taken
  { session with
    framer := cut.framer
    received := received.reserve (cut.framer.missing received.bytes.size) }

/-- The next message is decoded. The bytes of a payload that is not complete are not looked at. -/
def decodeNext (session : Session) : Except ProtocolError (Option Message) × Session :=
  if 0 < session.framer.missing session.received.bytes.size then (.ok none, session)
  else
    let cut := session.framer.decode session.received.bytes.toList
    (cut.outcome, session.consume cut)

/-- A message out of place is an error. -/
def accept (message : Message) : Action Incoming := fun session =>
  if accepts session.phase message.kind then .ok (.message message) session
  else .error (.protocol (.unexpected message.kind session.phase)) session

/-- The stream may end only between two frames. -/
def atEnd : Action Incoming := fun session =>
  if session.received.bytes.size == 0 && session.framer.isIdle then .ok .ended session
  else .error (.transport .cutShort) session

/-- One message is decoded, and bytes are read from the pipe only for want of one. -/
def readOpen (session : Session) : EStateM.Result SessionError Session Incoming :=
  match session.decodeNext with
  | (.error error, decoded) => .error (.protocol error) decoded
  | (.ok (some message), decoded) => accept message decoded
  | (.ok none, decoded) =>
      match _same : session.pipe.read decoded.room with
      | (.waiting, _) => .ok .waiting decoded
      | (.failed, pipe) => .error (.transport .readFailed) { decoded with pipe }
      | (.ended, _) => atEnd decoded
      | (.bytes bytes, pipe) => readOpen (decoded.receive pipe bytes)
termination_by session.pipe.arrived.size
decreasing_by
  exact Pipe.arrived_lt_of_read session.pipe pipe _ bytes (ReceiveBuffer.room_ready_pos _) _same

theorem accept_ne_waiting (message : Message) (session next : Session) :
    accept message session ≠ .ok .waiting next := by
  unfold accept
  split <;> simp

theorem atEnd_ne_waiting (session next : Session) : atEnd session ≠ .ok .waiting next := by
  unfold atEnd
  split <;> simp

theorem pipe_decodeNext (session : Session) : session.decodeNext.2.pipe = session.pipe := by
  unfold decodeNext
  split <;> rfl

theorem arrived_of_waiting (session next : Session)
    (same : session.readOpen = .ok .waiting next) : next.pipe.arrived.size = 0 := by
  fun_induction readOpen session with
  | case1 => cases same
  | case2 => exact absurd same (accept_ne_waiting _ _ _)
  | case3 session decoded found pipe quiet =>
      rw [EStateM.Result.ok.injEq] at same
      have kept := pipe_decodeNext session
      rw [found] at kept
      rw [← same.2, kept]
      exact Pipe.arrived_of_waiting session.pipe pipe _ quiet
  | case4 => cases same
  | case5 => exact absurd same (atEnd_ne_waiting _ _)
  | case6 _ _ _ _ _ _ ih => exact ih same

/-- A closed session reads as one whose stream has ended. -/
def read : Action Incoming := fun session =>
  if session.isClosed then .ok .ended session else session.readOpen

/-- Bytes are moved from the pipe to the session. -/
inductive Buffering where
  | bytes (count : Nat)
  | ended
  | waiting
deriving DecidableEq

/-- The bytes that have arrived are received without decoding them. -/
def buffer : Action Buffering :=
  whileOpen fun session =>
    match session.pipe.read session.room with
    | (.waiting, _) => .ok .waiting session
    | (.failed, pipe) => .error (.transport .readFailed) { session with pipe }
    | (.ended, _) => .ok .ended session
    | (.bytes bytes, pipe) => .ok (.bytes bytes.length) (session.receive pipe bytes)

end GameServer.Session
