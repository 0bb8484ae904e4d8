import GameServer.Framer.Basic
import GameServer.Session.Error
import GameServer.Session.Info
import GameServer.Session.Pipe
import GameServer.Session.ReceiveBuffer

/- This file defines sessions and the operations on them that do not read. -/

namespace GameServer

/-- A session is a pipe with a framer and a phase. -/
structure Session where
  info : SessionInfo
  pipe : Pipe
  received : ReceiveBuffer
  /-- The bytes that were encoded and not written. -/
  queued : ByteQueue
  framer : Framer
  phase : Phase
  /-- The login must repeat this key. -/
  serverKey : UInt64

namespace Session

/-- An action changes a session and may fail. -/
abbrev Action (α : Type) := Session → EStateM.Result SessionError Session α

/-- A session begins with a handshake. -/
def start (info : SessionInfo) (pipe : Pipe) (framer : Framer) (serverKey : UInt64) : Session :=
  ⟨info, pipe, .empty, .empty, framer, .awaitingHandshake, serverKey⟩

/-- Whether the session has ended. -/
def isClosed (session : Session) : Bool := session.phase == .closed

/-- A closed session refuses the action. -/
def whileOpen {α : Type} (action : Action α) : Action α := fun session =>
  if session.isClosed then .error .closed session else action session

/-- An action belongs to one phase, and the kind of its message stands in the error. -/
def during {α : Type} (phase : Phase) (kind : Message.Kind) (action : Action α) : Action α :=
  whileOpen fun session =>
    if session.phase = phase then action session
    else .error (.protocol (.unexpected kind session.phase)) session

/-- The second action follows if the first succeeds. -/
def Action.andThen {α : Type} (first : Action Unit) (second : Action α) : Action α :=
  fun session =>
    match first session with
    | .ok () next => second next
    | .error error next => .error error next

/-- The next phase begins. -/
def advance (phase : Phase) : Action Unit := fun session => .ok () { session with phase }

/-- A message is encoded for the next write. -/
def queue (message : Message) : Action Unit :=
  whileOpen fun session =>
    match Framer.encode message (session.framer, []) with
    | .ok () (framer, bytes) =>
        .ok () { session with framer, queued := session.queued.push bytes }
    | .error error (framer, _) => .error (.protocol error) { session with framer }

/-- All queued bytes are written at once, and a write that fails leaves them queued. -/
def writeQueued : Action Unit := fun session =>
  if session.queued.size = 0 then .ok () session
  else
    match session.pipe.write session.queued.toList with
    | (true, pipe) => .ok () { session with pipe, queued := .empty }
    | (false, pipe) => .error (.transport .writeFailed) { session with pipe }

/-- What was written is sent on, and is not queued any more if this fails. -/
def sendOn : Action Unit := fun session =>
  match session.pipe.flush with
  | (true, pipe) => .ok () { session with pipe }
  | (false, pipe) => .error (.transport .flushFailed) { session with pipe }

/-- Everything queued is written out. -/
def flush : Action Unit := whileOpen (writeQueued.andThen sendOn)

/-- A message is queued and written. -/
def send (message : Message) : Action Unit := (queue message).andThen flush

/-- The response to the handshake carries the server key. -/
def respondToHandshake : Action Unit :=
  during .awaitingHandshake .handshakeResponse fun session =>
    (send (.handshakeResponse 0 session.serverKey)).andThen (advance .awaitingLogin) session

/-- Nothing is decoded until the authenticator has decided. -/
def beginAuthentication : Action Unit :=
  during .awaitingLogin .login (advance .authenticating)

/-- The game begins with a ciphered framer, and the limit on payloads stays. -/
def enterGame (table : Table) (pair : KeystreamPair) : Action Unit :=
  during .authenticating .loginResponse fun session =>
    advance .inGame
      { session with framer := Framer.ciphered table session.framer.limit pair }

/-- What was neither decoded nor written is dropped. -/
def close (session : Session) : Session :=
  if session.isClosed then session
  else
    { session with
      phase := .closed
      received := .empty
      queued := .empty
      pipe := session.pipe.shutdown }

/-- Before the game only the next login message is accepted, and in the game every other one. -/
def accepts (phase : Phase) (kind : Message.Kind) : Bool :=
  match phase with
  | .awaitingHandshake => kind == .handshake
  | .awaitingLogin => kind == .login
  | .inGame => kind != .handshake && kind != .login
  | .authenticating => false
  | .closed => false

theorem whileOpen_ok {α : Type} (action : Action α) (session next : Session) (value : α)
    (same : whileOpen action session = .ok value next) :
    session.isClosed = false ∧ action session = .ok value next := by
  unfold whileOpen at same
  split at same
  · cases same
  · next opened => exact ⟨by simpa using opened, same⟩

theorem andThen_ok {α : Type} (first : Action Unit) (second : Action α) (session next : Session)
    (value : α) (same : first.andThen second session = .ok value next) :
    ∃ middle, first session = .ok () middle ∧ second middle = .ok value next := by
  unfold Action.andThen at same
  split at same
  · next middle done => exact ⟨middle, done, same⟩
  · cases same

theorem whileOpen_of_open {α : Type} (action : Action α) (session : Session)
    (opened : session.isClosed = false) : whileOpen action session = action session := by
  rw [whileOpen, if_neg (by rw [opened]; exact Bool.false_ne_true)]

/-- How the queued bytes of an open session are written out. -/
inductive Flushes (session : Session) : EStateM.Result SessionError Session Unit → Prop where
  | sent (written queued : ByteQueue)
      (whole : written.toList = session.pipe.written.toList ++ session.queued.toList)
      (taken : session.queued.toList = [] ∨ session.pipe.writeFault = none)
      (empty : queued.toList = []) (calm : session.pipe.flushFault = false) :
      Flushes session (.ok () { session with pipe := { session.pipe with written }, queued })
  /-- Some of the bytes may have been taken, and all of them stay queued. -/
  | stuck (taken : Nat) (fault : session.pipe.writeFault = some taken)
      (waiting : session.queued.toList ≠ []) :
      Flushes session (.error (.transport .writeFailed)
        { session with
          pipe := { session.pipe with
            written := session.pipe.written.push (session.queued.toList.dropLast.take taken)
            writeFault := none } })
  /-- All bytes were written before, and none of them stays queued. -/
  | unsent (written queued : ByteQueue)
      (whole : written.toList = session.pipe.written.toList ++ session.queued.toList)
      (taken : session.queued.toList = [] ∨ session.pipe.writeFault = none)
      (empty : queued.toList = []) (fault : session.pipe.flushFault = true) :
      Flushes session (.error (.transport .flushFailed)
        { session with pipe := { session.pipe with written, flushFault := false }, queued })

theorem flushes_sendOn (session : Session) (written queued : ByteQueue)
    (whole : written.toList = session.pipe.written.toList ++ session.queued.toList)
    (taken : session.queued.toList = [] ∨ session.pipe.writeFault = none)
    (empty : queued.toList = []) :
    Flushes session (sendOn { session with pipe := { session.pipe with written }, queued }) := by
  unfold sendOn
  split
  · next pipe calm =>
      obtain ⟨fault, _⟩ := Prod.mk.inj calm
      rw [Pipe.flush_true _ _ calm]
      exact .sent written queued whole taken empty (by simpa using fault)
  · next pipe failed =>
      obtain ⟨fault, same⟩ := Pipe.flush_false _ _ failed
      rw [same]
      exact .unsent written queued whole taken empty fault

theorem flushes (session : Session) (opened : session.isClosed = false) :
    Flushes session session.flush := by
  rw [flush, whileOpen_of_open _ session opened, Action.andThen, writeQueued]
  by_cases none : session.queued.size = 0
  · have empty : session.queued.toList = [] := by
      rw [← List.length_eq_zero_iff, ByteQueue.length_toList, none]
    rw [if_pos none]
    exact flushes_sendOn session _ _ (by rw [empty, List.append_nil]) (.inl empty) empty
  · rw [if_neg none]
    cases write : session.pipe.write session.queued.toList with
    | mk done pipe =>
        cases done with
        | true =>
            obtain ⟨calm, same⟩ := Pipe.write_true _ _ _ write
            rw [same]
            exact flushes_sendOn session _ _ (ByteQueue.toList_push _ _) (.inr calm) rfl
        | false =>
            obtain ⟨taken, fault, same⟩ := Pipe.write_false _ _ _ write
            rw [same]
            refine .stuck taken fault fun empty => none ?_
            rw [← ByteQueue.length_toList, empty, List.length_nil]

theorem during_other {α : Type} (phase : Phase) (kind : Message.Kind) (action : Action α)
    (session : Session) (other : session.phase ≠ phase) :
    ∃ error, during phase kind action session = .error error session := by
  unfold during whileOpen
  split
  · exact ⟨_, rfl⟩
  · exact ⟨_, if_neg other⟩

theorem close_isClosed (session : Session) : session.close.isClosed = true := by
  unfold close
  split
  · assumption
  · rfl

theorem close_close (session : Session) : session.close.close = session.close := by
  rw [close, if_pos session.close_isClosed]

end Session

/-- The name of a phase. -/
def Phase.label : Phase → String
  | .awaitingHandshake => "AwaitingHandshake"
  | .awaitingLogin => "AwaitingLoginBlock"
  | .authenticating => "Authenticating"
  | .inGame => "Authenticated"
  | .closed => "Closed"

/-- A session shows how many bytes wait to be decoded. -/
def Session.diagnostic (session : Session) : String :=
  Diagnostic.partialRecord "Session"
    [("info", session.info.diagnostic), ("state", session.phase.label),
      ("buffered", toString session.received.bytes.size)]

end GameServer
