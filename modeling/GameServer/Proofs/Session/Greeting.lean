import GameServer.Proofs.Session.Reading
import GameServer.Proofs.Session.Writing
import GameServer.Table.Standard

/- This file shows that the two responses of the login are written in full. -/

namespace GameServer

/-- The seventeen bytes that answer a handshake. -/
def handshakeAnswer (serverKey : UInt64) : Bytes :=
  0 :: Bytes.ofUInt64 0 ++ Bytes.ofUInt64 serverKey

theorem length_handshakeAnswer (serverKey : UInt64) : (handshakeAnswer serverKey).length = 17 := rfl

/-- The three bytes that tell of a login. -/
def loginAnswer (code : ResponseCode) : Bytes := [code.value, 0, 0]

namespace Framer

theorem encodeAll_handshakeResponse (limit : Nat) (serverKey : UInt64) :
    (plain .login limit).encodeAll [.handshakeResponse 0 serverKey] =
      .ok (plain .login limit, handshakeAnswer serverKey) := rfl

theorem encodeAll_loginResponse (limit : Nat) (code : ResponseCode) :
    (plain .login limit).encodeAll [.loginResponse ⟨code, 0, false⟩] =
      .ok (plain .login limit, loginAnswer code) := rfl

end Framer

namespace Session

theorem isClosed_of_phase {session : Session} {phase : Phase} (same : session.phase = phase)
    (going : phase ≠ .closed) : session.isClosed = false := by
  rw [isClosed, same]
  exact beq_eq_false_iff_ne.mpr going

theorem during_eq {α : Type} (phase : Phase) (kind : Message.Kind) (action : Action α)
    (session : Session) (same : session.phase = phase) (going : phase ≠ .closed) :
    during phase kind action session = action session := by
  rw [during, whileOpen_of_open _ session (isClosed_of_phase same going), if_pos same]

/-- What can be encoded is sent over a pipe that is not disturbed. -/
theorem sendAll_sound (messages : List Message) (session : Session) (framer : Framer)
    (bytes : Bytes) (opened : session.isClosed = false)
    (sound : session.pipe.Writable)
    (encoded : session.framer.encodeAll messages = .ok (framer, bytes)) :
    ∃ next, sendAll messages session = .ok () next := by
  cases sent : sendAll messages session with
  | ok value next => exact ⟨next, rfl⟩
  | error error next =>
      obtain ⟨cause, failed, _⟩ := sendAll_error messages session next error opened sound sent
      rw [encoded] at failed
      cases failed

theorem KeptByWrite.unread {before after : Session} (kept : KeptByWrite before after) :
    after.unread = before.unread := by
  rw [Session.unread, Session.unread, kept.received, kept.arrived]

theorem KeptByWrite.sound {before after : Session} (kept : KeptByWrite before after) {ended : Bool}
    (sound : before.pipe.Sound ended) : after.pipe.Sound ended where
  ended := kept.ended.trans sound.ended
  readFault := kept.readFault.trans sound.readFault
  writable := kept.writable sound.writable

/-- A session before the game has one framer, and nothing waits to be written. -/
structure Plain (limit : Nat) (phase : Phase) (session : Session) : Prop where
  phase : session.phase = phase
  framer : session.framer = .plain .login limit
  queued : session.queued.toList = []

theorem respond_ok (limit : Nat) (session next : Session)
    (plain : Plain limit .awaitingHandshake session)
    (accepted : respondToHandshake session = .ok () next) :
    Plain limit .awaitingLogin next ∧ KeptByWrite session { next with phase := session.phase } ∧
      next.pipe.written.toList =
        session.pipe.written.toList ++ handshakeAnswer session.serverKey := by
  rw [respondToHandshake, during_eq _ _ _ session plain.phase (by decide), send_eq] at accepted
  obtain ⟨middle, sent, later⟩ := andThen_ok _ _ session next () accepted
  obtain ⟨bytes, encoded, kept, empty, written⟩ := sendAll_ok _ session middle plain.queued sent
  rw [plain.framer, Framer.encodeAll_handshakeResponse, Except.ok.injEq, Prod.mk.injEq] at encoded
  obtain ⟨framer, answer⟩ := encoded
  subst answer
  cases later
  refine ⟨⟨rfl, framer.symm, empty⟩, ?_, written⟩
  exact { kept with phase := rfl }

theorem respond_sound (limit : Nat) (session : Session)
    (plain : Plain limit .awaitingHandshake session) (sound : session.pipe.Writable) :
    ∃ next, respondToHandshake session = .ok () next := by
  have encoded := Framer.encodeAll_handshakeResponse limit session.serverKey
  rw [← plain.framer] at encoded
  obtain ⟨middle, sent⟩ := sendAll_sound _ session _ _
    (isClosed_of_phase plain.phase (by decide)) sound encoded
  rw [respondToHandshake, during_eq _ _ _ session plain.phase (by decide), send_eq,
    Action.andThen, sent]
  exact ⟨_, rfl⟩

end Session

end GameServer
