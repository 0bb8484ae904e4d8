import GameServer.Proofs.Session.Operations
import Mathlib.Data.List.Infix

namespace GameServer.Session

variable {session last : Session}

/-- What was written stays written, and no write is bound to fail that was not before. -/
structure Grows (before after : Session) : Prop where
  written : before.pipe.written.toList <+: after.pipe.written.toList
  clean : before.pipe.Clean → after.pipe.Clean

theorem Grows.refl (session : Session) : Grows session session := ⟨List.prefix_refl _, id⟩

theorem Grows.trans {first second third : Session} (one : Grows first second)
    (two : Grows second third) : Grows first third :=
  ⟨one.written.trans two.written, two.clean ∘ one.clean⟩

theorem grows_of_eq (written : last.pipe.written = session.pipe.written)
    (fault : last.pipe.writeFault = session.pipe.writeFault) : Grows session last :=
  ⟨by rw [written], fun clean => clean.of_eq fault⟩

theorem KeptByRead.grows (kept : KeptByRead session last) : Grows session last :=
  grows_of_eq kept.written kept.writeFault

theorem kept_read (session : Session) : KeptByRead session (after session.read) := by
  cases closed : session.isClosed with
  | true =>
      rw [read, if_pos closed]
      exact .refl session
  | false =>
      have reads := session.reads_readOpen
      rw [read, if_neg (by rw [closed]; exact Bool.false_ne_true)]
      generalize session.readOpen = result at reads
      cases reads with
      | message message next settles => exact settles.kept
      | waiting next continues => exact continues.kept
      | ended next continues => exact continues.kept
      | failed error next fails => exact fails.read.1

/-- Nothing is written while bytes are received. -/
theorem grows_buffer (session : Session) : Grows session (after session.buffer) := by
  refine after_whileOpen (.refl session) fun opened => ?_
  split
  · exact .refl session
  · next pipe failing =>
      rw [after, (Pipe.read_failed _ _ _ failing).2]
      exact grows_of_eq rfl rfl
  · exact .refl session
  · next bytes pipe taken => exact (receive_continues session pipe bytes taken).1.kept.grows

theorem grows_queue (message : Message) (session : Session) :
    Grows session (after (queue message session)) := by
  refine after_whileOpen (.refl session) fun opened => ?_
  split <;> exact grows_of_eq rfl rfl

theorem grows_flush (session : Session) : Grows session (after session.flush) := by
  cases closed : session.isClosed with
  | true =>
      rw [flush, whileOpen_of_closed _ closed]
      exact .refl session
  | false =>
      have flushes := session.flushes closed
      generalize session.flush = result at flushes
      cases flushes with
      | sent written queued whole | unsent written queued whole =>
          refine ⟨?_, id⟩
          rw [after, whole]
          exact List.prefix_append _ _
      | stuck taken fault =>
          constructor
          · rw [after, ByteQueue.toList_push]
            exact List.prefix_append _ _
          · intro clean count again
            cases again

theorem grows_send (message : Message) (session : Session) :
    Grows session (after (send message session)) := by
  have queued := grows_queue message session
  rw [send, Action.andThen]
  split
  · next middle done =>
      rw [done] at queued
      exact queued.trans (grows_flush middle)
  · next error next failed =>
      rw [failed] at queued
      exact queued

theorem grows_during {phase : Phase} {kind : Message.Kind} {action : Action Unit}
    (acts : Grows session (after (action session))) :
    Grows session (after (during phase kind action session)) := by
  refine after_whileOpen (.refl session) fun opened => ?_
  split
  · exact acts
  · exact .refl session

theorem grows_respond (session : Session) : Grows session (after (respondToHandshake session)) := by
  refine grows_during ?_
  have sends := grows_send (.handshakeResponse 0 session.serverKey) session
  rw [Action.andThen]
  split
  · next middle done =>
      rw [done] at sends
      exact sends.trans (grows_of_eq rfl rfl)
  · next error last failed =>
      rw [failed] at sends
      exact sends

theorem grows_close (session : Session) : Grows session session.close := by
  rw [close]
  split <;> exact grows_of_eq rfl rfl

theorem grows_act (operation : Operation) (session : Session) :
    Grows session (after (operation.act session)) := by
  cases operation with
  | close => exact grows_close session
  | read => rw [Operation.act, after_yield]; exact (kept_read session).grows
  | buffer => rw [Operation.act, after_yield]; exact grows_buffer session
  | queue message => rw [Operation.act, after_yield]; exact grows_queue message session
  | flush => rw [Operation.act, after_yield]; exact grows_flush session
  | send message => rw [Operation.act, after_yield]; exact grows_send message session
  | respond => rw [Operation.act, after_yield]; exact grows_respond session
  | authenticate =>
      rw [Operation.act, after_yield]
      exact grows_during (grows_of_eq rfl rfl)
  | enter table pair =>
      rw [Operation.act, after_yield]
      exact grows_during (grows_of_eq rfl rfl)

/-- Whatever happens to a session, what was written stays written. -/
theorem written_next (session : Session) (event : Event) :
    session.pipe.written.toList <+: (session.next event).pipe.written.toList := by
  cases event with
  | deliver | finish => exact List.prefix_refl _
  | disturb call => cases call <;> exact List.prefix_refl _
  | perform operation => exact (grows_act operation session).written

/-- No event of these makes a write fail that takes some bytes. -/
def Event.Clean : Event → Prop
  | .disturb call => call.Clean
  | _ => True

theorem clean_next {event : Event} (clean : session.pipe.Clean) (gentle : event.Clean) :
    (session.next event).pipe.Clean := by
  cases event with
  | deliver | finish => exact clean
  | disturb call => exact clean.disturb gentle
  | perform operation => exact (grows_act operation session).clean clean

theorem Reaches.written (reaches : Reaches session last) :
    session.pipe.written.toList <+: last.pipe.written.toList := by
  obtain ⟨events, rfl⟩ := reaches
  induction events generalizing session with
  | nil => exact List.prefix_refl _
  | cons event rest ih => exact (written_next session event).trans ih

end GameServer.Session
