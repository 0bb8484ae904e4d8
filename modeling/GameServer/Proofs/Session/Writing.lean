import GameServer.Connection.Progress
import GameServer.Proofs.Framer.Streams

/- This file shows what a session writes. -/

namespace GameServer

/-- Messages are encoded in order until one is refused, and then none is written. -/
def Framer.encodeAll (framer : Framer) : List Message → Except ProtocolError (Framer × Bytes)
  | [] => .ok (framer, [])
  | message :: rest =>
      match encode message (framer, []) with
      | .error error _ => .error error
      | .ok () (next, bytes) =>
          match next.encodeAll rest with
          | .error error => .error error
          | .ok (last, more) => .ok (last, bytes ++ more)

theorem Framer.encodeAll_cons_ok {framer next : Framer} {message : Message} {rest : List Message}
    {bytes : Bytes} (accepted : framer.encodeAll (message :: rest) = .ok (next, bytes)) :
    ∃ middle front more, encode message (framer, []) = .ok () (middle, front) ∧
      middle.encodeAll rest = .ok (next, more) ∧ bytes = front ++ more := by
  simp only [encodeAll] at accepted
  split at accepted
  · cases accepted
  · next middle front encoded =>
      split at accepted
      · cases accepted
      · next last more others =>
          cases accepted
          exact ⟨middle, front, more, encoded, others, rfl⟩

namespace Session

/-- What no write changes. -/
structure KeptByWrite (before after : Session) : Prop where
  info : after.info = before.info
  received : after.received = before.received
  phase : after.phase = before.phase
  serverKey : after.serverKey = before.serverKey
  arrived : after.pipe.arrived = before.pipe.arrived
  ended : after.pipe.ended = before.pipe.ended
  readFault : after.pipe.readFault = before.pipe.readFault
  writeFault : after.pipe.writeFault = before.pipe.writeFault
  flushFault : after.pipe.flushFault = before.pipe.flushFault

theorem KeptByWrite.refl (session : Session) : KeptByWrite session session :=
  ⟨rfl, rfl, rfl, rfl, rfl, rfl, rfl, rfl, rfl⟩

theorem KeptByWrite.trans {first second third : Session} (one : KeptByWrite first second)
    (two : KeptByWrite second third) : KeptByWrite first third where
  info := two.info.trans one.info
  received := two.received.trans one.received
  phase := two.phase.trans one.phase
  serverKey := two.serverKey.trans one.serverKey
  arrived := two.arrived.trans one.arrived
  ended := two.ended.trans one.ended
  readFault := two.readFault.trans one.readFault
  writeFault := two.writeFault.trans one.writeFault
  flushFault := two.flushFault.trans one.flushFault

theorem KeptByWrite.writable {before after : Session} (kept : KeptByWrite before after)
    (sound : before.pipe.Writable) : after.pipe.Writable :=
  ⟨kept.writeFault.trans sound.write, kept.flushFault.trans sound.flush⟩

theorem queue_ok (message : Message) (session next : Session)
    (accepted : queue message session = .ok () next) :
    ∃ bytes, Framer.encode message (session.framer, []) = .ok () (next.framer, bytes) ∧
      next = { session with framer := next.framer, queued := session.queued.push bytes } := by
  obtain ⟨_, same⟩ := whileOpen_ok _ session next () accepted
  split at same
  · next framer bytes encoded =>
      cases same
      exact ⟨bytes, encoded, rfl⟩
  · cases same

/-- All replies are encoded and queued, and nothing else happens. -/
theorem queueAll_ok (messages : List Message) (session next : Session)
    (accepted : queueAll messages session = .ok () next) :
    ∃ bytes, session.framer.encodeAll messages = .ok (next.framer, bytes) ∧
      KeptByWrite session next ∧ next.pipe = session.pipe ∧
      next.queued.toList = session.queued.toList ++ bytes := by
  induction messages generalizing session with
  | nil =>
      cases accepted
      exact ⟨[], rfl, .refl _, rfl, (List.append_nil _).symm⟩
  | cons message rest ih =>
      obtain ⟨middle, queued, later⟩ := andThen_ok _ _ session next () accepted
      obtain ⟨bytes, encoded, same⟩ := queue_ok message session middle queued
      obtain ⟨more, others, kept, pipe, written⟩ := ih middle later
      have first : KeptByWrite session middle := by
        rw [same]
        exact ⟨rfl, rfl, rfl, rfl, rfl, rfl, rfl, rfl, rfl⟩
      refine ⟨bytes ++ more, ?_, first.trans kept, ?_, ?_⟩
      · simp only [Framer.encodeAll, encoded, others]
      · rw [pipe, same]
      · rw [written, same]
        simp only [ByteQueue.toList_push, List.append_assoc]

theorem flush_ok (session next : Session) (accepted : flush session = .ok () next) :
    KeptByWrite session next ∧ next.framer = session.framer ∧ next.queued.toList = [] ∧
      next.pipe.written.toList = session.pipe.written.toList ++ session.queued.toList := by
  have flushes := session.flushes (whileOpen_ok _ session next () accepted).1
  rw [accepted] at flushes
  cases flushes with
  | sent written queued whole taken empty calm =>
      exact ⟨⟨rfl, rfl, rfl, rfl, rfl, rfl, rfl, rfl, rfl⟩, rfl, empty, whole⟩

/-- What was queued is written, and the messages that are sent behind it. -/
theorem sendAll_flushes (messages : List Message) (session next : Session)
    (accepted : sendAll messages session = .ok () next) :
    ∃ bytes, session.framer.encodeAll messages = .ok (next.framer, bytes) ∧
      KeptByWrite session next ∧ next.queued.toList = [] ∧
      next.pipe.written.toList =
        session.pipe.written.toList ++ (session.queued.toList ++ bytes) := by
  obtain ⟨middle, queued, flushed⟩ := andThen_ok _ _ session next () accepted
  obtain ⟨bytes, encoded, kept, pipe, waiting⟩ := queueAll_ok messages session middle queued
  obtain ⟨later, framer, empty, written⟩ := flush_ok middle next flushed
  rw [framer]
  refine ⟨bytes, encoded, kept.trans later, empty, ?_⟩
  rw [written, pipe, waiting]

/-- Messages that are sent are written behind what was written before. -/
theorem sendAll_ok (messages : List Message) (session next : Session)
    (clean : session.queued.toList = []) (accepted : sendAll messages session = .ok () next) :
    ∃ bytes, session.framer.encodeAll messages = .ok (next.framer, bytes) ∧
      KeptByWrite session next ∧ next.queued.toList = [] ∧
      next.pipe.written.toList = session.pipe.written.toList ++ bytes := by
  obtain ⟨bytes, encoded, kept, empty, written⟩ := sendAll_flushes messages session next accepted
  rw [clean, List.nil_append] at written
  exact ⟨bytes, encoded, kept, empty, written⟩

theorem queue_error (message : Message) (session next : Session) (error : SessionError)
    (opened : session.isClosed = false) (refused : queue message session = .error error next) :
    ∃ cause after, Framer.encode message (session.framer, []) = .error cause after ∧
      error = .protocol cause ∧ next.pipe = session.pipe := by
  rw [queue, whileOpen_of_open _ session opened] at refused
  split at refused
  · cases refused
  · next cause framer bytes encoded =>
      cases refused
      exact ⟨cause, _, encoded, rfl, rfl⟩

theorem andThen_error {first second : Action Unit} {session next : Session} {error : SessionError}
    (refused : first.andThen second session = .error error next) :
    first session = .error error next ∨
      ∃ middle, first session = .ok () middle ∧ second middle = .error error next := by
  unfold Action.andThen at refused
  split at refused
  · next middle done => exact .inr ⟨middle, done, refused⟩
  · next cause left failed =>
      cases refused
      exact .inl failed

theorem KeptByWrite.isClosed {before after : Session} (kept : KeptByWrite before after) :
    after.isClosed = before.isClosed := by
  rw [Session.isClosed, Session.isClosed, kept.phase]

/-- One message that is refused keeps all of them off the pipe. -/
theorem queueAll_error (messages : List Message) (session next : Session) (error : SessionError)
    (opened : session.isClosed = false)
    (refused : queueAll messages session = .error error next) :
    ∃ cause, session.framer.encodeAll messages = .error cause ∧ error = .protocol cause ∧
      next.pipe = session.pipe := by
  induction messages generalizing session with
  | nil => cases refused
  | cons message rest ih =>
      rcases andThen_error refused with failed | ⟨middle, queued, failed⟩
      · obtain ⟨cause, after, encoded, wording, pipe⟩ :=
          queue_error message session next error opened failed
        refine ⟨cause, ?_, wording, pipe⟩
        simp only [Framer.encodeAll, encoded]
      · obtain ⟨bytes, encoded, same⟩ := queue_ok message session middle queued
        have open' : middle.isClosed = false := by
          rw [same]
          exact opened
        obtain ⟨cause, others, wording, pipe⟩ := ih middle open' failed
        refine ⟨cause, ?_, wording, ?_⟩
        · simp only [Framer.encodeAll, encoded, others]
        · rw [pipe, same]

/-- A pipe that is not disturbed takes all that is queued. -/
theorem flush_sound (session : Session) (opened : session.isClosed = false)
    (sound : session.pipe.Writable) : ∃ next, flush session = .ok () next := by
  have flushes := session.flushes opened
  generalize session.flush = result at flushes ⊢
  cases flushes with
  | sent => exact ⟨_, rfl⟩
  | stuck taken fault =>
      rw [sound.write] at fault
      cases fault
  | unsent written queued whole taken empty fault =>
      rw [sound.flush] at fault
      cases fault

theorem sendAll_error (messages : List Message) (session next : Session) (error : SessionError)
    (opened : session.isClosed = false) (sound : session.pipe.Writable)
    (refused : sendAll messages session = .error error next) :
    ∃ cause, session.framer.encodeAll messages = .error cause ∧ error = .protocol cause ∧
      next.pipe = session.pipe := by
  rcases andThen_error refused with failed | ⟨middle, queued, failed⟩
  · exact queueAll_error messages session next error opened failed
  · obtain ⟨bytes, encoded, kept, pipe, waiting⟩ := queueAll_ok messages session middle queued
    have open' := kept.isClosed.trans opened
    obtain ⟨last, flushed⟩ := flush_sound middle open' (kept.writable sound)
    rw [flushed] at failed
    cases failed

theorem send_eq (message : Message) : send message = sendAll [message] := by
  funext session
  simp only [send, sendAll, queueAll, Action.andThen]
  split <;> rfl

theorem close_pipe (session : Session) :
    session.close.pipe.written = session.pipe.written ∧
      session.close.pipe.ended = session.pipe.ended := by
  unfold close
  split <;> exact ⟨rfl, rfl⟩

end Session

end GameServer
