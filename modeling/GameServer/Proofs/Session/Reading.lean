import GameServer.Connection.Progress
import GameServer.Proofs.Framer.Resume

/- This file shows that a read depends only on the bytes that have not been decoded. -/

namespace GameServer

namespace Pipe

theorem ended_of_waiting (pipe next : Pipe) (room : Nat)
    (same : pipe.read room = (.waiting, next)) : pipe.ended = false := by
  unfold read at same
  split at same
  · cases same
  · split at same
    · split at same
      · cases same
      · next going => simpa using going
    · cases same

theorem read_ended (pipe next : Pipe) (room : Nat) (same : pipe.read room = (.ended, next)) :
    pipe.arrived.size = 0 ∧ pipe.ended = true := by
  unfold read at same
  split at same
  · cases same
  · split at same
    · next empty =>
        split at same
        · next finished => exact ⟨empty, finished⟩
        · cases same
    · cases same

theorem read_failed (pipe next : Pipe) (room : Nat) (same : pipe.read room = (.failed, next)) :
    pipe.readFault = true ∧ next = { pipe with readFault := false } := by
  unfold read at same
  split at same
  · next fault =>
      cases same
      exact ⟨fault, rfl⟩
  · split at same
    · split at same <;> cases same
    · cases same

/-- No call on the pipe will fail, and the flag tells whether the client has stopped sending. -/
structure Sound (pipe : Pipe) (ended : Bool) : Prop where
  ended : pipe.ended = ended
  readFault : pipe.readFault = false
  writable : pipe.Writable

theorem Sound.deliver {pipe : Pipe} {ended : Bool} (sound : pipe.Sound ended) (bytes : Bytes) :
    (pipe.deliver bytes).Sound ended :=
  ⟨sound.ended, sound.readFault, sound.writable.write, sound.writable.flush⟩

theorem Sound.finish {pipe : Pipe} {ended : Bool} (sound : pipe.Sound ended) :
    pipe.finish.Sound true :=
  ⟨rfl, sound.readFault, sound.writable.write, sound.writable.flush⟩

end Pipe

namespace Session

/-- The bytes of the client that were not decoded, on this side of the pipe and on the other. -/
def unread (session : Session) : Bytes :=
  session.received.bytes.toList ++ session.pipe.arrived.toList

/-- What no read changes. -/
structure KeptByRead (before after : Session) : Prop where
  info : after.info = before.info
  queued : after.queued = before.queued
  phase : after.phase = before.phase
  serverKey : after.serverKey = before.serverKey
  written : after.pipe.written = before.pipe.written
  ended : after.pipe.ended = before.pipe.ended
  writeFault : after.pipe.writeFault = before.pipe.writeFault
  flushFault : after.pipe.flushFault = before.pipe.flushFault
  readFault : before.pipe.readFault = false → after.pipe.readFault = false

theorem KeptByRead.refl (session : Session) : KeptByRead session session :=
  ⟨rfl, rfl, rfl, rfl, rfl, rfl, rfl, rfl, id⟩

theorem KeptByRead.trans {first second third : Session} (one : KeptByRead first second)
    (two : KeptByRead second third) : KeptByRead first third where
  info := two.info.trans one.info
  queued := two.queued.trans one.queued
  phase := two.phase.trans one.phase
  serverKey := two.serverKey.trans one.serverKey
  written := two.written.trans one.written
  ended := two.ended.trans one.ended
  writeFault := two.writeFault.trans one.writeFault
  flushFault := two.flushFault.trans one.flushFault
  readFault := fun sound => two.readFault (one.readFault sound)

theorem KeptByRead.sound {before after : Session} (kept : KeptByRead before after) {ended : Bool}
    (sound : before.pipe.Sound ended) : after.pipe.Sound ended where
  ended := kept.ended.trans sound.ended
  readFault := kept.readFault sound.readFault
  writable := ⟨kept.writeFault.trans sound.writable.write, kept.flushFault.trans sound.writable.flush⟩

theorem KeptByRead.isClosed {before after : Session} (kept : KeptByRead before after) :
    after.isClosed = before.isClosed := by
  rw [Session.isClosed, Session.isClosed, kept.phase]

/-- Whatever comes next, the second session decodes it as the first one would have. -/
structure Continues (before after : Session) : Prop where
  kept : KeptByRead before after
  leads : before.framer.LeadsTo before.unread after.framer after.unread

/-- Whatever comes next, the first session decodes this outcome and leaves the second one. -/
structure Settles (before : Session) (outcome : Except ProtocolError (Option Message))
    (after : Session) : Prop where
  kept : KeptByRead before after
  decodes : before.framer.Decodes before.unread outcome after.framer after.unread

theorem Continues.refl (session : Session) : Continues session session :=
  ⟨.refl session, .refl _ _⟩

theorem Continues.trans {first second third : Session} (one : Continues first second)
    (two : Continues second third) : Continues first third :=
  ⟨one.kept.trans two.kept, one.leads.trans two.leads⟩

theorem Continues.settles {first second third : Session}
    {outcome : Except ProtocolError (Option Message)} (one : Continues first second)
    (two : Settles second outcome third) : Settles first outcome third :=
  ⟨one.kept.trans two.kept, one.leads.decodes two.decodes⟩

/-- The bytes of a payload that is not complete need not be looked at. -/
theorem decodeNext_eq (session : Session) :
    let cut := session.framer.decode session.received.bytes.toList
    ∃ received, session.decodeNext =
        (cut.outcome, { session with framer := cut.framer, received := received }) ∧
      received.bytes.toList = cut.rest := by
  dsimp only
  unfold decodeNext
  split
  · next lacking =>
      rw [← ByteQueue.length_toList] at lacking
      rw [Framer.decode_of_missing _ _ lacking]
      exact ⟨session.received, rfl, rfl⟩
  · exact ⟨_, rfl, bytes_consume session⟩

theorem decodeNext_continues (session decoded : Session)
    (pending : session.decodeNext = (.ok none, decoded)) : Continues session decoded := by
  obtain ⟨received, same, rest⟩ := decodeNext_eq session
  rw [pending, Prod.mk.injEq] at same
  obtain ⟨outcome, final⟩ := same
  subst final
  have unsettled : (session.framer.decode session.received.bytes.toList).settled = false := by
    rw [Framer.Cut.settled, ← outcome]
  refine ⟨⟨rfl, rfl, rfl, rfl, rfl, rfl, rfl, rfl, id⟩, ?_⟩
  rw [unread, unread, rest]
  exact Framer.leadsTo_of_open _ _ _ unsettled

theorem decodeNext_settles (session decoded : Session)
    (outcome : Except ProtocolError (Option Message)) (found : outcome ≠ .ok none)
    (same : session.decodeNext = (outcome, decoded)) : Settles session outcome decoded := by
  obtain ⟨received, split, rest⟩ := decodeNext_eq session
  rw [same, Prod.mk.injEq] at split
  obtain ⟨first, final⟩ := split
  subst final
  have settled : (session.framer.decode session.received.bytes.toList).settled = true := by
    unfold Framer.Cut.settled
    split
    · next none => exact absurd (first.trans none) found
    · rfl
  refine ⟨⟨rfl, rfl, rfl, rfl, rfl, rfl, rfl, rfl, id⟩, ?_⟩
  rw [unread, unread, rest, first]
  exact Framer.decodes_of_settled _ _ _ settled

/-- Bytes that are received are still unread. -/
theorem receive_continues (session : Session) (pipe : Pipe) (bytes : Bytes)
    (taken : session.pipe.read session.room = (.bytes bytes, pipe)) :
    Continues session (session.receive pipe bytes) ∧
      (session.receive pipe bytes).unread = session.unread := by
  obtain ⟨front, left, _⟩ := Pipe.read_bytes session.pipe pipe session.room bytes taken
  subst front left
  have same : (session.receive { session.pipe with
      arrived := session.pipe.arrived.drop session.room }
      (session.pipe.arrived.toList.take session.room)).unread = session.unread := by
    simp only [unread, receive, ReceiveBuffer.bytes_push, ReceiveBuffer.bytes_ready,
      ByteQueue.toList_push, ByteQueue.toList_drop, List.append_assoc, List.take_append_drop]
  refine ⟨⟨⟨rfl, rfl, rfl, rfl, rfl, rfl, rfl, rfl, id⟩, ?_⟩, same⟩
  rw [same]
  exact .refl _ _

/-- The framer has taken all bytes that it can, and they make up no frame. -/
def Starved (session : Session) : Prop :=
  session.pipe.arrived.toList = [] ∧ (session.framer.decode session.unread).settled = false

/-- Why a read of an open session fails. -/
inductive Fails (session : Session) : SessionError → Session → Prop where
  | unexpected (message : Message) (next : Session) (settles : Settles session (.ok message) next)
      (refused : accepts session.phase message.kind = false) :
      Fails session (.protocol (.unexpected message.kind session.phase)) next
  | broken (error : ProtocolError) (next : Session)
      (settles : Settles session (.error error) next) : Fails session (.protocol error) next
  | cutShort (next : Session) (continues : Continues session next) (starved : next.Starved)
      (finished : session.pipe.ended = true) : Fails session (.transport .cutShort) next
  | disturbed (next : Session) (continues : Continues session next)
      (fault : session.pipe.readFault = true) : Fails session (.transport .readFailed) next

/-- What a read of an open session comes to. -/
inductive Reads (session : Session) : EStateM.Result SessionError Session Incoming → Prop where
  | message (message : Message) (next : Session) (settles : Settles session (.ok message) next)
      (accepted : accepts session.phase message.kind = true) :
      Reads session (.ok (.message message) next)
  | waiting (next : Session) (continues : Continues session next) (starved : next.Starved)
      (going : session.pipe.ended = false) : Reads session (.ok .waiting next)
  | ended (next : Session) (continues : Continues session next) (starved : next.Starved)
      (finished : session.pipe.ended = true) : Reads session (.ok .ended next)
  | failed (error : SessionError) (next : Session) (fails : Fails session error next) :
      Reads session (.error error next)

theorem Fails.after {session middle next : Session} {error : SessionError}
    (continues : Continues session middle) (fails : Fails middle error next) :
    Fails session error next := by
  have kept := continues.kept
  cases fails with
  | unexpected message next settles refused =>
      rw [kept.phase] at refused ⊢
      exact .unexpected message next (continues.settles settles) refused
  | broken error next settles => exact .broken error next (continues.settles settles)
  | cutShort next later starved finished =>
      exact .cutShort next (continues.trans later) starved (kept.ended.symm.trans finished)
  | disturbed next later fault =>
      refine .disturbed next (continues.trans later) ?_
      cases sound : session.pipe.readFault with
      | true => rfl
      | false =>
          rw [kept.readFault sound] at fault
          cases fault

theorem Reads.after {session middle : Session}
    {result : EStateM.Result SessionError Session Incoming} (continues : Continues session middle)
    (reads : Reads middle result) : Reads session result := by
  have kept := continues.kept
  cases reads with
  | message message next settles accepted =>
      rw [kept.phase] at accepted
      exact .message message next (continues.settles settles) accepted
  | waiting next later starved going =>
      exact .waiting next (continues.trans later) starved (kept.ended.symm.trans going)
  | ended next later starved finished =>
      exact .ended next (continues.trans later) starved (kept.ended.symm.trans finished)
  | failed error next fails => exact .failed error next (fails.after continues)

theorem starved_of_quiet (session decoded : Session)
    (pending : session.decodeNext = (.ok none, decoded)) (quiet : session.pipe.arrived.size = 0) :
    decoded.Starved := by
  have kept := pipe_decodeNext session
  obtain ⟨received, same, rest⟩ := decodeNext_eq session
  rw [pending] at kept same
  rw [Prod.mk.injEq] at same
  obtain ⟨outcome, final⟩ := same
  have unsettled : (session.framer.decode session.received.bytes.toList).settled = false := by
    rw [Framer.Cut.settled, ← outcome]
  have empty : decoded.pipe.arrived.toList = [] := by
    rw [kept, ← List.length_eq_zero_iff, ByteQueue.length_toList, quiet]
  refine ⟨empty, ?_⟩
  rw [unread, empty, List.append_nil, final, rest]
  exact Framer.decode_of_open _ _ unsettled

/-- A read that finds the end of the stream looks whether a frame is missing bytes. -/
theorem reads_atEnd (session : Session) (starved : session.Starved)
    (finished : session.pipe.ended = true) : Reads session (atEnd session) := by
  unfold atEnd
  split
  · exact .ended session (.refl session) starved finished
  · exact .failed _ _ (.cutShort session (.refl session) starved finished)

theorem reads_readOpen (session : Session) : Reads session session.readOpen := by
  fun_induction readOpen session with
  | case1 session error decoded found =>
      have settles := decodeNext_settles session decoded (.error error) (by simp) found
      exact .failed _ _ (.broken error decoded settles)
  | case2 session message decoded found =>
      have settles := decodeNext_settles session decoded (.ok message) (by simp) found
      unfold accept
      cases accepted : accepts decoded.phase message.kind with
      | true =>
          rw [if_pos rfl]
          rw [settles.kept.phase] at accepted
          exact .message message decoded settles accepted
      | false =>
          rw [if_neg Bool.false_ne_true, settles.kept.phase]
          rw [settles.kept.phase] at accepted
          exact .failed _ _ (.unexpected message decoded settles accepted)
  | case3 session decoded pending pipe quiet =>
      have continues := decodeNext_continues session decoded pending
      have silent := Pipe.arrived_of_waiting session.pipe pipe _ quiet
      refine .waiting decoded continues (starved_of_quiet session decoded pending silent) ?_
      exact Pipe.ended_of_waiting session.pipe pipe _ quiet
  | case4 session decoded pending pipe failing =>
      have continues := decodeNext_continues session decoded pending
      have kept := pipe_decodeNext session
      rw [pending] at kept
      obtain ⟨fault, left⟩ := Pipe.read_failed session.pipe pipe _ failing
      subst left
      rw [← kept]
      refine .failed _ _ (.disturbed _ (continues.trans ?_) fault)
      exact ⟨⟨rfl, rfl, rfl, rfl, rfl, rfl, rfl, rfl, fun _ => rfl⟩, .refl _ _⟩
  | case5 session decoded pending pipe exhausted =>
      have continues := decodeNext_continues session decoded pending
      obtain ⟨silent, finished⟩ := Pipe.read_ended session.pipe pipe _ exhausted
      refine (reads_atEnd decoded (starved_of_quiet session decoded pending silent) ?_).after
        continues
      rw [continues.kept.ended, finished]
  | case6 session decoded pending bytes pipe taken ih =>
      have continues := decodeNext_continues session decoded pending
      have kept := pipe_decodeNext session
      rw [pending] at kept
      rw [← kept] at taken
      have received := (receive_continues decoded pipe bytes taken).1
      exact ih.after (continues.trans received)

/-- What a session hears within a limit of time. -/
inductive Hears (session : Session) (since limit now : Nat) : Hearing → Session → Prop where
  | message (message : Message) (next : Session) (settles : Settles session (.ok message) next)
      (accepted : accepts session.phase message.kind = true) :
      Hears session since limit now (.message message) next
  | waiting (next : Session) (continues : Continues session next) (starved : next.Starved)
      (going : session.pipe.ended = false) (early : now < since + limit) :
      Hears session since limit now .waiting next
  | ended (next : Session) (continues : Continues session next) (starved : next.Starved)
      (finished : session.pipe.ended = true) : Hears session since limit now .ended next
  | failed (error : SessionError) (next : Session) (fails : Fails session error next) :
      Hears session since limit now (.failed error) next
  | late (next : Session) (continues : Continues session next) (starved : next.Starved)
      (elapsed : since + limit ≤ now) : Hears session since limit now (.failed .timedOut) next

theorem hears_hear (session : Session) (since limit now : Nat)
    (opened : session.isClosed = false) :
    Hears session since limit now (session.hear since limit now).1
      (session.hear since limit now).2 := by
  have reads := session.reads_readOpen
  rw [hear, read, if_neg (by rw [opened]; exact Bool.false_ne_true)]
  generalize session.readOpen = result at reads
  cases reads with
  | message message next settles accepted => exact .message message next settles accepted
  | waiting next continues starved going =>
      by_cases elapsed : since + limit ≤ now
      · rw [if_pos elapsed]
        exact .late next continues starved elapsed
      · rw [if_neg elapsed]
        exact .waiting next continues starved going (Nat.lt_of_not_le elapsed)
  | ended next continues starved finished => exact .ended next continues starved finished
  | failed error next fails => exact .failed error next fails

/-- Nothing is late before its time. -/
theorem hear_timely (session : Session) (since limit now : Nat) (early : now < since + limit) :
    (session.hear since limit now).1 ≠ .failed .timedOut := by
  intro late
  cases closed : session.isClosed with
  | true =>
      rw [hear, read, if_pos closed] at late
      cases late
  | false =>
      have hears := session.hears_hear since limit now closed
      rw [late] at hears
      generalize (session.hear since limit now).2 = next at hears
      cases hears with
      | failed error next fails => cases fails
      | late next continues starved elapsed => omega

/-- What it comes to that an open session receives bytes without decoding them. -/
inductive Buffers (session : Session) : EStateM.Result SessionError Session Buffering → Prop where
  | waiting (silent : session.pipe.arrived.toList = []) (going : session.pipe.ended = false) :
      Buffers session (.ok .waiting session)
  | ended (silent : session.pipe.arrived.toList = []) (finished : session.pipe.ended = true) :
      Buffers session (.ok .ended session)
  | bytes (count : Nat) (next : Session) (kept : KeptByRead session next)
      (framer : next.framer = session.framer) (unread : next.unread = session.unread) :
      Buffers session (.ok (.bytes count) next)
  | failed (fault : session.pipe.readFault = true) :
      Buffers session (.error (.transport .readFailed)
        { session with pipe := { session.pipe with readFault := false } })

theorem buffers_buffer (session : Session) (opened : session.isClosed = false) :
    Buffers session session.buffer := by
  rw [buffer, whileOpen, if_neg (by rw [opened]; exact Bool.false_ne_true)]
  split
  · next pipe quiet =>
      have silent := Pipe.arrived_of_waiting _ _ _ quiet
      rw [← ByteQueue.length_toList] at silent
      exact .waiting (List.length_eq_zero_iff.mp silent) (Pipe.ended_of_waiting _ _ _ quiet)
  · next pipe failing =>
      obtain ⟨fault, rfl⟩ := Pipe.read_failed _ _ _ failing
      exact .failed fault
  · next pipe exhausted =>
      obtain ⟨silent, finished⟩ := Pipe.read_ended _ _ _ exhausted
      rw [← ByteQueue.length_toList] at silent
      exact .ended (List.length_eq_zero_iff.mp silent) finished
  · next bytes pipe taken =>
      obtain ⟨continues, unread⟩ := receive_continues session pipe bytes taken
      exact .bytes _ _ continues.kept rfl unread

end Session

end GameServer
