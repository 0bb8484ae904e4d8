import GameServer.Proofs.Framer.Boundary
import GameServer.Proofs.Session.Ledger

/- This file shows what the reads of a game yield. -/

namespace GameServer

namespace Framer

/-- How far a framer is in a frame, and the bytes that it has not taken. -/
def parked (final : Framer × Bytes) : Progress × Bytes := (final.1.progress, final.2)

/-- Whatever stands behind the bytes, draining them yields these results and then what the second
framer drains from what is left. -/
def Drains (framer : Framer) (source : Bytes) (results : List (Except ProtocolError Message))
    (next : Framer) (left : Bytes) : Prop :=
  ∀ more,
    (framer.drain (source ++ more)).1 = results ++ (next.drain (left ++ more)).1 ∧
      parked (framer.drain (source ++ more)).2 = parked (next.drain (left ++ more)).2

variable {framer next last : Framer} {source middle left : Bytes}
  {results later : List (Except ProtocolError Message)}

theorem Drains.refl (framer : Framer) (source : Bytes) : framer.Drains source [] framer source :=
  fun _ => ⟨rfl, rfl⟩

/-- More bytes may arrive before draining goes on. -/
theorem Drains.trans {more : Bytes} (one : framer.Drains source results next middle)
    (two : next.Drains (middle ++ more) later last left) :
    framer.Drains (source ++ more) (results ++ later) last left := by
  intro behind
  obtain ⟨first, parked⟩ := one (more ++ behind)
  obtain ⟨second, still⟩ := two behind
  rw [List.append_assoc] at second still
  rw [List.append_assoc, first, second, parked, still, List.append_assoc]
  exact ⟨rfl, rfl⟩

theorem LeadsTo.drains (leads : framer.LeadsTo source next left) :
    framer.Drains source [] next left := by
  intro more
  obtain ⟨taken, same⟩ := leads
  rw [drain_of_behind framer next _ _ taken (same more)]
  exact ⟨rfl, rfl⟩

theorem Decodes.drains {outcome : Except ProtocolError (Option Message)}
    (decodes : framer.Decodes source outcome next left) (found : outcome ≠ .ok none) :
    framer.Drains source (Cut.results ⟨outcome, next, 0, left⟩) next left := by
  intro more
  obtain ⟨taken, same⟩ := decodes
  have settled : (framer.decode (source ++ more)).settled = true := by
    rw [same more, Cut.settled]
    split
    · next pending => exact absurd pending found
    · rfl
  rw [drain_of_settled framer _ settled, same more]
  exact ⟨rfl, rfl⟩

/-- The outgoing stream has no part in draining. -/
theorem drain_withOutgoing (framer : Framer) (stream : Isaac) (source : Bytes) :
    (framer.withOutgoing stream).drain source =
      ((framer.drain source).1, (framer.drain source).2.1.withOutgoing stream,
        (framer.drain source).2.2) := by
  have other := decode_withOutgoing framer stream source
  fun_induction opcodesRead framer source with
  | case1 framer source settled ih =>
      rw [drain_of_settled _ source (by rw [other]; exact settled), other,
        drain_of_settled framer source settled]
      simp only [Cut.withOutgoing, ih (decode_withOutgoing _ stream _)]
      rfl
  | case2 framer source unsettled =>
      rw [Bool.not_eq_true] at unsettled
      rw [drain_of_open _ source (by rw [other]; exact unsettled), other,
        drain_of_open framer source unsettled]
      rfl

theorem drains_hide (framer : Framer) (opcode : UInt8) (source : Bytes) :
    framer.Drains source [] (framer.hide opcode).2 source := by
  intro more
  cases ciphered : framer.cipher with
  | none =>
      rw [hide, ciphered]
      exact ⟨rfl, rfl⟩
  | some pair =>
      rw [hide_ciphered framer pair opcode ciphered, drain_withOutgoing]
      exact ⟨rfl, rfl⟩

/-- Writing has no part in draining. -/
theorem drains_encode {message : Message} {bytes : Bytes} (source : Bytes)
    (accepted : encode message (framer, []) = .ok () (next, bytes)) :
    framer.Drains source [] next source := by
  obtain ⟨binding, payload, _, _, framing⟩ := encode_ok message _ _ accepted
  split at framing
  · cases framing
    exact .refl framer source
  · obtain ⟨_, final⟩ := putFrame_ok _ _ _ _ _ framing
    cases final
    exact drains_hide framer _ source

/-- A framer that yields nothing and is left at rest without bytes had none to begin with. -/
theorem resting_of_decode (unsettled : (framer.decode source).settled = false)
    (idle : (framer.decode source).framer.isIdle = true) : framer.isIdle = true ∧ source = [] := by
  rcases framer.restful_or_busy source with resting | busy
  · exact resting
  · have parked := isIdle_takeFrame framer source busy
    rw [← Cut.settled_message, ← decode, unsettled] at parked
    have same : (framer.decode source).framer = (framer.takeFrame source).framer := rfl
    rw [same, parked] at idle
    cases idle

end Framer

namespace Session

/-- The bytes that an event brings from the client. -/
def Event.arrival : Event → Bytes
  | .deliver bytes => bytes
  | _ => []

/-- All bytes that the client sends meanwhile. -/
def arrivals (events : List Event) : Bytes := events.flatMap Event.arrival

/-- The message or protocol error that a read yields, if it yields one. -/
def returned : EStateM.Result SessionError Session Incoming → Option (Except ProtocolError Message)
  | .ok (.message message) _ => some (.ok message)
  | .error (.protocol error) _ => some (.error error)
  | _ => none

/-- What an event yields to the reader. -/
def receipt (session : Session) : Event → List (Except ProtocolError Message)
  | .perform .read => (returned session.read).toList
  | _ => []

/-- What the reads among the events yield, in order. -/
def receipts (session : Session) : List Event → List (Except ProtocolError Message)
  | [] => []
  | event :: rest => session.receipt event ++ (session.next event).receipts rest

/-- The messages of the login are errors in the game. -/
def judged : Except ProtocolError Message → Except ProtocolError Message
  | .ok message =>
      if message.kind = .handshake ∨ message.kind = .login then
        .error (.unexpected message.kind .inGame)
      else .ok message
  | .error error => .error error

theorem judged_ok (message : Message) :
    judged (.ok message) =
      if accepts .inGame message.kind then .ok message
      else .error (.unexpected message.kind .inGame) := by
  rw [judged, accepts]
  by_cases greeting : message.kind = .handshake <;> by_cases block : message.kind = .login <;>
    simp [greeting, block]

variable {session next last : Session} {event : Event}

/-- A session of the game has become another one. What its framer drains from the bytes at hand and
these begins with the results. -/
structure Reckons (session : Session) (bytes : Bytes)
    (results : List (Except ProtocolError Message)) (next : Session) : Prop where
  inGame : next.phase = .inGame
  drains : session.framer.Drains (session.unread ++ bytes) results next.framer next.unread

theorem Reckons.of_leads (inGame : session.phase = .inGame) (phase : next.phase = session.phase)
    (leads : session.framer.LeadsTo session.unread next.framer next.unread) :
    Reckons session [] [] next := by
  refine ⟨phase.trans inGame, ?_⟩
  rw [List.append_nil]
  exact leads.drains

theorem Reckons.of_same (inGame : session.phase = .inGame) (phase : next.phase = session.phase)
    (framer : next.framer = session.framer) (unread : next.unread = session.unread) :
    Reckons session [] [] next := by
  refine .of_leads inGame phase ?_
  rw [framer, unread]
  exact .refl _ _

theorem Continues.reckons (continues : Continues session next) (inGame : session.phase = .inGame) :
    Reckons session [] [] next := .of_leads inGame continues.kept.phase continues.leads

theorem Settles.reckons {outcome : Except ProtocolError (Option Message)}
    (settles : Settles session outcome next) (found : outcome ≠ .ok none)
    (inGame : session.phase = .inGame) :
    Reckons session [] (Framer.Cut.results ⟨outcome, next.framer, 0, next.unread⟩) next := by
  refine ⟨settles.kept.phase.trans inGame, ?_⟩
  rw [List.append_nil]
  exact settles.decodes.drains found

/-- A read yields the next result, if it yields one. -/
theorem reckons_read (inGame : session.phase = .inGame) :
    ∃ results, results.map judged = (returned session.read).toList ∧
      Reckons session [] results (after session.read) := by
  have reads := session.reads_readOpen
  rw [read, if_neg (by rw [isClosed_of_phase inGame (by decide)]; exact Bool.false_ne_true)]
  generalize session.readOpen = result at reads
  cases reads with
  | message message next settles accepted =>
      rw [inGame] at accepted
      refine ⟨[.ok message], ?_, settles.reckons (by simp) inGame⟩
      simp only [List.map_cons, List.map_nil, judged_ok, accepted, if_true, returned,
        Option.toList_some]
  | waiting next continues => exact ⟨[], rfl, continues.reckons inGame⟩
  | ended next continues => exact ⟨[], rfl, continues.reckons inGame⟩
  | failed error next fails =>
      cases fails with
      | unexpected message next settles refused =>
          rw [inGame] at refused ⊢
          refine ⟨[.ok message], ?_, settles.reckons (by simp) inGame⟩
          simp only [List.map_cons, List.map_nil, judged_ok, refused, Bool.false_eq_true, if_false,
            returned, Option.toList_some]
      | broken error next settles => exact ⟨[.error error], rfl, settles.reckons (by simp) inGame⟩
      | cutShort next continues => exact ⟨[], rfl, continues.reckons inGame⟩
      | disturbed next continues => exact ⟨[], rfl, continues.reckons inGame⟩

theorem reckons_buffer (inGame : session.phase = .inGame) :
    Reckons session [] [] (after session.buffer) := by
  have opened := isClosed_of_phase inGame (by decide)
  rw [buffer, whileOpen_of_open _ session opened]
  split
  · exact .of_same inGame rfl rfl rfl
  · next pipe failing =>
      have same := (Pipe.read_failed _ _ _ failing).2
      refine .of_same inGame rfl rfl ?_
      rw [after, same]
      rfl
  · exact .of_same inGame rfl rfl rfl
  · next bytes pipe taken =>
      exact (receive_continues session pipe bytes taken).1.reckons inGame

theorem reckons_queue (message : Message) (inGame : session.phase = .inGame) :
    Reckons session [] [] (after (queue message session)) := by
  cases queued : queue message session with
  | ok value next =>
      obtain ⟨bytes, encoded, same⟩ := queue_ok message session next queued
      refine ⟨?_, ?_⟩
      · rw [after, same]
        exact inGame
      · have unread : next.unread = session.unread := by rw [same]; rfl
        rw [List.append_nil, after, unread]
        exact Framer.drains_encode _ encoded
  | error error next =>
      cases eq_of_queue_error queued
      exact .of_same inGame rfl rfl rfl

theorem reckons_flush (inGame : session.phase = .inGame) :
    Reckons session [] [] (after session.flush) := by
  have flushes := session.flushes (isClosed_of_phase inGame (by decide))
  generalize session.flush = result at flushes
  cases flushes <;> exact .of_same inGame rfl rfl rfl

theorem Reckons.trans {before bytes : Bytes} {results later : List (Except ProtocolError Message)}
    (one : Reckons session before results next) (two : Reckons next bytes later last) :
    Reckons session (before ++ bytes) (results ++ later) last := by
  refine ⟨two.inGame, ?_⟩
  rw [← List.append_assoc]
  exact one.drains.trans two.drains

theorem reckons_send (message : Message) (inGame : session.phase = .inGame) :
    Reckons session [] [] (after (send message session)) := by
  have queued := reckons_queue message inGame
  rw [send, Action.andThen]
  split
  · next middle done =>
      rw [done] at queued
      exact queued.trans (reckons_flush queued.inGame)
  · next error last failed =>
      rw [failed] at queued
      exact queued

/-- In the game every event but closing leaves the bytes of the client to the reads. -/
theorem reckons_next (event : Event) (inGame : session.phase = .inGame)
    (staying : event ≠ .perform .close) :
    ∃ results, results.map judged = session.receipt event ∧
      Reckons session event.arrival results (session.next event) := by
  cases event with
  | deliver bytes =>
      refine ⟨[], rfl, inGame, ?_⟩
      have unread : (session.next (.deliver bytes)).unread = session.unread ++ bytes := by
        simp only [Session.unread, Session.next, Pipe.deliver, ByteQueue.toList_push,
          List.append_assoc]
      rw [unread]
      exact .refl _ _
  | finish => exact ⟨[], rfl, .of_same inGame rfl rfl rfl⟩
  | disturb call =>
      refine ⟨[], rfl, .of_same inGame rfl rfl ?_⟩
      cases call <;> rfl
  | perform operation =>
      -- An operation of another phase is refused.
      have refused (phase : Phase) (belongs : operation.phase? = some phase)
          (other : phase ≠ .inGame) : Reckons session [] [] (after (operation.act session)) := by
        obtain ⟨error, same⟩ := act_other operation session phase belongs
          (by rw [inGame]; exact other.symm)
        rw [same]
        exact .of_same inGame rfl rfl rfl
      cases operation with
      | read =>
          obtain ⟨results, same, reckons⟩ := reckons_read inGame
          refine ⟨results, same, ?_⟩
          rw [Session.next, Operation.act, after_yield]
          exact reckons
      | buffer =>
          refine ⟨[], rfl, ?_⟩
          rw [Session.next, Operation.act, after_yield]
          exact reckons_buffer inGame
      | queue message =>
          refine ⟨[], rfl, ?_⟩
          rw [Session.next, Operation.act, after_yield]
          exact reckons_queue message inGame
      | flush =>
          refine ⟨[], rfl, ?_⟩
          rw [Session.next, Operation.act, after_yield]
          exact reckons_flush inGame
      | send message =>
          refine ⟨[], rfl, ?_⟩
          rw [Session.next, Operation.act, after_yield]
          exact reckons_send message inGame
      | respond => exact ⟨[], rfl, refused _ rfl (by decide)⟩
      | authenticate => exact ⟨[], rfl, refused _ rfl (by decide)⟩
      | enter table pair => exact ⟨[], rfl, refused _ rfl (by decide)⟩
      | close => exact absurd rfl staying

theorem reckons_run (events : List Event) (inGame : session.phase = .inGame)
    (staying : ∀ event ∈ events, event ≠ .perform .close) :
    ∃ results, results.map judged = session.receipts events ∧
      Reckons session (arrivals events) results (session.run events) := by
  induction events generalizing session with
  | nil => exact ⟨[], rfl, .of_same inGame rfl rfl rfl⟩
  | cons event rest ih =>
      obtain ⟨first, same, step⟩ :=
        reckons_next event inGame (staying event List.mem_cons_self)
      obtain ⟨later, others, steps⟩ :=
        ih step.inGame fun event among => staying event (List.mem_cons_of_mem _ among)
      refine ⟨first ++ later, ?_, step.trans steps⟩
      rw [List.map_append, same, others, receipts]

/-- A stream that ends leaves nothing to a framer at rest. -/
theorem resting_of_ended (ended : session.readOpen = .ok .ended next) :
    next.received.bytes.size = 0 ∧ next.framer.isIdle = true := by
  fun_induction readOpen session with
  | case1 => cases ended
  | case2 session message decoded found =>
      unfold accept at ended
      split at ended <;> cases ended
  | case3 => cases ended
  | case4 => cases ended
  | case5 session decoded pending pipe exhausted =>
      unfold atEnd at ended
      split at ended
      · next resting =>
          cases ended
          rw [Bool.and_eq_true, beq_iff_eq] at resting
          exact resting
      · cases ended
  | case6 session decoded pending bytes pipe taken ih => exact ih ended

/-- A stream that is cut short leaves something to a framer, or leaves it in a frame. -/
theorem busy_of_cutShort (cut : session.readOpen = .error (.transport .cutShort) next) :
    ¬(next.received.bytes.size = 0 ∧ next.framer.isIdle = true) := by
  fun_induction readOpen session with
  | case1 => cases cut
  | case2 session message decoded found =>
      unfold accept at cut
      split at cut <;> cases cut
  | case3 => cases cut
  | case4 => cases cut
  | case5 session decoded pending pipe exhausted =>
      unfold atEnd at cut
      split at cut
      · cases cut
      · next busy =>
          cases cut
          rw [Bool.and_eq_true, beq_iff_eq] at busy
          exact busy
  | case6 session decoded pending bytes pipe taken ih => exact ih cut

theorem Starved.drain (starved : session.Starved) :
    session.framer.drain session.unread =
      ([], (session.framer.decode session.unread).framer,
        (session.framer.decode session.unread).rest) :=
  Framer.drain_of_open _ _ starved.2

/-- What an open session reads. -/
theorem reads_read (opened : session.isClosed = false) : Reads session session.read := by
  rw [read, if_neg (by rw [opened]; exact Bool.false_ne_true)]
  exact session.reads_readOpen

/-- A read that the stream does not fail yields the first result, if there is one. -/
theorem returned_read (inGame : session.phase = .inGame)
    (sound : session.pipe.readFault = false) :
    returned session.read = ((session.framer.drain session.unread).1.map judged)[0]? := by
  obtain ⟨results, same, reckons⟩ := reckons_read inGame
  have first := (reckons.drains []).1
  simp only [List.append_nil] at first
  rw [first, List.map_append, same]
  have reads := reads_read (isClosed_of_phase inGame (by decide))
  generalize session.read = result at reads
  cases reads with
  | message => rfl
  | waiting next continues starved => rw [after, starved.drain]; rfl
  | ended next continues starved => rw [after, starved.drain]; rfl
  | failed error next fails =>
      cases fails with
      | unexpected | broken => rfl
      | cutShort next continues starved => rw [after, starved.drain]; rfl
      | disturbed next continues fault =>
          rw [sound] at fault
          cases fault

/-- A read that has nothing to yield waits while the client may send more. -/
theorem waiting_read (inGame : session.phase = .inGame) (sound : session.pipe.readFault = false)
    (drained : (session.framer.drain session.unread).1 = []) (going : session.pipe.ended = false) :
    ∃ next, session.read = .ok .waiting next := by
  have silent := returned_read inGame sound
  rw [drained] at silent
  have reads := reads_read (isClosed_of_phase inGame (by decide))
  generalize session.read = result at reads silent
  cases reads with
  | message => cases silent
  | waiting next => exact ⟨next, rfl⟩
  | ended next continues starved finished =>
      rw [going] at finished
      cases finished
  | failed error next fails =>
      cases fails with
      | unexpected | broken => cases silent
      | cutShort next continues starved finished =>
          rw [going] at finished
          cases finished
      | disturbed next continues fault =>
          rw [sound] at fault
          cases fault

/-- A read that has nothing to yield tells how the stream has ended. -/
theorem ended_read (inGame : session.phase = .inGame) (sound : session.pipe.readFault = false)
    (drained : (session.framer.drain session.unread).1 = []) (finished : session.pipe.ended = true)
    {final : Framer × Bytes}
    (same : Framer.parked (session.framer.drain session.unread).2 = Framer.parked final) :
    (final.1.isIdle = true ∧ final.2 = [] → ∃ next, session.read = .ok .ended next) ∧
      (final.1.isIdle = false → ∃ next, session.read = .error (.transport .cutShort) next) := by
  have silent := returned_read inGame sound
  rw [drained] at silent
  have opened := isClosed_of_phase inGame (by decide)
  have reads := reads_read opened
  have unread (next : Session) (starved : next.Starved) :
      next.unread = next.received.bytes.toList := by
    rw [Session.unread, starved.1, List.append_nil]
  have kept (next : Session) (continues : Continues session next) (starved : next.Starved) :
      (next.framer.decode next.unread).framer.isIdle = final.1.isIdle ∧
        (next.framer.decode next.unread).rest = final.2 := by
    have still := (continues.leads.drains []).2
    simp only [List.append_nil] at still
    rw [same, starved.drain] at still
    obtain ⟨progress, rest⟩ := Prod.mk.inj still
    refine ⟨?_, rest.symm⟩
    rw [Framer.isIdle, Framer.isIdle, progress]
  have here : session.read = session.readOpen :=
    if_neg (by rw [opened]; exact Bool.false_ne_true)
  rw [here] at reads silent ⊢
  cases outcome : session.readOpen with
  | ok incoming next =>
      rw [outcome] at reads silent
      cases reads with
      | message => cases silent
      | waiting next continues starved going =>
          rw [going] at finished
          cases finished
      | ended next continues starved =>
          obtain ⟨size, idle⟩ := resting_of_ended outcome
          have empty : next.unread = [] := by
            rw [unread next starved, ← List.length_eq_zero_iff, ByteQueue.length_toList, size]
          refine ⟨fun _ => ⟨next, rfl⟩, fun inside => ?_⟩
          obtain ⟨parked, _⟩ := kept next continues starved
          rw [empty, Framer.decode, Framer.takeFrame_nil _ idle] at parked
          rw [inside] at parked
          exact absurd (idle.symm.trans parked) (by decide)
  | error error next =>
      rw [outcome] at reads silent
      cases reads with
      | failed error next fails =>
          cases fails with
          | unexpected | broken => cases silent
          | cutShort next continues starved =>
              refine ⟨fun resting => ?_, fun _ => ⟨next, rfl⟩⟩
              obtain ⟨parked, left⟩ := kept next continues starved
              obtain ⟨idle, empty⟩ :=
                Framer.resting_of_decode starved.2 (parked.trans resting.1)
              have size : next.received.bytes.size = 0 := by
                rw [← ByteQueue.length_toList, ← unread next starved, empty]
                rfl
              exact absurd ⟨size, idle⟩ (busy_of_cutShort outcome)
          | disturbed next continues fault =>
              rw [sound] at fault
              cases fault

/-- A game has begun, and whatever the server and the stream do but close it, the reads yield, in
order, the messages and errors that all bytes of the client decode to in one piece, where a message
of the login is an error. A read that the stream does not fail yields the next of them, one that
yields none leaves the others to later reads, and when all have come a read waits, or tells of the
end of the stream whether it stands behind a frame or inside one. -/
theorem receipts_run (before session : Session) (table : Table) (pair : KeystreamPair)
    (events : List Event) (entered : enterGame table pair before = .ok () session)
    (staying : ∀ event ∈ events, event ≠ .perform .close) :
    let framer := Framer.ciphered table before.framer.limit pair
    let whole := session.unread ++ arrivals events
    let results := (framer.drain whole).1.map judged
    let receipts := session.receipts events
    let last := session.run events
    receipts ++ (last.framer.drain last.unread).1.map judged = results ∧
      (last.pipe.readFault = false → returned last.read = results[receipts.length]?) ∧
      (returned last.read = none →
        last.framer.Drains last.unread [] (after last.read).framer (after last.read).unread) ∧
      (receipts = results → last.pipe.readFault = false →
        (last.pipe.ended = false → ∃ next, last.read = .ok .waiting next) ∧
        (last.pipe.ended = true →
          (framer.EndsWhole whole ∨ framer.EndsInside whole) ∧
          (framer.EndsWhole whole → ∃ next, last.read = .ok .ended next) ∧
          (framer.EndsInside whole → ∃ next, last.read = .error (.transport .cutShort) next))) := by
  intro framer whole results receipts last
  have begun : session.phase = .inGame ∧ session.framer = framer := by
    obtain ⟨_, done⟩ := during_ok entered
    cases done
    exact ⟨rfl, rfl⟩
  obtain ⟨yielded, same, reckons⟩ := reckons_run events begun.1 staying
  obtain ⟨split, parked⟩ := reckons.drains []
  rw [begun.2] at split parked
  simp only [List.append_nil] at split parked
  have inGame : last.phase = .inGame := reckons.inGame
  have account : receipts ++ (last.framer.drain last.unread).1.map judged = results := by
    change session.receipts events ++ _ = (framer.drain whole).1.map judged
    rw [← same, ← List.map_append, ← split]
  refine ⟨account, fun sound => ?_, fun silent => ?_, fun complete sound => ?_⟩
  · rw [returned_read inGame sound, ← account, List.getElem?_append_right (Nat.le_refl _),
      Nat.sub_self]
  · obtain ⟨found, none, reads⟩ := reckons_read inGame
    rw [silent, Option.toList_none, List.map_eq_nil_iff] at none
    have drains := reads.drains
    rw [none, List.append_nil] at drains
    exact drains
  · have drained : (last.framer.drain last.unread).1 = [] := by
      rw [complete] at account
      exact List.map_eq_nil_iff.mp (List.append_right_eq_self.mp account)
    refine ⟨waiting_read inGame sound drained, fun finished => ?_⟩
    obtain ⟨behind, inside⟩ := ended_read inGame sound drained finished parked.symm
    exact ⟨framer.endsWhole_or_endsInside whole, fun ends => behind (ends.drain rfl),
      fun ends => inside (ends.drain rfl)⟩

/-- The words of this generator count down. -/
def countdown : Isaac where
  core := ⟨.replicate 256 0, 0, 0, 0⟩
  block := .ofFn fun position => UInt32.ofNat position.val
  left := 256
  left_le := Nat.lt_succ_self 255

/-- One read is given up behind an opcode, another one fails, and the stream ends in the middle of
the length field. -/
theorem receipts_run_of_half_field :
    let pair : KeystreamPair := ⟨countdown, countdown⟩
    let before : Session :=
      { start ⟨1, none⟩ .fresh (.plain .login 512) 7 with phase := .authenticating }
    let session := after (enterGame .login pair before)
    let opcode := 16 + pair.incoming.nextByte.1
    let events : List Event :=
      [.deliver [opcode], .perform .read, .disturb .read, .perform .read, .deliver [0],
        .perform .buffer, .finish]
    enterGame .login pair before = .ok () session ∧
      (∀ event ∈ events, event ≠ .perform .close) ∧
      ∃ next, (session.run events).read = .error (.transport .cutShort) next := by
  intro pair before session opcode events
  have entered : enterGame .login pair before = .ok () session := rfl
  have staying : ∀ event ∈ events, event ≠ .perform .close := by simp [events]
  refine ⟨entered, staying, ?_⟩
  obtain ⟨account, _, _, complete⟩ := receipts_run before session .login pair events entered staying
  have shown := Framer.reveal_hidden (.ciphered .login 512 pair) pair 16 rfl
  have begins : (Framer.ciphered .login 512 pair).Begins [opcode, 0] := by
    refine .half opcode 0 (Reads.entry ⟨16, .declared .short, .login⟩) ?_ rfl
    rw [shown]
    rfl
  have drained : ((Framer.ciphered .login 512 pair).drain [opcode, 0]).1 = [] := by
    rw [Framer.drain_of_open _ _ ((Framer.Cut.settled_message _).trans
      (begins.settled_takeFrame rfl))]
  have whole : session.unread ++ arrivals events = [opcode, 0] := rfl
  have limit : before.framer.limit = 512 := rfl
  rw [whole, limit, drained] at account complete
  have none := (List.append_eq_nil_iff.mp account).1
  exact ((complete none (by decide +kernel)).2 rfl).2.2 (.last begins)

end Session

end GameServer
