import GameServer.Proofs.Framer.Frames
import Mathlib.Data.List.Induction

/- This file shows which payloads keep to the limit. -/

namespace GameServer

/-- The payload lengths that come in under a binding: the fixed one, or all within the limit. -/
def Inbound.Lets (limit : Nat) (binding : Inbound) (length : Nat) : Prop :=
  match binding.rule with
  | .fixed expected => length = expected
  | .declared _ => length ≤ limit

theorem Inbound.lets_fixed {limit length : Nat} {binding : Inbound}
    (rule : binding.rule = .fixed length) : binding.Lets limit length := by
  simp [Lets, rule]

theorem Inbound.lets_declared {limit length : Nat} {binding : Inbound} {field : LengthField}
    (rule : binding.rule = .declared field) (small : length ≤ limit) :
    binding.Lets limit length := by
  simpa [Lets, rule] using small

/-- Fixed lengths are within the limit. -/
def Table.FitsLimit (table : Table) (limit : Nat) : Prop :=
  ∀ opcode binding length, table.find? opcode = some binding → binding.rule = .fixed length →
    length ≤ limit

theorem Table.FitsLimit.le {table : Table} {limit length : Nat} {opcode : UInt8}
    {binding : Inbound} (fits : table.FitsLimit limit) (bound : table.find? opcode = some binding)
    (lets : binding.Lets limit length) : length ≤ limit := by
  unfold Inbound.Lets at lets
  split at lets
  · next expected rule =>
      rw [lets]
      exact fits opcode binding expected bound rule
  · exact lets

namespace Framer

/-- The binding is one of the table, under its own opcode. -/
def Binds (framer : Framer) (binding : Inbound) : Prop :=
  framer.table.find? binding.opcode = some binding

/-- What a framer in the middle of a frame waits for is what its table and its limit let come. -/
def Sound (framer : Framer) : Prop :=
  match framer.progress with
  | .idle => True
  | .measuring binding field => framer.Binds binding ∧ binding.rule = .declared field
  | .filling binding length => framer.Binds binding ∧ binding.Lets framer.limit length

/-- A cut yields what the table and the limit let come, and refuses no length within the limit. -/
structure Cut.Sound (framer : Framer) (cut : Cut (Inbound × Frame)) : Prop where
  rules : SameRules cut.framer framer
  parked : cut.framer.Sound
  frame : ∀ binding frame, cut.outcome = .ok (some (binding, frame)) →
    framer.table.find? frame.opcode = some binding ∧
      binding.Lets framer.limit frame.payload.length
  refused : ∀ length most, cut.outcome = .error (.frameTooLong length most) →
    most = framer.limit ∧ framer.limit < length

section Step

variable {framer : Framer} {binding : Inbound} {source : Bytes}

theorem Cut.Sound.behind {cut : Cut (Inbound × Frame)} (sound : cut.Sound framer) (count : Nat) :
    (cut.behind count).Sound framer := ⟨sound.rules, sound.parked, sound.frame, sound.refused⟩

/-- A framer of the same rules judges a cut in the same way. -/
theorem Cut.Sound.of_rules {revealed : Framer} {cut : Cut (Inbound × Frame)}
    (sound : cut.Sound revealed) (rules : SameRules revealed framer) : cut.Sound framer := by
  obtain ⟨same, parked, frame, refused⟩ := sound
  rw [rules.1, rules.2] at frame
  rw [rules.2] at refused
  exact ⟨same.trans rules, parked, frame, refused⟩

theorem sound_fill {length : Nat} (bound : framer.Binds binding)
    (lets : binding.Lets framer.limit length) :
    (framer.fill binding length source).Sound framer := by
  refine ⟨fill_rules framer binding length source, ?_, ?_, ?_⟩
  · unfold fill
    split
    · exact ⟨bound, lets⟩
    · trivial
  · intro found frame taken
    obtain ⟨rfl, opcode, size, _⟩ := fill_some framer binding found length source frame taken
    rw [opcode, size]
    exact ⟨bound, lets⟩
  · intro length most refused
    unfold fill at refused
    split at refused <;> cases refused

theorem sound_measure {field : LengthField} (bound : framer.Binds binding)
    (rule : binding.rule = .declared field) :
    (framer.measure binding field source).Sound framer := by
  unfold measure
  split
  · exact ⟨⟨rfl, rfl⟩, ⟨bound, rule⟩, nofun, nofun⟩
  · next length rest read =>
      split
      · next tooLong =>
          refine ⟨⟨rfl, rfl⟩, trivial, nofun, ?_⟩
          intro declared most refused
          cases refused
          exact ⟨rfl, tooLong⟩
      · next small =>
          have lets := binding.lets_declared rule (Nat.le_of_not_lt small)
          exact (sound_fill bound lets).behind field.size

theorem sound_start : (framer.start source).Sound framer := by
  cases source with
  | nil => refine ⟨⟨rfl, rfl⟩, trivial, ?_, ?_⟩ <;> (intro _ _ yields; cases yields)
  | cons byte rest =>
      have rules := reveal_rules framer byte
      simp only [start, Bindings.lookup]
      cases found : (framer.reveal byte).2.table.find? (framer.reveal byte).1 with
      | none => refine ⟨rules, trivial, ?_, ?_⟩ <;> (intro _ _ yields; cases yields)
      | some binding =>
          have bound : (framer.reveal byte).2.Binds binding := by
            rw [Binds, Table.opcode_of_find? _ _ _ found]
            exact found
          dsimp only
          split
          · next length rule =>
              exact ((sound_fill bound (binding.lets_fixed rule)).behind 1).of_rules rules
          · next field rule => exact ((sound_measure bound rule).behind 1).of_rules rules

/-- A read goes on from where the framer stands. -/
theorem Sound.takeFrame (sound : framer.Sound) (source : Bytes) :
    (framer.takeFrame source).Sound framer := by
  unfold Framer.Sound at sound
  unfold Framer.takeFrame
  split
  · exact sound_start
  · next binding field parked =>
      rw [parked] at sound
      exact sound_measure sound.1 sound.2
  · next binding length parked =>
      rw [parked] at sound
      exact sound_fill sound.1 sound.2

end Step

/-- The bytes in front of a framer, and what its reads have come to. -/
structure Intake where
  framer : Framer
  arrived : Bytes
  results : List (Except ProtocolError (Inbound × Frame))

namespace Intake

/-- Nothing has arrived yet. -/
def start (framer : Framer) : Intake := ⟨framer, [], []⟩

/-- What happens to the bytes of a client. -/
inductive Event where
  | arrive (bytes : Bytes)
  /-- The next frame is asked for, whether it is complete or not. -/
  | take

/-- One event happens. -/
def next (intake : Intake) : Event → Intake
  | .arrive bytes => { intake with arrived := intake.arrived ++ bytes }
  | .take =>
      let cut := intake.framer.takeFrame intake.arrived
      ⟨cut.framer, cut.rest, intake.results ++ cut.results⟩

/-- Events happen one after another. -/
def run (intake : Intake) (events : List Event) : Intake := events.foldl next intake

/-- All that was read and all that is waited for is what the table and the limit let come, and a
length was refused only beyond the limit. -/
structure Lawful (table : Table) (limit : Nat) (intake : Intake) : Prop where
  frames : ∀ binding frame, .ok (binding, frame) ∈ intake.results →
    table.find? frame.opcode = some binding ∧ binding.Lets limit frame.payload.length
  awaited : ∀ binding length, intake.framer.progress = .filling binding length →
    table.find? binding.opcode = some binding ∧ binding.Lets limit length
  refused : ∀ length most, .error (.frameTooLong length most) ∈ intake.results →
    most = limit ∧ limit < length

/-- No payload that was read and none that is waited for is longer than the limit. -/
structure Within (limit : Nat) (intake : Intake) : Prop where
  frames : ∀ binding frame, .ok (binding, frame) ∈ intake.results → frame.payload.length ≤ limit
  awaited : ∀ binding length, intake.framer.progress = .filling binding length → length ≤ limit

section Run

variable {table : Table} {limit : Nat} {intake : Intake}

theorem mem_results {α : Type} {cut : Cut α} {result : Except ProtocolError α} :
    result ∈ cut.results ↔ cut.outcome = result.map some := by
  unfold Cut.results
  cases cut.outcome with
  | error error => cases result <;> simp [Except.map, eq_comm]
  | ok found => cases found <;> cases result <;> simp [Except.map, eq_comm]

/-- The framer keeps to its table and its limit, and so do the results. -/
structure Kept (table : Table) (limit : Nat) (intake : Intake) : Prop where
  sound : intake.framer.Sound
  rules : intake.framer.table = table ∧ intake.framer.limit = limit
  frames : ∀ binding frame, .ok (binding, frame) ∈ intake.results →
    table.find? frame.opcode = some binding ∧ binding.Lets limit frame.payload.length
  refused : ∀ length most, .error (.frameTooLong length most) ∈ intake.results →
    most = limit ∧ limit < length

theorem Kept.lawful (kept : intake.Kept table limit) : intake.Lawful table limit := by
  refine ⟨kept.frames, ?_, kept.refused⟩
  intro binding length parked
  have sound := kept.sound
  simp only [Framer.Sound, parked] at sound
  obtain ⟨bound, lets⟩ := sound
  rw [Binds, kept.rules.1] at bound
  rw [kept.rules.2] at lets
  exact ⟨bound, lets⟩

theorem Kept.next (kept : intake.Kept table limit) (event : Event) :
    (intake.next event).Kept table limit := by
  cases event with
  | arrive bytes => exact ⟨kept.sound, kept.rules, kept.frames, kept.refused⟩
  | take =>
      have cut := kept.sound.takeFrame intake.arrived
      have frame := cut.frame
      have refused := cut.refused
      rw [kept.rules.1, kept.rules.2] at frame
      rw [kept.rules.2] at refused
      refine ⟨cut.parked, ?_, ?_, ?_⟩
      · exact ⟨cut.rules.1.trans kept.rules.1, cut.rules.2.trans kept.rules.2⟩
      · intro binding taken member
        rcases List.mem_append.mp member with before | now
        · exact kept.frames binding taken before
        · exact frame binding taken (mem_results.mp now)
      · intro length most member
        rcases List.mem_append.mp member with before | now
        · exact kept.refused length most before
        · exact refused length most (mem_results.mp now)

theorem kept_run (table : Table) (cipher : Option KeystreamPair) (limit : Nat)
    (events : List Event) :
    ((start ⟨table, cipher, .idle, limit⟩).run events).Kept table limit := by
  induction events using List.reverseRecOn with
  | nil => exact ⟨trivial, ⟨rfl, rfl⟩, nofun, nofun⟩
  | append_singleton events event ih =>
      rw [run, List.foldl_append]
      exact ih.next event

theorem Lawful.within (lawful : intake.Lawful table limit) (fits : table.FitsLimit limit) :
    intake.Within limit where
  frames binding frame member := by
    obtain ⟨bound, lets⟩ := lawful.frames binding frame member
    exact fits.le bound lets
  awaited binding length parked := by
    obtain ⟨bound, lets⟩ := lawful.awaited binding length parked
    exact fits.le bound lets

/-- Some byte is read as the opcode, whether the framer is ciphered or not. -/
theorem exists_reveal (framer : Framer) (opcode : UInt8) :
    ∃ byte, (framer.reveal byte).1 = opcode := by
  cases ciphered : framer.cipher with
  | none => exact ⟨opcode, by rw [reveal, ciphered]⟩
  | some pair =>
      refine ⟨opcode + pair.incoming.nextByte.1, ?_⟩
      rw [reveal_hidden framer pair opcode ciphered]

/-- A frame of a fixed length is read, however long it is. -/
theorem exists_fixed {opcode : UInt8} {binding : Inbound} {length : Nat}
    (cipher : Option KeystreamPair) (bound : table.find? opcode = some binding)
    (rule : binding.rule = .fixed length) :
    ∃ bytes frame, .ok (binding, frame) ∈
        ((start ⟨table, cipher, .idle, limit⟩).run [.arrive bytes, .take]).results ∧
      frame.payload.length = length := by
  obtain ⟨byte, shown⟩ := exists_reveal ⟨table, cipher, .idle, limit⟩ opcode
  obtain ⟨payload, rfl⟩ : ∃ payload : Bytes, payload.length = length :=
    ⟨List.replicate length 0, List.length_replicate⟩
  refine ⟨byte :: payload, ⟨binding.opcode, payload⟩, ?_, rfl⟩
  have looked : (Framer.reveal ⟨table, cipher, .idle, limit⟩ byte).2.table.lookup
      (Framer.reveal ⟨table, cipher, .idle, limit⟩ byte).1 = .ok binding := by
    rw [(reveal_rules _ byte).1, shown, Bindings.lookup, bound]
  have filled :=
    fill_payload (Framer.reveal ⟨table, cipher, .idle, limit⟩ byte).2 binding payload []
  rw [List.append_nil] at filled
  refine List.mem_append_right _ (mem_results.mpr ?_)
  simp only [next, start, List.nil_append, Framer.takeFrame, Framer.start, looked, rule, filled]
  rfl

end Run

/-- Whatever bytes arrive and whenever frames are asked for, ciphered or not: every payload that is
read or waited for has the fixed length of its opcode, or it has a declared length within the limit,
and no length within the limit is refused. So no payload is longer than the limit exactly if no fixed
length of the table is. -/
theorem within_limit_iff (table : Table) (cipher : Option KeystreamPair) (limit : Nat) :
    let intake (events : List Event) := (start ⟨table, cipher, .idle, limit⟩).run events
    (∀ events, (intake events).Lawful table limit) ∧
      ((∀ events, (intake events).Within limit) ↔ table.FitsLimit limit) := by
  intro intake
  have lawful (events : List Event) := (kept_run table cipher limit events).lawful
  refine ⟨lawful, fun within => ?_, fun fits events => (lawful events).within fits⟩
  intro opcode binding length bound rule
  obtain ⟨bytes, frame, member, rfl⟩ := exists_fixed cipher bound rule
  exact (within _).frames binding frame member

/-- The table of the login binds the handshake to one byte, and a limit of none does not keep it
off. -/
theorem handshake_over_limit :
    let intake (events : List Event) := (start (plain .login 0)).run events
    (intake [.arrive [14], .take]).framer.progress =
        .filling (Reads.entry ⟨14, .fixed 1, .handshake⟩) 1 ∧
      (intake [.arrive [14, 7], .take]).results =
        [.ok (Reads.entry ⟨14, .fixed 1, .handshake⟩, ⟨14, [7]⟩)] ∧
      ¬ (intake [.arrive [14, 7], .take]).Within 0 := by
  refine ⟨rfl, rfl, fun within => ?_⟩
  exact absurd (within.frames _ _ List.mem_cons_self) (by decide)

end Intake

end Framer

end GameServer
