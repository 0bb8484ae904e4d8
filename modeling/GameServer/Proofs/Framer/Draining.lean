import GameServer.Proofs.Framer.Attempts
import GameServer.Proofs.Framer.Frames

/- This file shows that draining ends, and that every result takes a byte. -/

namespace GameServer.Framer

/-- The framer can do nothing with these bytes. -/
inductive Lacks (framer : Framer) (source : Bytes) : Prop where
  | opcode (idle : framer.progress = .idle) (empty : source = [])
  | field (binding : Inbound) (field : LengthField)
      (parked : framer.progress = .measuring binding field) (short : source.length < field.size)
  | payload (binding : Inbound) (length : Nat)
      (parked : framer.progress = .filling binding length) (short : source.length < length)

/-- A payload that the framer waits for is not empty. -/
def AwaitsBytes (framer : Framer) : Prop :=
  ∀ binding length, framer.progress = .filling binding length → 0 < length

/-- Some bytes were taken off the front. -/
def Cut.Consumes {α : Type} (cut : Cut α) (source : Bytes) : Prop :=
  ∃ front, front ≠ [] ∧ source = front ++ cut.rest

/-- One call of a read. It takes bytes for its result and is idle again, or it yields none and lacks
bytes. Without more bytes nothing comes of another call. -/
inductive Advances {α : Type} (read : Framer → Bytes → Cut α) (framer : Framer) (source : Bytes) :
    Prop where
  | result (settled : (read framer source).settled = true)
      (consumes : (read framer source).Consumes source)
      (idle : (read framer source).framer.isIdle = true)
  | pending (outcome : (read framer source).outcome = .ok none)
      (lacks : (read framer source).framer.Lacks (read framer source).rest)
      (again : read (read framer source).framer (read framer source).rest =
        ⟨.ok none, (read framer source).framer, 0, (read framer source).rest⟩)

section Step

variable {framer : Framer} {source : Bytes}

theorem Lacks.takeFrame (lacks : framer.Lacks source) :
    framer.takeFrame source = ⟨.ok none, framer, 0, source⟩ := by
  cases lacks with
  | opcode idle empty =>
      rw [empty]
      exact takeFrame_nil framer (by simp [isIdle, idle])
  | field binding field parked short =>
      have read := (field.read?_eq_none_iff source).mpr short
      simp only [Framer.takeFrame, parked, measure, read]
      rw [← parked]
  | payload binding length parked short =>
      have split := (Bytes.split?_eq_none_iff length source).mpr short
      simp only [Framer.takeFrame, parked, fill, split]
      rw [← parked]

theorem Lacks.awaitsBytes (lacks : framer.Lacks source) : framer.AwaitsBytes := by
  intro binding length filling
  cases lacks with
  | opcode idle empty => simp [idle] at filling
  | field other field parked short => simp [parked] at filling
  | payload other awaited parked short =>
      simp only [parked, Progress.filling.injEq] at filling
      omega

theorem awaitsBytes_of_isIdle (idle : framer.isIdle = true) : framer.AwaitsBytes := by
  intro binding length filling
  simp [isIdle, filling] at idle

/-- A payload is there, or the framer waits for it. -/
theorem fill_cases (framer : Framer) (binding : Inbound) (length : Nat) (source : Bytes) :
    let cut := framer.fill binding length source
    (cut.settled = true ∧ cut.framer.isIdle = true ∧
        ∃ payload : Bytes, payload.length = length ∧ source = payload ++ cut.rest) ∨
      (cut.outcome = .ok none ∧ cut.framer.Lacks cut.rest) := by
  cases found : source.split? length with
  | none =>
      right
      have short := (Bytes.split?_eq_none_iff length source).mp found
      simp only [fill, found]
      exact ⟨trivial, .payload binding length rfl short⟩
  | some parts =>
      left
      obtain ⟨payload, rest⟩ := parts
      obtain ⟨whole, size⟩ := Bytes.split?_some length source payload rest found
      simp only [fill, found]
      exact ⟨rfl, rfl, payload, size, whole⟩

theorem measure_cases (framer : Framer) (binding : Inbound) (field : LengthField)
    (source : Bytes) :
    let cut := framer.measure binding field source
    (cut.settled = true ∧ cut.framer.isIdle = true ∧ cut.Consumes source) ∨
      (cut.outcome = .ok none ∧ cut.framer.Lacks cut.rest) := by
  cases found : field.read? source with
  | none =>
      right
      have short := (field.read?_eq_none_iff source).mp found
      simp only [measure, found]
      exact ⟨trivial, .field binding field rfl short⟩
  | some read =>
      obtain ⟨length, rest⟩ := read
      obtain ⟨whole, _⟩ := field.write_of_read? source rest length found
      have header : field.write length ≠ [] := by
        apply List.ne_nil_of_length_pos
        rw [field.length_write]
        cases field <;> decide
      simp only [measure, found]
      split
      · exact .inl ⟨rfl, rfl, field.write length, header, whole⟩
      · rcases fill_cases framer binding length rest with ⟨settled, idle, payload, _, same⟩ | pending
        · refine .inl ⟨settled, idle, field.write length ++ payload, by simp [header], ?_⟩
          rw [List.append_assoc, whole]
          exact congrArg (field.write length ++ ·) same
        · exact .inr pending

theorem start_cases (framer : Framer) (source : Bytes) :
    let cut := framer.start source
    (cut.settled = true ∧ cut.framer.isIdle = true ∧ cut.Consumes source) ∨
      (cut.outcome = .ok none ∧ cut.framer.Lacks cut.rest) := by
  cases source with
  | nil => exact .inr ⟨rfl, .opcode rfl rfl⟩
  | cons byte rest =>
      simp only [start]
      split
      · exact .inl ⟨rfl, rfl, [byte], List.cons_ne_nil _ _, rfl⟩
      · next binding _ =>
          split
          · next length _ =>
              rcases fill_cases (framer.reveal byte).2 binding length rest with
                ⟨settled, idle, payload, _, same⟩ | pending
              · refine .inl ⟨settled, idle, byte :: payload, List.cons_ne_nil _ _, ?_⟩
                exact congrArg (byte :: ·) same
              · exact .inr pending
          · next field _ =>
              rcases measure_cases (framer.reveal byte).2 binding field rest with
                ⟨settled, idle, front, _, same⟩ | pending
              · refine .inl ⟨settled, idle, byte :: front, List.cons_ne_nil _ _, ?_⟩
                exact congrArg (byte :: ·) same
              · exact .inr pending

/-- Only a payload that is not empty guarantees that a frame in progress takes bytes. -/
theorem takeFrame_cases (awaits : framer.AwaitsBytes) (source : Bytes) :
    let cut := framer.takeFrame source
    (cut.settled = true ∧ cut.framer.isIdle = true ∧ cut.Consumes source) ∨
      (cut.outcome = .ok none ∧ cut.framer.Lacks cut.rest) := by
  cases parked : framer.progress with
  | idle =>
      simp only [takeFrame, parked]
      exact start_cases framer source
  | measuring binding field =>
      simp only [takeFrame, parked]
      exact measure_cases framer binding field source
  | filling binding length =>
      have positive := awaits binding length parked
      simp only [takeFrame, parked]
      rcases fill_cases framer binding length source with ⟨settled, idle, payload, size, same⟩ | pending
      · exact .inl ⟨settled, idle, payload, List.ne_nil_of_length_pos (by omega), same⟩
      · exact .inr pending

theorem advances_takeFrame (awaits : framer.AwaitsBytes) (source : Bytes) :
    Advances takeFrame framer source := by
  rcases takeFrame_cases awaits source with ⟨settled, idle, consumes⟩ | ⟨outcome, lacks⟩
  · exact .result settled consumes idle
  · exact .pending outcome lacks lacks.takeFrame

/-- A payload that its codec refuses is taken all the same. -/
theorem advances_decode (awaits : framer.AwaitsBytes) (source : Bytes) :
    Advances decode framer source := by
  rcases takeFrame_cases awaits source with ⟨settled, idle, consumes⟩ | ⟨outcome, lacks⟩
  · exact .result ((Cut.settled_message _).trans settled) consumes idle
  · refine .pending ?_ lacks ?_
    · simp only [decode, Cut.message, outcome]
    · have again := lacks.takeFrame
      simp only [decode, Cut.message, again]

theorem AwaitsBytes.takeFrame (awaits : framer.AwaitsBytes) (source : Bytes) :
    (framer.takeFrame source).framer.AwaitsBytes := by
  rcases takeFrame_cases awaits source with ⟨_, idle, _⟩ | ⟨_, lacks⟩
  · exact awaitsBytes_of_isIdle idle
  · exact lacks.awaitsBytes

end Step

/-- What a framer may be used for. -/
inductive Use where
  /-- Frames and messages are read alike, and the bytes may be other ones each time. -/
  | read (source : Bytes)
  | write (attempt : Attempt)

/-- The framer after it was used once. -/
def afterUse (framer : Framer) : Use → Framer
  | .read source => (framer.takeFrame source).framer
  | .write attempt => (attempt.leave (framer, [])).1

/-- The framer after it was used over and over. -/
def afterUses (framer : Framer) (uses : List Use) : Framer := uses.foldl afterUse framer

theorem AwaitsBytes.afterUse {framer : Framer} (awaits : framer.AwaitsBytes) (use : Use) :
    (framer.afterUse use).AwaitsBytes := by
  cases use with
  | read source => exact awaits.takeFrame source
  | write attempt =>
      cases attempt.tries framer with
      | accepted draft bytes drafted fits writes =>
          simp only [Framer.afterUse, Attempt.leave, writes]
          exact awaits
      | refused error unfit fails =>
          simp only [Framer.afterUse, Attempt.leave, fails]
          exact awaits

theorem AwaitsBytes.afterUses {framer : Framer} (awaits : framer.AwaitsBytes) (uses : List Use) :
    (framer.afterUses uses).AwaitsBytes := by
  induction uses generalizing framer with
  | nil => exact awaits
  | cons use rest ih => exact ih (awaits.afterUse use)

/-- The call that comes after so many others, each on what the one before has left. -/
def decodeAfter (framer : Framer) (source : Bytes) : Nat → Cut Message
  | 0 => framer.decode source
  | calls + 1 => decodeAfter (framer.decode source).framer (framer.decode source).rest calls

/-- Draining ends: the first calls yield a result each, and the next one yields none and leaves what
draining leaves. -/
structure DrainsIn (framer : Framer) (source : Bytes) (calls : Nat) : Prop where
  settled : ∀ earlier < calls, (framer.decodeAfter source earlier).settled = true
  pending : (framer.decodeAfter source calls).outcome = .ok none
  results : (framer.drain source).1 =
    (List.range calls).flatMap fun earlier => (framer.decodeAfter source earlier).results
  length : (framer.drain source).1.length = calls
  left : (framer.drain source).2 =
    ((framer.decodeAfter source calls).framer, (framer.decodeAfter source calls).rest)

theorem exists_drainsIn {framer : Framer} (awaits : framer.AwaitsBytes) (source : Bytes) :
    ∃ calls ≤ source.length, framer.DrainsIn source calls := by
  cases advances_decode awaits source with
  | pending outcome lacks again =>
      have unsettled : (framer.decode source).settled = false := by simp [Cut.settled, outcome]
      have drained := drain_of_open framer source unsettled
      refine ⟨0, Nat.zero_le _, ?_, outcome, ?_, ?_, ?_⟩
      · intro earlier before
        omega
      · simp [drained]
      · simp [drained]
      · rw [drained]
        rfl
  | result settled consumes idle =>
      obtain ⟨front, some, whole⟩ := consumes
      -- A result takes bytes, so draining goes on with fewer of them.
      have fewer : (framer.decode source).rest.length < source.length := by
        have size := congrArg List.length whole
        have positive := List.length_pos_iff.mpr some
        simp only [List.length_append] at size
        omega
      have drained := drain_of_settled framer source settled
      obtain ⟨calls, bound, later⟩ :=
        exists_drainsIn (awaitsBytes_of_isIdle idle) (framer.decode source).rest
      refine ⟨calls + 1, by omega, ?_, later.pending, ?_, ?_, ?_⟩
      · intro earlier before
        cases earlier with
        | zero => exact settled
        | succ earlier => exact later.settled earlier (by omega)
      · rw [drained, List.range_succ_eq_map, List.flatMap_cons, List.flatMap_map]
        exact congrArg _ later.results
      · simp [drained, Cut.length_results _ settled, later.length, Nat.add_comm]
      · rw [drained]
        exact later.left
termination_by source.length
decreasing_by exact fewer

/-- Whatever a framer was used for before, and whatever bytes it is given now: a call that yields a
result takes at least one byte and leaves it idle, a call that yields none leaves it idle without bytes
or in the middle of a frame with fewer bytes than it waits for, and then the same call does nothing. So
draining ends, with at most one result for each byte. -/
theorem drain_ends (table : Table) (cipher : Option KeystreamPair) (limit : Nat) (uses : List Use)
    (source : Bytes) :
    let framer := afterUses ⟨table, cipher, .idle, limit⟩ uses
    Advances takeFrame framer source ∧ Advances decode framer source ∧
      ∃ calls ≤ source.length, framer.DrainsIn source calls := by
  have fresh : AwaitsBytes ⟨table, cipher, .idle, limit⟩ := awaitsBytes_of_isIdle rfl
  have awaits := fresh.afterUses uses
  exact ⟨advances_takeFrame awaits source, advances_decode awaits source,
    exists_drainsIn awaits source⟩

end GameServer.Framer
