import GameServer.Framer.Progress

/- This file shows that a read that stops can be taken up again. -/

namespace GameServer

theorem Bytes.split?_append (count : Nat) (bytes more front rest : Bytes)
    (found : bytes.split? count = some (front, rest)) :
    Bytes.split? count (bytes ++ more) = some (front, rest ++ more) := by
  have enough : count ≤ bytes.length := by
    apply Nat.le_of_not_lt
    intro short
    rw [(split?_eq_none_iff count bytes).mpr short] at found
    cases found
  rw [split?_of_le count bytes enough] at found
  rw [split?_of_le count (bytes ++ more) (by rw [List.length_append]; omega),
    List.take_append_of_le_length enough, List.drop_append_of_le_length enough]
  cases found
  rfl

theorem LengthField.read?_append (field : LengthField) (bytes more rest : Bytes) (length : Nat)
    (read : field.read? bytes = some (length, rest)) :
    field.read? (bytes ++ more) = some (length, rest ++ more) := by
  unfold read? at read
  split at read
  · cases read
    rfl
  · cases read
    rfl
  · cases read

namespace Framer

/-- More bytes stand behind the rest of a cut. -/
def Cut.extend {α : Type} (cut : Cut α) (more : Bytes) : Cut α :=
  { cut with rest := cut.rest ++ more }

@[simp] theorem Cut.outcome_extend {α : Type} (cut : Cut α) (more : Bytes) :
    (cut.extend more).outcome = cut.outcome := rfl

@[simp] theorem Cut.framer_extend {α : Type} (cut : Cut α) (more : Bytes) :
    (cut.extend more).framer = cut.framer := rfl

@[simp] theorem Cut.rest_extend {α : Type} (cut : Cut α) (more : Bytes) :
    (cut.extend more).rest = cut.rest ++ more := rfl

@[simp] theorem Cut.outcome_behind {α : Type} (cut : Cut α) (count : Nat) :
    (cut.behind count).outcome = cut.outcome := rfl

@[simp] theorem Cut.framer_behind {α : Type} (cut : Cut α) (count : Nat) :
    (cut.behind count).framer = cut.framer := rfl

@[simp] theorem Cut.rest_behind {α : Type} (cut : Cut α) (count : Nat) :
    (cut.behind count).rest = cut.rest := rfl

theorem Cut.behind_extend {α : Type} (cut : Cut α) (count : Nat) (more : Bytes) :
    (cut.behind count).extend more = (cut.extend more).behind count := rfl

theorem Cut.behind_zero {α : Type} (cut : Cut α) : cut.behind 0 = cut := by
  simp [behind]

theorem Cut.behind_behind {α : Type} (cut : Cut α) (inner outer : Nat) :
    (cut.behind inner).behind outer = cut.behind (outer + inner) := by
  simp [behind, Nat.add_assoc]

/-- A cut is open if it yields nothing yet. -/
theorem Cut.outcome_of_open {α : Type} (cut : Cut α) (unsettled : cut.settled = false) :
    cut.outcome = .ok none := by
  unfold settled at unsettled
  split at unsettled
  · assumption
  · cases unsettled

/-- The read that stopped at a cut is taken up again with more bytes. -/
def Cut.resume (cut : Cut (Inbound × Frame)) (more : Bytes) : Cut (Inbound × Frame) :=
  (cut.framer.takeFrame (cut.rest ++ more)).behind cut.taken

theorem Cut.resume_behind (cut : Cut (Inbound × Frame)) (count : Nat) (more : Bytes) :
    (cut.behind count).resume more = (cut.resume more).behind count := by
  rw [resume, resume, Cut.behind_behind]
  rfl

theorem fill_extend (framer : Framer) (binding : Inbound) (length : Nat) (source more : Bytes)
    (settled : (framer.fill binding length source).settled = true) :
    framer.fill binding length (source ++ more) =
      (framer.fill binding length source).extend more := by
  unfold fill at settled ⊢
  split at settled
  · simp [Cut.settled] at settled
  · next payload rest found =>
      rw [Bytes.split?_append length source more payload rest found]
      rfl

theorem fill_resume (framer : Framer) (binding : Inbound) (length : Nat) (source more : Bytes)
    (unsettled : (framer.fill binding length source).settled = false) :
    framer.fill binding length (source ++ more) =
      (framer.fill binding length source).resume more := by
  have short : Bytes.split? length source = none := by
    unfold fill at unsettled
    split at unsettled
    · assumption
    · cases unsettled
  rw [Cut.resume, fill, fill, short]
  exact (Cut.behind_zero _).symm

theorem measure_extend (framer : Framer) (binding : Inbound) (field : LengthField)
    (source more : Bytes) (settled : (framer.measure binding field source).settled = true) :
    framer.measure binding field (source ++ more) =
      (framer.measure binding field source).extend more := by
  unfold measure at settled ⊢
  cases found : field.read? source with
  | none => simp [found, Cut.settled] at settled
  | some read =>
      obtain ⟨length, rest⟩ := read
      rw [LengthField.read?_append field source more rest length found]
      simp only [found] at settled ⊢
      by_cases tooLong : framer.limit < length
      · rw [if_pos tooLong, if_pos tooLong]
        rfl
      · rw [if_neg tooLong, Cut.settled_behind] at settled
        rw [if_neg tooLong, if_neg tooLong, Cut.behind_extend,
          fill_extend framer binding length rest more settled]

theorem measure_resume (framer : Framer) (binding : Inbound) (field : LengthField)
    (source more : Bytes) (unsettled : (framer.measure binding field source).settled = false) :
    framer.measure binding field (source ++ more) =
      (framer.measure binding field source).resume more := by
  cases found : field.read? source with
  | none =>
      rw [Cut.resume, measure, measure, found]
      exact (Cut.behind_zero _).symm
  | some read =>
      obtain ⟨length, rest⟩ := read
      unfold measure at unsettled ⊢
      rw [LengthField.read?_append field source more rest length found]
      simp only [found] at unsettled ⊢
      by_cases tooLong : framer.limit < length
      · rw [if_pos tooLong] at unsettled
        cases unsettled
      · rw [if_neg tooLong, Cut.settled_behind] at unsettled
        rw [if_neg tooLong, if_neg tooLong, Cut.resume_behind,
          fill_resume framer binding length rest more unsettled]

theorem start_extend (framer : Framer) (source more : Bytes)
    (settled : (framer.start source).settled = true) :
    framer.start (source ++ more) = (framer.start source).extend more := by
  cases source with
  | nil => cases settled
  | cons byte rest =>
      simp only [List.cons_append, start] at settled ⊢
      split at settled
      · rfl
      · split at settled
        · rw [Cut.settled_behind] at settled
          rw [Cut.behind_extend, fill_extend _ _ _ rest more settled]
        · rw [Cut.settled_behind] at settled
          rw [Cut.behind_extend, measure_extend _ _ _ rest more settled]

theorem start_resume (framer : Framer) (source more : Bytes) (idle : framer.progress = .idle)
    (unsettled : (framer.start source).settled = false) :
    framer.start (source ++ more) = (framer.start source).resume more := by
  cases source with
  | nil =>
      have still : { framer with progress := .idle } = framer := by rw [← idle]
      rw [Cut.resume, start, still, takeFrame, idle, List.nil_append]
      exact (Cut.behind_zero _).symm
  | cons byte rest =>
      simp only [List.cons_append, start] at unsettled ⊢
      split at unsettled
      · cases unsettled
      · split at unsettled
        · rw [Cut.settled_behind] at unsettled
          rw [Cut.resume_behind, fill_resume _ _ _ rest more unsettled]
        · rw [Cut.settled_behind] at unsettled
          rw [Cut.resume_behind, measure_resume _ _ _ rest more unsettled]

/-- A settled read does not look at the bytes behind it. -/
theorem takeFrame_extend (framer : Framer) (source more : Bytes)
    (settled : (framer.takeFrame source).settled = true) :
    framer.takeFrame (source ++ more) = (framer.takeFrame source).extend more := by
  unfold takeFrame at settled ⊢
  split at settled
  · exact start_extend framer source more settled
  · exact measure_extend framer _ _ source more settled
  · exact fill_extend framer _ _ source more settled

/-- A read that stops can be taken up with the bytes that come later. -/
theorem takeFrame_resume (framer : Framer) (source more : Bytes)
    (unsettled : (framer.takeFrame source).settled = false) :
    framer.takeFrame (source ++ more) = (framer.takeFrame source).resume more := by
  cases parked : framer.progress with
  | idle =>
      simp only [takeFrame, parked] at unsettled ⊢
      exact start_resume framer source more parked unsettled
  | measuring binding field =>
      simp only [takeFrame, parked] at unsettled ⊢
      exact measure_resume framer binding field source more unsettled
  | filling binding length =>
      simp only [takeFrame, parked] at unsettled ⊢
      exact fill_resume framer binding length source more unsettled

@[simp] theorem Cut.settled_message (cut : Cut (Inbound × Frame)) :
    cut.message.settled = cut.settled := by
  unfold settled message
  cases cut.outcome with
  | error error => rfl
  | ok found =>
      cases found with
      | none => rfl
      | some pair =>
          obtain ⟨binding, frame⟩ := pair
          dsimp only
          cases binding.codec.decode frame.opcode frame.payload with
          | error error => rfl
          | ok message => rfl

theorem decode_extend (framer : Framer) (source more : Bytes)
    (settled : (framer.decode source).settled = true) :
    framer.decode (source ++ more) = (framer.decode source).extend more := by
  rw [decode, Cut.settled_message] at settled
  rw [decode, takeFrame_extend framer source more settled]
  rfl

theorem decode_resume (framer : Framer) (source more : Bytes)
    (unsettled : (framer.decode source).settled = false) :
    framer.decode (source ++ more) =
      ((framer.decode source).framer.decode ((framer.decode source).rest ++ more)).behind
        (framer.decode source).taken := by
  rw [decode, Cut.settled_message] at unsettled
  rw [decode, takeFrame_resume framer source more unsettled]
  rfl

/-- Whatever stands behind the bytes, the second framer decodes what is left of them as the first
one decodes all of them. -/
def LeadsTo (framer : Framer) (source : Bytes) (next : Framer) (left : Bytes) : Prop :=
  ∃ taken, ∀ more,
    framer.decode (source ++ more) = (next.decode (left ++ more)).behind taken

/-- Whatever stands behind the bytes, their decoding comes to this outcome and leaves these. -/
def Decodes (framer : Framer) (source : Bytes) (outcome : Except ProtocolError (Option Message))
    (next : Framer) (left : Bytes) : Prop :=
  ∃ taken, ∀ more, framer.decode (source ++ more) = ⟨outcome, next, taken, left ++ more⟩

theorem LeadsTo.refl (framer : Framer) (source : Bytes) : framer.LeadsTo source framer source :=
  ⟨0, fun _ => (Cut.behind_zero _).symm⟩

theorem LeadsTo.trans {first second third : Framer} {source middle left : Bytes}
    (one : first.LeadsTo source second middle) (two : second.LeadsTo middle third left) :
    first.LeadsTo source third left := by
  obtain ⟨inner, before⟩ := one
  obtain ⟨outer, after⟩ := two
  refine ⟨inner + outer, ?_⟩
  intro more
  rw [before, after, Cut.behind_behind]

theorem LeadsTo.decodes {first second third : Framer} {source middle left : Bytes}
    {outcome : Except ProtocolError (Option Message)} (one : first.LeadsTo source second middle)
    (two : second.Decodes middle outcome third left) : first.Decodes source outcome third left := by
  obtain ⟨inner, before⟩ := one
  obtain ⟨outer, after⟩ := two
  refine ⟨inner + outer, ?_⟩
  intro more
  rw [before, after]
  rfl

theorem LeadsTo.append {framer next : Framer} {source left : Bytes}
    (leads : framer.LeadsTo source next left) (more : Bytes) :
    framer.LeadsTo (source ++ more) next (left ++ more) := by
  obtain ⟨taken, same⟩ := leads
  refine ⟨taken, ?_⟩
  intro later
  rw [List.append_assoc, List.append_assoc]
  exact same (more ++ later)

theorem Decodes.append {framer next : Framer} {source left : Bytes}
    {outcome : Except ProtocolError (Option Message)}
    (decodes : framer.Decodes source outcome next left) (more : Bytes) :
    framer.Decodes (source ++ more) outcome next (left ++ more) := by
  obtain ⟨taken, same⟩ := decodes
  refine ⟨taken, ?_⟩
  intro later
  rw [List.append_assoc, List.append_assoc]
  exact same (more ++ later)

/-- Bytes decode in one way, whatever stands behind them. -/
theorem Decodes.unique {framer next last : Framer} {source more left final : Bytes}
    {outcome other : Except ProtocolError (Option Message)}
    (one : framer.Decodes source outcome next left)
    (two : framer.Decodes (source ++ more) other last final) :
    other = outcome ∧ last = next ∧ final = left ++ more := by
  obtain ⟨_, same⟩ := one
  obtain ⟨_, again⟩ := two
  have whole := again []
  rw [List.append_nil, List.append_nil, same more, Cut.mk.injEq] at whole
  obtain ⟨outcomes, framers, _, rests⟩ := whole
  exact ⟨outcomes.symm, framers.symm, rests.symm⟩

theorem leadsTo_of_open (framer : Framer) (source more : Bytes)
    (unsettled : (framer.decode source).settled = false) :
    framer.LeadsTo (source ++ more) (framer.decode source).framer
      ((framer.decode source).rest ++ more) := by
  refine ⟨(framer.decode source).taken, ?_⟩
  intro later
  rw [List.append_assoc, List.append_assoc]
  exact decode_resume framer source (more ++ later) unsettled

theorem decodes_of_settled (framer : Framer) (source more : Bytes)
    (settled : (framer.decode source).settled = true) :
    framer.Decodes (source ++ more) (framer.decode source).outcome (framer.decode source).framer
      ((framer.decode source).rest ++ more) := by
  refine ⟨(framer.decode source).taken, ?_⟩
  intro later
  rw [List.append_assoc, List.append_assoc]
  exact decode_extend framer source (more ++ later) settled

/-- What is left after a decoding that came to nothing comes to nothing again. -/
theorem decode_of_open (framer : Framer) (source : Bytes)
    (unsettled : (framer.decode source).settled = false) :
    ((framer.decode source).framer.decode (framer.decode source).rest).settled = false := by
  have resumed := decode_resume framer source [] unsettled
  simp only [List.append_nil] at resumed
  rw [resumed] at unsettled
  exact unsettled

end Framer

end GameServer
