import GameServer.Proofs.Framer.Streams

/- This file shows that a frame is read only off the bytes that it is written as. -/

namespace GameServer

theorem Bytes.split?_some (count : Nat) (bytes front rest : Bytes)
    (found : bytes.split? count = some (front, rest)) :
    bytes = front ++ rest ∧ front.length = count := by
  have enough : count ≤ bytes.length := by
    apply Nat.le_of_not_lt
    intro short
    rw [(split?_eq_none_iff count bytes).mpr short] at found
    cases found
  rw [split?_of_le count bytes enough] at found
  cases found
  exact ⟨(List.take_append_drop count bytes).symm, List.length_take_of_le enough⟩

/-- A length that was read is written as the bytes that it was read off. -/
theorem LengthField.write_of_read? (field : LengthField) (bytes rest : Bytes) (length : Nat)
    (read : field.read? bytes = some (length, rest)) :
    bytes = field.write length ++ rest ∧ length ≤ field.capacity := by
  unfold read? at read
  split at read
  · next value left =>
      cases read
      refine ⟨?_, Nat.le_of_lt_succ value.toNat_lt⟩
      simp [write]
  · next high low left =>
      cases read
      refine ⟨?_, Nat.le_of_lt_succ (Bytes.toUInt16 high low).toNat_lt⟩
      simp only [write, UInt16.ofNat_toNat, Bytes.halves_toUInt16]
      rfl
  · cases read

namespace Framer

theorem fill_some (framer : Framer) (binding found : Inbound) (length : Nat) (source : Bytes)
    (frame : Frame)
    (taken : (framer.fill binding length source).outcome = .ok (some (found, frame))) :
    found = binding ∧ frame.opcode = binding.opcode ∧ frame.payload.length = length ∧
      source = frame.payload ++ (framer.fill binding length source).rest ∧
      (framer.fill binding length source).framer = { framer with progress := .idle } := by
  unfold fill at taken ⊢
  split at taken
  · cases taken
  · next payload rest split =>
      cases taken
      obtain ⟨whole, size⟩ := Bytes.split?_some length source payload rest split
      exact ⟨rfl, rfl, size, whole, rfl⟩

theorem measure_some (framer : Framer) (binding found : Inbound) (field : LengthField)
    (source : Bytes) (frame : Frame)
    (taken : (framer.measure binding field source).outcome = .ok (some (found, frame))) :
    found = binding ∧ frame.opcode = binding.opcode ∧
      frame.payload.length ≤ field.capacity ∧ frame.payload.length ≤ framer.limit ∧
      source = field.write frame.payload.length ++ frame.payload ++
        (framer.measure binding field source).rest ∧
      (framer.measure binding field source).framer = { framer with progress := .idle } := by
  unfold measure at taken ⊢
  split at taken
  · cases taken
  · next length rest read =>
      obtain ⟨header, short⟩ := field.write_of_read? source rest length read
      by_cases tooLong : framer.limit < length
      · rw [if_pos tooLong] at taken
        cases taken
      · rw [if_neg tooLong] at taken ⊢
        obtain ⟨same, opcode, size, whole, idle⟩ :=
          fill_some framer binding found length rest frame taken
        refine ⟨same, opcode, by omega, by omega, ?_, idle⟩
        rw [size, List.append_assoc, Cut.rest_behind, ← whole]
        exact header

/-- A frame is read off its opcode, its header and its payload. -/
theorem takeFrame_some (framer : Framer) (source : Bytes) (binding : Inbound) (frame : Frame)
    (idle : framer.progress = .idle)
    (taken : (framer.takeFrame source).outcome = .ok (some (binding, frame))) :
    ∃ byte, source = byte :: binding.rule.header frame.payload.length ++ frame.payload ++
        (framer.takeFrame source).rest ∧
      frame.opcode = (framer.reveal byte).1 ∧ framer.table.find? frame.opcode = some binding ∧
      binding.rule.check frame.opcode frame.payload.length = .ok () ∧
      (framer.takeFrame source).framer =
        { (framer.reveal byte).2 with progress := .idle } := by
  simp only [takeFrame, idle] at taken ⊢
  cases source with
  | nil => cases taken
  | cons byte rest =>
      refine ⟨byte, ?_⟩
      have rules := reveal_rules framer byte
      simp only [start, Bindings.lookup] at taken ⊢
      cases bound : (framer.reveal byte).2.table.find? (framer.reveal byte).1 with
      | none =>
          rw [bound] at taken
          cases taken
      | some entry =>
          have named := Table.opcode_of_find? _ _ _ bound
          simp only [bound] at taken ⊢
          rw [← rules.1]
          cases rule : entry.rule with
          | fixed length =>
              simp only [rule] at taken ⊢
              obtain ⟨same, opcode, size, whole, final⟩ := fill_some _ _ _ _ _ _ taken
              subst same
              rw [opcode, named]
              refine ⟨?_, rfl, bound, ?_, final⟩
              · rw [rule, LengthRule.header, Cut.rest_behind, List.cons_append, List.cons_append,
                  List.nil_append, ← whole]
              · rw [rule, LengthRule.check, if_pos size.symm]
          | declared field =>
              simp only [rule] at taken ⊢
              obtain ⟨same, opcode, short, small, whole, final⟩ := measure_some _ _ _ _ _ _ taken
              subst same
              rw [opcode, named]
              refine ⟨?_, rfl, bound, ?_, final⟩
              · rw [rule, LengthRule.header, Cut.rest_behind, List.cons_append, List.cons_append,
                  ← whole]
              · rw [rule, LengthRule.check, if_neg (by omega)]

/-- A message is decoded from a frame by the codec of its binding. -/
theorem decode_some (framer : Framer) (source : Bytes) (message : Message)
    (found : (framer.decode source).outcome = .ok (some message)) :
    ∃ binding frame, (framer.takeFrame source).outcome = .ok (some (binding, frame)) ∧
      binding.codec.decode frame.opcode frame.payload = .ok message := by
  simp only [decode, Cut.message] at found
  cases taken : (framer.takeFrame source).outcome with
  | error error =>
      rw [taken] at found
      cases found
  | ok result =>
      cases result with
      | none =>
          rw [taken] at found
          cases found
      | some pair =>
          obtain ⟨binding, frame⟩ := pair
          refine ⟨binding, frame, rfl, ?_⟩
          rw [taken] at found
          dsimp only at found
          cases decoded : binding.codec.decode frame.opcode frame.payload with
          | error error =>
              rw [decoded] at found
              cases found
          | ok value =>
              rw [decoded] at found
              cases found
              rfl

end Framer

end GameServer
