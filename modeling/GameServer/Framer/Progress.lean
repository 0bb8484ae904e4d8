import GameServer.Framer.Basic

/- This file shows that reading with a framer comes to an end. -/

namespace GameServer.Framer

/-- The work that is left counts every byte twice and a frame in progress once. -/
def work (framer : Framer) (source : Bytes) : Nat :=
  2 * source.length + if framer.isIdle then 0 else 1

/-- A cut is settled if it yields a value or an error. -/
def Cut.settled {α : Type} (cut : Cut α) : Bool :=
  match cut.outcome with
  | .ok none => false
  | _ => true

theorem Cut.settled_of_some {α : Type} (cut : Cut α) (value : α)
    (same : cut.outcome = .ok (some value)) : cut.settled = true := by
  simp [settled, same]

/-- The work that a cut leaves. -/
def Cut.work {α : Type} (cut : Cut α) : Nat := cut.framer.work cut.rest

@[simp] theorem work_idle (framer : Framer) (source : Bytes) :
    work { framer with progress := .idle } source = 2 * source.length := rfl

@[simp] theorem isIdle_idle (framer : Framer) :
    isIdle { framer with progress := .idle } = true := rfl

@[simp] theorem Cut.settled_behind {α : Type} (cut : Cut α) (count : Nat) :
    (cut.behind count).settled = cut.settled := rfl

@[simp] theorem Cut.work_behind {α : Type} (cut : Cut α) (count : Nat) :
    (cut.behind count).work = cut.work := rfl

theorem fill_work_le (framer : Framer) (binding : Inbound) (length : Nat) (source : Bytes)
    (settled : (framer.fill binding length source).settled = true) :
    (framer.fill binding length source).work ≤ 2 * source.length := by
  unfold fill at *
  split at *
  · simp [Cut.settled] at settled
  · next payload rest same =>
      simp only [Bytes.split?] at same
      split at same
      · cases same
      · cases same
        simp only [Cut.work, work_idle, List.length_drop]
        omega

theorem measure_work_lt (framer : Framer) (binding : Inbound) (field : LengthField)
    (source : Bytes) (settled : (framer.measure binding field source).settled = true) :
    (framer.measure binding field source).work < 2 * source.length := by
  unfold measure at *
  split at *
  · simp [Cut.settled] at settled
  · next length rest same =>
      have count := field.length_of_read? source rest length same
      have positive : 0 < field.size := by cases field <;> decide
      by_cases tooLong : framer.limit < length
      · rw [if_pos tooLong]
        simp only [Cut.work, work_idle]
        omega
      · rw [if_neg tooLong] at *
        have bound := fill_work_le framer binding length rest settled
        rw [Cut.work_behind]
        omega

theorem start_work_lt (framer : Framer) (source : Bytes)
    (settled : (framer.start source).settled = true) :
    (framer.start source).work < 2 * source.length := by
  cases source with
  | nil => simp [start, Cut.settled] at settled
  | cons byte rest =>
      simp only [start, List.length_cons] at *
      split at *
      · simp only [Cut.work, work_idle]
        omega
      · split at *
        · have bound := fill_work_le _ _ _ _ settled
          rw [Cut.work_behind]
          omega
        · have bound := measure_work_lt _ _ _ _ settled
          rw [Cut.work_behind]
          omega

/-- A settled read leaves less work. -/
theorem takeFrame_work_lt (framer : Framer) (source : Bytes)
    (settled : (framer.takeFrame source).settled = true) :
    (framer.takeFrame source).work < framer.work source := by
  unfold takeFrame at *
  split at *
  · next idle =>
      have bound := start_work_lt framer source settled
      simp only [work, isIdle, idle]
      omega
  · next binding field parked =>
      have bound := measure_work_lt framer binding field source settled
      simp only [work, isIdle, parked]
      omega
  · next binding length parked =>
      have bound := fill_work_le framer binding length source settled
      simp only [work, isIdle, parked]
      simp only [Cut.work] at bound
      exact Nat.lt_succ_of_le bound

theorem fill_work_le_succ (framer : Framer) (binding : Inbound) (length : Nat) (source : Bytes) :
    (framer.fill binding length source).work ≤ 2 * source.length + 1 := by
  by_cases settled : (framer.fill binding length source).settled = true
  · exact Nat.le_succ_of_le (fill_work_le framer binding length source settled)
  · unfold fill at *
    split at *
    · simp [Cut.work, work, isIdle]
    · simp [Cut.settled] at settled

theorem measure_work_le_succ (framer : Framer) (binding : Inbound) (field : LengthField)
    (source : Bytes) : (framer.measure binding field source).work ≤ 2 * source.length + 1 := by
  unfold measure
  split
  · simp [Cut.work, work, isIdle]
  · next length rest same =>
      have count := field.length_of_read? source rest length same
      split
      · simp only [Cut.work, work_idle]
        omega
      · have bound := fill_work_le_succ framer binding length rest
        rw [Cut.work_behind]
        omega

theorem start_work_le (framer : Framer) (source : Bytes) :
    (framer.start source).work ≤ 2 * source.length := by
  cases source with
  | nil => simp [start, Cut.work]
  | cons byte rest =>
      simp only [start, List.length_cons]
      split
      · simp only [Cut.work, work_idle]
        omega
      · split
        · have bound := fill_work_le_succ (framer.reveal byte).2 ‹Inbound› ‹Nat› rest
          rw [Cut.work_behind]
          omega
        · have bound := measure_work_le_succ (framer.reveal byte).2 ‹Inbound› ‹LengthField› rest
          rw [Cut.work_behind]
          omega

/-- No read leaves more work. -/
theorem takeFrame_work_le (framer : Framer) (source : Bytes) :
    (framer.takeFrame source).work ≤ framer.work source := by
  unfold takeFrame
  split
  · next idle =>
      have bound := start_work_le framer source
      simp only [work, isIdle, idle]
      omega
  · next binding field parked =>
      have bound := measure_work_le_succ framer binding field source
      simp only [work, isIdle, parked]
      exact bound
  · next binding length parked =>
      have bound := fill_work_le_succ framer binding length source
      simp only [work, isIdle, parked]
      exact bound

theorem decode_work_le (framer : Framer) (source : Bytes) :
    (framer.decode source).work ≤ framer.work source :=
  takeFrame_work_le framer source

theorem settled_of_message (cut : Cut (Inbound × Frame))
    (settled : cut.message.settled = true) : cut.settled = true := by
  unfold Cut.settled Cut.message at *
  cases same : cut.outcome with
  | error error => rfl
  | ok found =>
      cases found with
      | none => simp [same] at settled
      | some pair => rfl

/-- A message or an error leaves less work. -/
theorem decode_work_lt (framer : Framer) (source : Bytes)
    (settled : (framer.decode source).settled = true) :
    (framer.decode source).work < framer.work source := by
  exact takeFrame_work_lt framer source (settled_of_message _ settled)

theorem fill_rest (framer : Framer) (binding : Inbound) (length : Nat) (source : Bytes) :
    (framer.fill binding length source).rest =
      source.drop (framer.fill binding length source).taken := by
  unfold fill
  split
  · rfl
  · next payload rest same =>
      simp only [Bytes.split?] at same
      split at same
      · cases same
      · cases same
        rfl

theorem measure_rest (framer : Framer) (binding : Inbound) (field : LengthField)
    (source : Bytes) :
    (framer.measure binding field source).rest =
      source.drop (framer.measure binding field source).taken := by
  unfold measure
  split
  · rfl
  · next length rest same =>
      have left := field.rest_of_read? source rest length same
      split
      · exact left
      · simp only [Cut.behind, fill_rest, left, List.drop_drop]

theorem start_rest (framer : Framer) (source : Bytes) :
    (framer.start source).rest = source.drop (framer.start source).taken := by
  cases source with
  | nil => rfl
  | cons byte rest =>
      simp only [start]
      split
      · rfl
      · split
        · simp only [Cut.behind, Nat.add_comm 1, List.drop_succ_cons, ← fill_rest]
        · simp only [Cut.behind, Nat.add_comm 1, List.drop_succ_cons, ← measure_rest]

/-- The rest stands behind the bytes that were taken. -/
theorem decode_rest (framer : Framer) (source : Bytes) :
    (framer.decode source).rest = source.drop (framer.decode source).taken := by
  simp only [decode, Cut.message, takeFrame]
  split
  · exact start_rest framer source
  · exact measure_rest framer _ _ source
  · exact fill_rest framer _ _ source

/-- A payload that lacks bytes is not cut off. -/
theorem decode_of_missing (framer : Framer) (source : Bytes)
    (lacking : 0 < framer.missing source.length) :
    framer.decode source = ⟨.ok none, framer, 0, source⟩ := by
  unfold missing at lacking
  split at lacking
  · next binding length filling =>
      have short := (Bytes.split?_eq_none_iff length source).mpr (by omega)
      simp only [decode, Cut.message, takeFrame, filling, fill, short]
      rw [← filling]
  · omega

theorem work_append (framer : Framer) (source more : Bytes) :
    framer.work (source ++ more) = framer.work source + 2 * more.length := by
  simp only [work, List.length_append]
  omega

/-- Messages are decoded until nothing is complete or an error comes, which is kept last. -/
def decodeUntilError (framer : Framer) (source : Bytes) :
    List (Except ProtocolError Message) × Framer × Bytes :=
  match _settled : (framer.decode source).outcome with
  | .ok none => ([], (framer.decode source).framer, (framer.decode source).rest)
  | .error error => ([.error error], (framer.decode source).framer, (framer.decode source).rest)
  | .ok (some message) =>
      let (results, final) :=
        decodeUntilError (framer.decode source).framer (framer.decode source).rest
      (.ok message :: results, final)
termination_by framer.work source
decreasing_by
  exact decode_work_lt framer source (by simp [Cut.settled, _settled])

/-- Decoding goes on after errors until nothing is complete. -/
def drain (framer : Framer) (source : Bytes) :
    List (Except ProtocolError Message) × Framer × Bytes :=
  match _settled : (framer.decode source).outcome with
  | .ok none => ([], (framer.decode source).framer, (framer.decode source).rest)
  | .error error =>
      let (results, final) := drain (framer.decode source).framer (framer.decode source).rest
      (.error error :: results, final)
  | .ok (some message) =>
      let (results, final) := drain (framer.decode source).framer (framer.decode source).rest
      (.ok message :: results, final)
termination_by framer.work source
decreasing_by
  all_goals exact decode_work_lt framer source (by simp [Cut.settled, _settled])

end GameServer.Framer
