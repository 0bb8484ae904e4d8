import GameServer.Proofs.Framer.Frames

/- This file shows where the bytes of a stream may end. -/

namespace GameServer.Framer

/-- The bytes are one frame for a framer at rest, which they lead to another one. A frame that is
refused ends where it is refused. -/
inductive Passes (framer : Framer) : Bytes → Framer → Prop where
  | unknown (byte : UInt8) (error : ProtocolError)
      (refused : framer.table.lookup (framer.reveal byte).1 = .error error) :
      Passes framer [byte] (framer.reveal byte).2
  | fixed (byte : UInt8) (binding : Inbound) (payload : Bytes)
      (bound : framer.table.lookup (framer.reveal byte).1 = .ok binding)
      (rule : binding.rule = .fixed payload.length) :
      Passes framer (byte :: payload) (framer.reveal byte).2
  | tooLong (byte : UInt8) (binding : Inbound) (field : LengthField) (header : Bytes)
      (length : Nat) (bound : framer.table.lookup (framer.reveal byte).1 = .ok binding)
      (rule : binding.rule = .declared field)
      (measured : field.read? header = some (length, [])) (excess : framer.limit < length) :
      Passes framer (byte :: header) (framer.reveal byte).2
  | declared (byte : UInt8) (binding : Inbound) (field : LengthField) (header payload : Bytes)
      (bound : framer.table.lookup (framer.reveal byte).1 = .ok binding)
      (rule : binding.rule = .declared field)
      (measured : field.read? header = some (payload.length, []))
      (small : payload.length ≤ framer.limit) :
      Passes framer (byte :: header ++ payload) (framer.reveal byte).2

/-- The bytes are the beginning of a frame for a framer at rest, and the frame goes on. -/
inductive Begins (framer : Framer) : Bytes → Prop where
  | opcode (byte : UInt8) (binding : Inbound) (field : LengthField)
      (bound : framer.table.lookup (framer.reveal byte).1 = .ok binding)
      (rule : binding.rule = .declared field) : Begins framer [byte]
  | half (byte high : UInt8) (binding : Inbound)
      (bound : framer.table.lookup (framer.reveal byte).1 = .ok binding)
      (rule : binding.rule = .declared .short) : Begins framer [byte, high]
  | fixed (byte : UInt8) (binding : Inbound) (part : Bytes) (length : Nat)
      (bound : framer.table.lookup (framer.reveal byte).1 = .ok binding)
      (rule : binding.rule = .fixed length) (lacking : part.length < length) :
      Begins framer (byte :: part)
  | declared (byte : UInt8) (binding : Inbound) (field : LengthField) (header part : Bytes)
      (length : Nat) (bound : framer.table.lookup (framer.reveal byte).1 = .ok binding)
      (rule : binding.rule = .declared field)
      (measured : field.read? header = some (length, [])) (small : length ≤ framer.limit)
      (lacking : part.length < length) : Begins framer (byte :: header ++ part)

/-- The bytes are whole frames. -/
inductive EndsWhole : Framer → Bytes → Prop where
  | nil (framer : Framer) : EndsWhole framer []
  | cons {framer next : Framer} {frame rest : Bytes} (passes : framer.Passes frame next)
      (later : EndsWhole next rest) : EndsWhole framer (frame ++ rest)

/-- The bytes are whole frames and the beginning of another one. -/
inductive EndsInside : Framer → Bytes → Prop where
  | last {framer : Framer} {part : Bytes} (begins : framer.Begins part) : EndsInside framer part
  | cons {framer next : Framer} {frame rest : Bytes} (passes : framer.Passes frame next)
      (later : EndsInside next rest) : EndsInside framer (frame ++ rest)

variable {framer next : Framer} {frame part source : Bytes}

theorem Passes.ne_nil (passes : framer.Passes frame next) : frame ≠ [] := by
  cases passes <;> exact List.cons_ne_nil _ _

theorem Begins.ne_nil (begins : framer.Begins part) : part ≠ [] := by
  cases begins <;> exact List.cons_ne_nil _ _

/-- A length field that can be read makes up the front of the bytes. -/
theorem exists_header (field : LengthField) (bytes rest : Bytes) (length : Nat)
    (read : field.read? bytes = some (length, rest)) :
    ∃ header, bytes = header ++ rest ∧ field.read? header = some (length, []) := by
  obtain ⟨whole, short⟩ := field.write_of_read? bytes rest length read
  refine ⟨field.write length, whole, ?_⟩
  have written := field.read?_write length [] short
  rw [List.append_nil] at written
  exact written

/-- The bytes of a client are a frame and what stands behind it, or the beginning of a frame. -/
theorem passes_or_begins (framer : Framer) (byte : UInt8) (rest : Bytes) :
    (∃ frame left next, byte :: rest = frame ++ left ∧ framer.Passes frame next) ∨
      framer.Begins (byte :: rest) := by
  cases bound : framer.table.lookup (framer.reveal byte).1 with
  | error error => exact .inl ⟨[byte], rest, _, rfl, .unknown byte error bound⟩
  | ok binding =>
      cases rule : binding.rule with
      | fixed length =>
          by_cases lacking : rest.length < length
          · exact .inr (.fixed byte binding rest length bound rule lacking)
          · have size := List.length_take_of_le (Nat.le_of_not_lt lacking)
            refine .inl ⟨byte :: rest.take length, rest.drop length, _, ?_,
              .fixed byte binding _ bound (by rw [size, rule])⟩
            rw [List.cons_append, List.take_append_drop]
      | declared field =>
          cases read : field.read? rest with
          | none =>
              have short := (field.read?_eq_none_iff rest).mp read
              match field, rest with
              | field, [] => exact .inr (.opcode byte binding field bound rule)
              | .short, [high] => exact .inr (.half byte high binding bound rule)
              | .byte, _ :: _ => simp [LengthField.size] at short
              | .short, _ :: _ :: _ =>
                  simp only [LengthField.size, List.length_cons] at short
                  omega
          | some found =>
              obtain ⟨length, left⟩ := found
              obtain ⟨header, whole, measured⟩ := exists_header field rest left length read
              subst whole
              by_cases excess : framer.limit < length
              · exact .inl ⟨byte :: header, left, _, rfl,
                  .tooLong byte binding field header length bound rule measured excess⟩
              · have small := Nat.le_of_not_lt excess
                by_cases lacking : left.length < length
                · exact .inr (.declared byte binding field header left length bound rule measured
                    small lacking)
                · have size := List.length_take_of_le (Nat.le_of_not_lt lacking)
                  rw [← size] at measured small
                  refine .inl ⟨byte :: header ++ left.take length, left.drop length, _, ?_,
                    .declared byte binding field header _ bound rule measured small⟩
                  rw [List.append_assoc, List.take_append_drop]
                  rfl

/-- Every byte string ends behind a frame or inside one. -/
theorem endsWhole_or_endsInside (framer : Framer) (source : Bytes) :
    framer.EndsWhole source ∨ framer.EndsInside source := by
  cases source with
  | nil => exact .inl (.nil framer)
  | cons byte rest =>
      rcases framer.passes_or_begins byte rest with ⟨frame, left, next, whole, passes⟩ | begins
      · have fewer : left.length < (byte :: rest).length := by
          have some := List.length_pos_iff.mpr passes.ne_nil
          rw [whole, List.length_append]
          omega
        rw [whole]
        rcases endsWhole_or_endsInside next left with ends | ends
        · exact .inl (.cons passes ends)
        · exact .inr (.cons passes ends)
      · exact .inr (.last begins)
termination_by source.length
decreasing_by exact fewer

theorem progress_reveal (framer : Framer) (byte : UInt8) :
    (framer.reveal byte).2.progress = framer.progress := by
  unfold reveal
  split <;> rfl

theorem reveal_idle (byte : UInt8) (idle : framer.progress = .idle) :
    { (framer.reveal byte).2 with progress := .idle } = (framer.reveal byte).2 := by
  rw [← idle, ← progress_reveal framer byte]

theorem takeFrame_cons (byte : UInt8) (rest : Bytes) (idle : framer.progress = .idle) :
    framer.takeFrame (byte :: rest) =
      match framer.table.lookup (framer.reveal byte).1 with
      | .error error => ⟨.error error, (framer.reveal byte).2, 1, rest⟩
      | .ok binding =>
          match binding.rule with
          | .fixed length => ((framer.reveal byte).2.fill binding length rest).behind 1
          | .declared field => ((framer.reveal byte).2.measure binding field rest).behind 1 := by
  have same : (framer.reveal byte).2.table.lookup (framer.reveal byte).1 =
      framer.table.lookup (framer.reveal byte).1 := by
    rw [(reveal_rules framer byte).1]
  simp only [takeFrame, idle, start, same]
  rewrite [reveal_idle byte idle]
  rfl

/-- A frame is read off the front of the bytes. -/
theorem Passes.takeFrame (passes : framer.Passes frame next) (idle : framer.progress = .idle)
    (more : Bytes) :
    next.progress = .idle ∧ (framer.takeFrame (frame ++ more)).settled = true ∧
      (framer.takeFrame (frame ++ more)).framer = next ∧
      (framer.takeFrame (frame ++ more)).rest = more := by
  have still (byte : UInt8) := reveal_idle byte idle
  have limit (byte : UInt8) := (reveal_rules framer byte).2
  cases passes with
  | unknown byte error refused =>
      rw [List.cons_append, takeFrame_cons byte _ idle, refused]
      exact ⟨(progress_reveal framer byte).trans idle, rfl, rfl, rfl⟩
  | fixed byte binding payload bound rule =>
      rw [List.cons_append, takeFrame_cons byte _ idle, bound]
      simp only [rule, fill_payload, still]
      exact ⟨(progress_reveal framer byte).trans idle, rfl, rfl, rfl⟩
  | tooLong byte binding field header length bound rule measured excess =>
      have read := field.read?_append header more [] length measured
      rw [← limit byte] at excess
      rw [List.cons_append, takeFrame_cons byte _ idle, bound]
      simp only [rule, measure, read, if_pos excess, still]
      exact ⟨(progress_reveal framer byte).trans idle, rfl, rfl, rfl⟩
  | declared byte binding field header payload bound rule measured small =>
      have read := field.read?_append header (payload ++ more) [] payload.length measured
      rw [← limit byte] at small
      rw [List.append_assoc, List.cons_append, takeFrame_cons byte _ idle, bound]
      simp only [rule, measure, read, if_neg (Nat.not_lt.mpr small), List.nil_append,
        fill_payload, still]
      exact ⟨(progress_reveal framer byte).trans idle, rfl, rfl, rfl⟩

/-- The beginning of a frame yields nothing. -/
theorem Begins.settled_takeFrame (begins : framer.Begins part) (idle : framer.progress = .idle) :
    (framer.takeFrame part).settled = false := by
  have starving (revealed : Framer) (binding : Inbound) (left : Bytes) (length : Nat)
      (lacking : left.length < length) : (revealed.fill binding length left).settled = false := by
    rw [fill, (Bytes.split?_eq_none_iff length left).mpr lacking]
    rfl
  cases begins with
  | opcode byte binding field bound rule =>
      have read : field.read? [] = none :=
        (field.read?_eq_none_iff []).mpr (by cases field <;> decide)
      rw [takeFrame_cons byte _ idle, bound]
      simp only [rule, measure, read]
      rfl
  | half byte high binding bound rule =>
      have read : LengthField.short.read? [high] = none := rfl
      rw [takeFrame_cons byte _ idle, bound]
      simp only [rule, measure, read]
      rfl
  | fixed byte binding part length bound rule lacking =>
      rw [takeFrame_cons byte _ idle, bound]
      simp only [rule, Cut.settled_behind]
      exact starving _ binding part length lacking
  | declared byte binding field header part length bound rule measured small lacking =>
      have read := field.read?_append header part [] length measured
      rw [← (reveal_rules framer byte).2] at small
      rw [List.cons_append, takeFrame_cons byte _ idle, bound]
      simp only [rule, measure, read, if_neg (Nat.not_lt.mpr small), List.nil_append,
        Cut.settled_behind]
      exact starving _ binding part length lacking

/-- A framer that has drained whole frames is at rest with nothing left. -/
theorem EndsWhole.drain (ends : framer.EndsWhole source) (idle : framer.progress = .idle) :
    (framer.drain source).2.1.isIdle = true ∧ (framer.drain source).2.2 = [] := by
  induction ends with
  | nil framer =>
      have resting : framer.isIdle = true := by rw [isIdle, idle]
      have still : framer.decode [] = ⟨.ok none, framer, 0, []⟩ := by
        rw [decode, takeFrame_nil framer resting]
        rfl
      rw [drain_of_open framer [] (by rw [still]; rfl), still]
      exact ⟨resting, rfl⟩
  | cons passes later ih =>
      obtain ⟨resting, settled, final, left⟩ := passes.takeFrame idle _
      have one := drain_of_settled _ _ ((Cut.settled_message _).trans settled)
      rw [one]
      simp only [decode, Cut.message, final, left]
      exact ih resting

/-- A framer that has drained the beginning of a frame is in the middle of it. -/
theorem EndsInside.drain (ends : framer.EndsInside source) (idle : framer.progress = .idle) :
    (framer.drain source).2.1.isIdle = false := by
  induction ends with
  | @last framer part begins =>
      have pending := begins.settled_takeFrame idle
      have parked := isIdle_takeFrame framer part (.inr begins.ne_nil)
      rw [drain_of_open framer part ((Cut.settled_message _).trans pending)]
      exact parked.trans pending
  | cons passes later ih =>
      obtain ⟨resting, settled, final, left⟩ := passes.takeFrame idle _
      have one := drain_of_settled _ _ ((Cut.settled_message _).trans settled)
      rw [one]
      simp only [decode, Cut.message, final, left]
      exact ih resting

end GameServer.Framer
