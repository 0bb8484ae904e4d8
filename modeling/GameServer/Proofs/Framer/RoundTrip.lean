import GameServer.Proofs.Framer.Attempts
import GameServer.Proofs.Framer.Frames

/- This file sends lists of frames through a plain framer and back. -/

namespace GameServer

/-- The number of bytes between an opcode and its payload. -/
def LengthRule.width : LengthRule → Nat
  | .fixed _ => 0
  | .declared field => field.size

theorem LengthRule.length_header (rule : LengthRule) (length : Nat) :
    (rule.header length).length = rule.width := by
  cases rule with
  | fixed expected => rfl
  | declared field => exact field.length_write length

/-- The opcode of the frame is bound, and its rule admits the payload. -/
def Table.Carries (table : Table) (frame : Frame) : Prop :=
  ∃ binding ∈ table.find? frame.opcode, binding.rule.Admits frame.payload.length

instance (table : Table) : DecidablePred table.Carries := fun frame =>
  inferInstanceAs
    (Decidable (∃ binding ∈ table.find? frame.opcode, binding.rule.Admits frame.payload.length))

namespace Framer

theorem accepted_ofFrame (table : Table) (frame : Frame) :
    (Attempt.ofFrame frame).Accepted table ↔ table.Carries frame := by
  constructor
  · rintro ⟨draft, drafted, fits⟩
    obtain ⟨binding, bound, rfl⟩ := Option.map_eq_some_iff.mp drafted
    exact ⟨binding, bound, fits⟩
  · rintro ⟨binding, bound, admits⟩
    exact ⟨_, Option.map_eq_some_iff.mpr ⟨binding, bound, rfl⟩, admits⟩

/-- Frames are read until none is complete or an error comes. The framer and the bytes are those in
front of the read that ended it. -/
def takeFrames (framer : Framer) (source : Bytes) : List (Inbound × Frame) × Framer × Bytes :=
  match _settled : (framer.takeFrame source).outcome with
  | .ok (some found) =>
      let later := takeFrames (framer.takeFrame source).framer (framer.takeFrame source).rest
      (found :: later.1, later.2)
  | _ => ([], framer, source)
termination_by framer.work source
decreasing_by exact takeFrame_work_lt framer source (by simp [Cut.settled, _settled])

theorem takeFrames_some (framer : Framer) (source : Bytes) (found : Inbound × Frame)
    (taken : (framer.takeFrame source).outcome = .ok (some found)) :
    framer.takeFrames source =
      (found :: ((framer.takeFrame source).framer.takeFrames (framer.takeFrame source).rest).1,
        ((framer.takeFrame source).framer.takeFrames (framer.takeFrame source).rest).2) := by
  rw [takeFrames]
  split
  · next other same =>
      rw [taken] at same
      cases same
      rfl
  · next none => exact absurd taken (none found)

theorem takeFrames_none (framer : Framer) (source : Bytes)
    (none : ∀ found, (framer.takeFrame source).outcome ≠ .ok (some found)) :
    framer.takeFrames source = ([], framer, source) := by
  rw [takeFrames]
  split
  · next found taken => exact absurd taken (none found)
  · rfl

/-- No frame is read after the last one. -/
theorem takeFrames_stops (framer : Framer) (source : Bytes) (found : Inbound × Frame) :
    ((framer.takeFrames source).2.1.takeFrame (framer.takeFrames source).2.2).outcome ≠
      .ok (some found) := by
  induction framer, source using takeFrames.induct with
  | case1 framer source first taken ih =>
      rw [takeFrames_some framer source first taken]
      exact ih
  | case2 framer source none =>
      rw [takeFrames_none framer source none]
      exact none found

/-- The bytes of a frame that is not hidden. -/
def wire (rule : LengthRule) (frame : Frame) : Bytes :=
  frame.opcode :: rule.header frame.payload.length ++ frame.payload

theorem length_wire (rule : LengthRule) (frame : Frame) :
    (wire rule frame).length = 1 + rule.width + frame.payload.length := by
  simp only [wire, List.length_append, List.length_cons, LengthRule.length_header, Nat.add_comm 1]

variable (table : Table) (limit : Nat)

theorem encodeFrame_plain {frame : Frame} {binding : Inbound}
    (bound : binding ∈ table.find? frame.opcode)
    (admits : binding.rule.Admits frame.payload.length) (written : Bytes) :
    encodeFrame frame (plain table limit, written) =
      .ok () (plain table limit, written ++ wire binding.rule frame) := by
  have looked : (plain table limit).table.lookup frame.opcode = .ok binding := by
    rw [Bindings.lookup, plain, Option.mem_def.mp bound]
  simp only [encodeFrame, looked, putFrame, binding.rule.check_of_admits admits frame.opcode]
  simp only [hide, plain, wire, List.cons_append, List.append_assoc]

theorem takeFrame_wire {frame : Frame} {binding : Inbound}
    (bound : binding ∈ table.find? frame.opcode)
    (admits : binding.rule.Admits frame.payload.length) (small : frame.payload.length ≤ limit)
    (more : Bytes) :
    ∃ taken, (plain table limit).takeFrame (wire binding.rule frame ++ more) =
      ⟨.ok (some (binding, frame)), plain table limit, taken, more⟩ :=
  ⟨_, takeFrame_frame (plain table limit) (plain table limit) frame.opcode frame.opcode binding
    frame.payload more rfl rfl bound (binding.rule.check_of_admits admits frame.opcode) small⟩

theorem encodeFrame_refused {frame : Frame} (refuses : ¬ table.Carries frame) :
    ∃ error, ∀ written,
      encodeFrame frame (plain table limit, written) =
        .error error (plain table limit, written) := by
  cases (Attempt.ofFrame frame).tries (plain table limit) with
  | accepted draft bytes drafted fits writes =>
      exact absurd ((accepted_ofFrame table frame).mp ⟨draft, drafted, fits⟩) refuses
  | refused error unfit fails => exact ⟨error, fails⟩

theorem writeAll_carried {frame : Frame} {binding : Inbound}
    (bound : binding ∈ table.find? frame.opcode)
    (admits : binding.rule.Admits frame.payload.length) (written : Bytes)
    (others : List Attempt) :
    writeAll (plain table limit, written) (.ofFrame frame :: others) =
      writeAll (plain table limit, written ++ wire binding.rule frame) others := by
  rw [writeAll, List.foldl_cons, Attempt.leave, Attempt.write,
    encodeFrame_plain table limit bound admits written]
  rfl

theorem writeAll_refused {frame : Frame} (refuses : ¬ table.Carries frame) (written : Bytes)
    (others : List Attempt) :
    writeAll (plain table limit, written) (.ofFrame frame :: others) =
      writeAll (plain table limit, written) others := by
  obtain ⟨error, refused⟩ := encodeFrame_refused table limit refuses
  rw [writeAll, List.foldl_cons, Attempt.leave, Attempt.write, refused]
  rfl

/-- Frames that were written read back as those that the table carries. -/
theorem takeFrames_of_writeAll (frames : List Frame)
    (small : ∀ frame ∈ frames, frame.payload.length ≤ limit) :
    ∃ bytes found,
      (∀ written, writeAll (plain table limit, written) (frames.map .ofFrame) =
        (plain table limit, written ++ bytes)) ∧
      (plain table limit).takeFrames bytes = (found, plain table limit, []) ∧
      found.map Prod.snd = frames.filter (table.Carries ·) ∧
      ∀ pair ∈ found, pair.1 ∈ table.find? pair.2.opcode := by
  induction frames with
  | nil =>
      refine ⟨[], [], fun written => ?_, ?_, rfl, List.forall_mem_nil _⟩
      · rw [List.append_nil]
        rfl
      · refine takeFrames_none _ _ fun found taken => ?_
        rw [takeFrame_nil _ rfl] at taken
        cases taken
  | cons frame rest ih =>
      obtain ⟨small, others⟩ := List.forall_mem_cons.mp small
      obtain ⟨bytes, found, writes, reads, same, bound⟩ := ih others
      by_cases carried : table.Carries frame
      · have kept : (frame :: rest).filter (table.Carries ·) =
            frame :: rest.filter (table.Carries ·) :=
          List.filter_cons_of_pos (decide_eq_true carried)
        obtain ⟨binding, entry, admits⟩ := carried
        obtain ⟨count, taken⟩ := takeFrame_wire table limit entry admits small bytes
        refine ⟨wire binding.rule frame ++ bytes, (binding, frame) :: found, fun written => ?_,
          ?_, ?_, List.forall_mem_cons.mpr ⟨entry, bound⟩⟩
        · rw [List.map_cons, writeAll_carried table limit entry admits, writes, List.append_assoc]
        · rw [takeFrames_some _ _ (binding, frame) (by rw [taken]), taken, reads]
        · rw [List.map_cons, same, kept]
      · have dropped : (frame :: rest).filter (table.Carries ·) = rest.filter (table.Carries ·) :=
          List.filter_cons_of_neg (by simpa using carried)
        refine ⟨bytes, found, fun written => ?_, reads, same.trans dropped.symm, bound⟩
        rw [List.map_cons, writeAll_refused table limit carried, writes]

/-- A plain framer reads a frame only off the bytes of the frame. -/
theorem takeFrame_plain {source : Bytes} {binding : Inbound} {frame : Frame}
    (taken : ((plain table limit).takeFrame source).outcome = .ok (some (binding, frame))) :
    binding ∈ table.find? frame.opcode ∧ binding.rule.Admits frame.payload.length ∧
      source = wire binding.rule frame ++ ((plain table limit).takeFrame source).rest ∧
      ((plain table limit).takeFrame source).framer = plain table limit := by
  obtain ⟨byte, whole, opcode, entry, obeyed, final⟩ :=
    takeFrame_some (plain table limit) source binding frame rfl taken
  refine ⟨entry, LengthRule.admits_of_check obeyed, ?_, final⟩
  rw [wire, opcode]
  exact whole

/-- Frames that were read are written as the bytes that they were read off. -/
theorem writeAll_of_takeFrames (source : Bytes) :
    ∃ found bytes left,
      (plain table limit).takeFrames source = (found, plain table limit, left) ∧
      source = bytes ++ left ∧
      (∀ pair ∈ found, pair.1 ∈ table.find? pair.2.opcode ∧
        pair.1.rule.Admits pair.2.payload.length) ∧
      ∀ written, writeAll (plain table limit, written) (found.map fun pair => .ofFrame pair.2) =
        (plain table limit, written ++ bytes) := by
  generalize start : plain table limit = framer
  induction framer, source using takeFrames.induct with
  | case1 framer source first taken ih =>
      subst start
      obtain ⟨binding, frame⟩ := first
      obtain ⟨entry, admits, whole, final⟩ := takeFrame_plain table limit taken
      obtain ⟨found, bytes, left, reads, rest, carried, writes⟩ := ih final.symm
      rw [final] at reads writes
      refine ⟨(binding, frame) :: found, wire binding.rule frame ++ bytes, left, ?_, ?_,
        List.forall_mem_cons.mpr ⟨⟨entry, admits⟩, carried⟩, fun written => ?_⟩
      · rw [takeFrames_some _ _ _ taken, final, reads]
      · rw [List.append_assoc, ← rest]
        exact whole
      · rw [List.map_cons, writeAll_carried table limit entry admits, writes, List.append_assoc]
  | case2 framer source none =>
      subst start
      refine ⟨[], [], source, takeFrames_none _ source none, rfl, List.forall_mem_nil _,
        fun written => ?_⟩
      rw [List.append_nil]
      rfl

/-- The table decides which frames are written and as how many bytes. What is written of a list reads
back as the frames that the table carries, each with its entry, and then nothing is left. The frames that
are read off any bytes are written as the bytes in front of the read that found no other. -/
theorem plain_round_trip :
    (∀ frame : Frame,
      (∃ binding ∈ table.find? frame.opcode, binding.rule.Admits frame.payload.length ∧
        ∃ bytes, bytes.length = 1 + binding.rule.width + frame.payload.length ∧
          ∀ written, encodeFrame frame (plain table limit, written) =
            .ok () (plain table limit, written ++ bytes)) ∨
      (¬ table.Carries frame ∧ ∃ error, ∀ written,
        encodeFrame frame (plain table limit, written) =
          .error error (plain table limit, written))) ∧
    (∀ frames : List Frame, (∀ frame ∈ frames, frame.payload.length ≤ limit) →
      ∃ bytes found,
        (∀ written, writeAll (plain table limit, written) (frames.map .ofFrame) =
          (plain table limit, written ++ bytes)) ∧
        (plain table limit).takeFrames bytes = (found, plain table limit, []) ∧
        found.map Prod.snd = frames.filter (table.Carries ·) ∧
        (∀ pair ∈ found, pair.1 ∈ table.find? pair.2.opcode) ∧
        (plain table limit).takeFrame [] = ⟨.ok none, plain table limit, 0, []⟩) ∧
    ∀ source : Bytes, ∃ found bytes left,
      (plain table limit).takeFrames source = (found, plain table limit, left) ∧
      source = bytes ++ left ∧
      (∀ pair, ((plain table limit).takeFrame left).outcome ≠ .ok (some pair)) ∧
      (∀ pair ∈ found, pair.1 ∈ table.find? pair.2.opcode ∧
        pair.1.rule.Admits pair.2.payload.length) ∧
      ∀ written, writeAll (plain table limit, written) (found.map fun pair => .ofFrame pair.2) =
        (plain table limit, written ++ bytes) := by
  refine ⟨fun frame => ?_, fun frames small => ?_, fun source => ?_⟩
  · by_cases carried : table.Carries frame
    · obtain ⟨binding, bound, admits⟩ := carried
      exact .inl ⟨binding, bound, admits, wire binding.rule frame, length_wire _ _,
        encodeFrame_plain table limit bound admits⟩
    · exact .inr ⟨carried, encodeFrame_refused table limit carried⟩
  · obtain ⟨bytes, found, writes, reads, same, bound⟩ :=
      takeFrames_of_writeAll table limit frames small
    exact ⟨bytes, found, writes, reads, same, bound, takeFrame_nil _ rfl⟩
  · obtain ⟨found, bytes, left, reads, whole, carried, writes⟩ :=
      writeAll_of_takeFrames table limit source
    refine ⟨found, bytes, left, reads, whole, fun pair => ?_, carried, writes⟩
    have stopped := takeFrames_stops (plain table limit) source pair
    rw [reads] at stopped
    exact stopped

/-- Two opcodes, one for two bytes and one for any short payload. -/
def twoOpcodes : Table :=
  .of "two" [⟨1, .fixed 2, .handshake⟩, ⟨2, .declared .byte, .handshake⟩] []

/-- A frame of an opcode that is not bound and one of the wrong length are left out. -/
theorem plain_round_trip_twoOpcodes :
    (∀ frame ∈ [⟨1, [5, 6]⟩, ⟨3, [7]⟩, ⟨1, [8]⟩, (⟨2, [9]⟩ : Frame)], frame.payload.length ≤ 2) ∧
    ∃ bytes found,
      writeAll (plain twoOpcodes 2, [])
          ([⟨1, [5, 6]⟩, ⟨3, [7]⟩, ⟨1, [8]⟩, ⟨2, [9]⟩].map .ofFrame) =
        (plain twoOpcodes 2, bytes) ∧
      (plain twoOpcodes 2).takeFrames bytes = (found, plain twoOpcodes 2, []) ∧
      found.map Prod.snd = [⟨1, [5, 6]⟩, ⟨2, [9]⟩] := by
  refine ⟨by decide, ?_⟩
  obtain ⟨bytes, found, writes, reads, same, _⟩ :=
    (plain_round_trip twoOpcodes 2).2.1 [⟨1, [5, 6]⟩, ⟨3, [7]⟩, ⟨1, [8]⟩, ⟨2, [9]⟩] (by decide)
  exact ⟨bytes, found, writes [], reads, same.trans (by decide)⟩

end Framer

end GameServer
