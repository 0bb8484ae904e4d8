import GameServer.Proofs.Framer.Streams
import Mathlib.Algebra.Ring.Nat

/- This file shows that the table alone decides what can be written. -/

namespace GameServer

/-- The payload lengths that a rule admits. -/
def LengthRule.Admits : LengthRule → Nat → Prop
  | .fixed length, size => size = length
  | .declared .byte, size => size ≤ 255
  | .declared .short, size => size ≤ 65535

instance (rule : LengthRule) (size : Nat) : Decidable (rule.Admits size) :=
  match rule with
  | .fixed length => inferInstanceAs (Decidable (size = length))
  | .declared .byte => inferInstanceAs (Decidable (size ≤ 255))
  | .declared .short => inferInstanceAs (Decidable (size ≤ 65535))

theorem LengthRule.check_of_admits {rule : LengthRule} {size : Nat} (admits : rule.Admits size)
    (opcode : UInt8) : rule.check opcode size = .ok () := by
  match rule with
  | .fixed length => exact if_pos (Eq.symm admits)
  | .declared .byte => exact if_neg (Nat.not_lt.mpr admits)
  | .declared .short => exact if_neg (Nat.not_lt.mpr admits)

theorem LengthRule.check_of_not_admits {rule : LengthRule} {size : Nat}
    (refuses : ¬ rule.Admits size) (opcode : UInt8) :
    ∃ error, rule.check opcode size = .error error := by
  match rule with
  | .fixed length => exact ⟨_, if_neg fun same => refuses same.symm⟩
  | .declared .byte => exact ⟨_, if_pos (Nat.lt_of_not_le refuses)⟩
  | .declared .short => exact ⟨_, if_pos (Nat.lt_of_not_le refuses)⟩

theorem LengthRule.admits_of_check {rule : LengthRule} {opcode : UInt8} {size : Nat}
    (obeyed : rule.check opcode size = .ok ()) : rule.Admits size := by
  refine Decidable.byContradiction fun refuses => ?_
  obtain ⟨error, refused⟩ := rule.check_of_not_admits refuses opcode
  rw [refused] at obeyed
  cases obeyed

namespace Framer

/-- Somebody tries to write a frame or a message. -/
inductive Attempt where
  | ofFrame (frame : Frame)
  | ofMessage (message : Message)

/-- What an attempt is to be written as. -/
structure Draft where
  framing : Framing
  payload : Bytes

/-- The framing admits the length of the payload. -/
def Draft.Fits (draft : Draft) : Prop :=
  match draft.framing with
  | .headless => True
  | .framed _ rule => rule.Admits draft.payload.length

instance (draft : Draft) : Decidable draft.Fits :=
  match draft with
  | ⟨.headless, _⟩ => inferInstanceAs (Decidable True)
  | ⟨.framed _ rule, payload⟩ => inferInstanceAs (Decidable (rule.Admits payload.length))

/-- The number of opcodes that are written with a draft. -/
def Draft.opcodes (draft : Draft) : Nat := if draft.framing = .headless then 0 else 1

/-- A frame keeps its own opcode, under the rule for reading it. A message is framed as its kind is
bound to be, if its codec can write it. -/
def Attempt.draft? (table : Table) : Attempt → Option Draft
  | .ofFrame frame =>
      (table.find? frame.opcode).map fun binding =>
        ⟨.framed frame.opcode binding.rule, frame.payload⟩
  | .ofMessage message =>
      match table.findKind? message.kind with
      | none => none
      | some binding =>
          match (binding.codec.encode message).run [] with
          | .ok _ payload => some ⟨binding.framing, payload⟩
          | .error _ _ => none

/-- The table has a draft for the attempt, and the draft fits. -/
def Attempt.Accepted (table : Table) (attempt : Attempt) : Prop :=
  ∃ draft ∈ attempt.draft? table, draft.Fits

instance (table : Table) : DecidablePred (Attempt.Accepted table) := fun attempt =>
  inferInstanceAs (Decidable (∃ draft ∈ attempt.draft? table, draft.Fits))

/-- The number of opcodes that an attempt writes if it is accepted. -/
def Attempt.opcodes (table : Table) (attempt : Attempt) : Nat :=
  (attempt.draft? table).elim 0 Draft.opcodes

/-- One attempt. -/
def Attempt.write : Attempt → Output Unit
  | .ofFrame frame => encodeFrame frame
  | .ofMessage message => encode message

/-- What an attempt leaves, accepted or not. -/
def Attempt.leave (state : Framer × Bytes) (attempt : Attempt) : Framer × Bytes :=
  match attempt.write state with
  | .ok () after => after
  | .error _ after => after

/-- Attempts are made one after another. -/
def writeAll (state : Framer × Bytes) (attempts : List Attempt) : Framer × Bytes :=
  attempts.foldl Attempt.leave state

/-- The framer when it has written so many opcodes more. -/
def onward (framer : Framer) (opcodes : Nat) : Framer :=
  { framer with cipher := framer.cipher.map (·.skipOutgoing opcodes) }

theorem onward_zero (framer : Framer) : framer.onward 0 = framer := by
  obtain ⟨table, cipher, progress, limit⟩ := framer
  cases cipher <;> rfl

theorem onward_onward (framer : Framer) (first second : Nat) :
    (framer.onward first).onward second = framer.onward (first + second) := by
  obtain ⟨table, cipher, progress, limit⟩ := framer
  cases cipher with
  | none => rfl
  | some pair => simp only [onward, Option.map_some, KeystreamPair.skipOutgoing_add]

theorem hide_onward (framer : Framer) (opcode : UInt8) :
    (framer.hide opcode).2 = framer.onward 1 := by
  obtain ⟨table, cipher, progress, limit⟩ := framer
  cases cipher <;> rfl

/-- A frame is written if its payload fits, and else nothing happens. -/
theorem putFrame_cases (framer : Framer) (opcode : UInt8) (rule : LengthRule) (payload : Bytes) :
    (rule.Admits payload.length ∧ ∀ written,
        putFrame opcode rule payload (framer, written) =
          .ok () (framer.onward 1, written ++
            ((framer.hide opcode).1 :: rule.header payload.length ++ payload))) ∨
      (¬ rule.Admits payload.length ∧ ∃ error, ∀ written,
        putFrame opcode rule payload (framer, written) = .error error (framer, written)) := by
  by_cases admits : rule.Admits payload.length
  · refine .inl ⟨admits, fun written => ?_⟩
    rw [putFrame, rule.check_of_admits admits opcode, ← hide_onward framer opcode]
    simp only [List.append_assoc, List.cons_append]
  · obtain ⟨error, refused⟩ := rule.check_of_not_admits admits opcode
    refine .inr ⟨admits, error, fun written => ?_⟩
    rw [putFrame, refused]

/-- What an attempt comes to: its draft is written, or nothing happens. -/
inductive Attempt.Tries (framer : Framer) (attempt : Attempt) : Prop where
  | accepted (draft : Draft) (bytes : Bytes) (drafted : draft ∈ attempt.draft? framer.table)
      (fits : draft.Fits)
      (writes : ∀ written, attempt.write (framer, written) =
        .ok () (framer.onward draft.opcodes, written ++ bytes))
  | refused (error : ProtocolError) (unfit : ¬ attempt.Accepted framer.table)
      (fails : ∀ written, attempt.write (framer, written) = .error error (framer, written))

theorem tries_framed {framer : Framer} {attempt : Attempt} {opcode : UInt8} {rule : LengthRule}
    {payload : Bytes}
    (drafted : attempt.draft? framer.table = some ⟨.framed opcode rule, payload⟩)
    (puts : ∀ written, attempt.write (framer, written) =
      putFrame opcode rule payload (framer, written)) : attempt.Tries framer := by
  rcases framer.putFrame_cases opcode rule payload with ⟨admits, done⟩ | ⟨refuses, error, failed⟩
  · exact .accepted _ _ drafted admits fun written => (puts written).trans (done written)
  · refine .refused error ?_ fun written => (puts written).trans (failed written)
    rintro ⟨draft, member, fits⟩
    rw [drafted] at member
    cases member
    exact refuses fits

theorem tries_undrafted {framer : Framer} {attempt : Attempt} (error : ProtocolError)
    (none : attempt.draft? framer.table = none)
    (fails : ∀ written, attempt.write (framer, written) = .error error (framer, written)) :
    attempt.Tries framer := by
  refine .refused error ?_ fails
  rintro ⟨draft, member, _⟩
  rw [none] at member
  cases member

theorem tries_frame (framer : Framer) (frame : Frame) : (Attempt.ofFrame frame).Tries framer := by
  cases found : framer.table.find? frame.opcode with
  | none =>
      refine tries_undrafted (.unknownOpcode frame.opcode framer.table.name)
        (by rw [Attempt.draft?, found]; rfl) fun written => ?_
      simp only [Attempt.write, encodeFrame, Bindings.lookup, found]
  | some binding =>
      refine tries_framed (by rw [Attempt.draft?, found]; rfl) fun written => ?_
      simp only [Attempt.write, encodeFrame, Bindings.lookup, found]

theorem tries_message (framer : Framer) (message : Message) :
    (Attempt.ofMessage message).Tries framer := by
  cases found : framer.table.findKind? message.kind with
  | none =>
      refine tries_undrafted (.unboundKind message.kind framer.table.name)
        (by rw [Attempt.draft?, found]) fun written => ?_
      simp only [Attempt.write, encode, Bindings.lookupKind, found]
  | some binding =>
      cases encoded : (binding.codec.encode message).run [] with
      | error error partly =>
          -- What the codec has written of the payload before it failed is dropped.
          refine tries_undrafted error (by simp only [Attempt.draft?, found, encoded])
            fun written => ?_
          simp only [Attempt.write, encode, Bindings.lookupKind, found, encoded]
      | ok value payload =>
          have drafted : (Attempt.ofMessage message).draft? framer.table =
              some ⟨binding.framing, payload⟩ := by
            simp only [Attempt.draft?, found, encoded]
          cases form : binding.framing with
          | headless =>
              rw [form] at drafted
              refine .accepted _ payload drafted trivial fun written => ?_
              rw [Draft.opcodes, if_pos rfl, onward_zero]
              simp only [Attempt.write, encode, Bindings.lookupKind, found, encoded, form]
          | framed opcode rule =>
              rw [form] at drafted
              refine tries_framed drafted fun written => ?_
              simp only [Attempt.write, encode, Bindings.lookupKind, found, encoded, form]

theorem Attempt.tries (framer : Framer) (attempt : Attempt) : attempt.Tries framer := by
  cases attempt with
  | ofFrame frame => exact tries_frame framer frame
  | ofMessage message => exact tries_message framer message

theorem Attempt.opcodes_of_draft {table : Table} {attempt : Attempt} {draft : Draft}
    (drafted : draft ∈ attempt.draft? table) : attempt.opcodes table = draft.opcodes := by
  rw [opcodes, Option.mem_def.mp drafted]
  rfl

/-- Attempts leave what the accepted ones among them leave. -/
theorem writeAll_accepted (framer : Framer) (attempts : List Attempt) :
    let accepted := attempts.filter fun attempt => attempt.Accepted framer.table
    ∃ bytes, ∀ written,
      writeAll (framer, written) attempts =
          (framer.onward (accepted.map (·.opcodes framer.table)).sum, written ++ bytes) ∧
        writeAll (framer, written) accepted = writeAll (framer, written) attempts := by
  dsimp only
  induction attempts generalizing framer with
  | nil => exact ⟨[], fun written => ⟨by simp [writeAll, onward_zero], rfl⟩⟩
  | cons attempt rest ih =>
      cases attempt.tries framer with
      | accepted draft front drafted fits writes =>
          have moved (written : Bytes) (others : List Attempt) :
              writeAll (framer, written) (attempt :: others) =
                writeAll (framer.onward draft.opcodes, written ++ front) others := by
            rw [writeAll, List.foldl_cons, Attempt.leave, writes]
            rfl
          obtain ⟨bytes, later⟩ := ih (framer.onward draft.opcodes)
          refine ⟨front ++ bytes, fun written => ?_⟩
          obtain ⟨whole, same⟩ := later (written ++ front)
          rw [List.filter_cons_of_pos (by simpa using ⟨draft, drafted, fits⟩), moved, moved]
          refine ⟨?_, same⟩
          rw [whole, onward_onward, List.map_cons, List.sum_cons,
            Attempt.opcodes_of_draft drafted, List.append_assoc]
          rfl
      | refused error unfit fails =>
          have still (written : Bytes) :
              writeAll (framer, written) (attempt :: rest) = writeAll (framer, written) rest := by
            rw [writeAll, List.foldl_cons, Attempt.leave, fails]
            rfl
          obtain ⟨bytes, later⟩ := ih framer
          refine ⟨bytes, fun written => ?_⟩
          rw [List.filter_cons_of_neg (by simpa using unfit), still]
          exact later written

/-- A frame or a message that is refused leaves the bytes, both streams and the frame in progress as
they were. One that is accepted is appended to the bytes and moves the outgoing stream by one word if it
has an opcode, and nothing else changes. So refused attempts among others may be left out. -/
theorem write_atomic (framer : Framer) :
    (∀ attempt : Attempt,
      (∃ draft ∈ attempt.draft? framer.table, draft.Fits ∧ ∃ bytes, ∀ written,
          attempt.write (framer, written) =
            .ok () ({ framer with
              cipher := framer.cipher.map
                (·.skipOutgoing (if draft.framing = .headless then 0 else 1)) },
              written ++ bytes)) ∨
        (¬ attempt.Accepted framer.table ∧ ∃ error, ∀ written,
          attempt.write (framer, written) = .error error (framer, written))) ∧
      ∀ attempts written,
        let accepted := attempts.filter fun attempt => attempt.Accepted framer.table
        writeAll (framer, written) attempts = writeAll (framer, written) accepted ∧
          written <+: (writeAll (framer, written) attempts).2 ∧
          (writeAll (framer, written) attempts).1 =
            framer.onward (accepted.map (·.opcodes framer.table)).sum := by
  refine ⟨fun attempt => ?_, fun attempts written => ?_⟩
  · cases attempt.tries framer with
    | accepted draft bytes drafted fits writes =>
        exact .inl ⟨draft, drafted, fits, bytes, writes⟩
    | refused error unfit fails => exact .inr ⟨unfit, error, fails⟩
  · obtain ⟨bytes, later⟩ := framer.writeAll_accepted attempts
    obtain ⟨whole, same⟩ := later written
    refine ⟨same.symm, ?_, ?_⟩
    · rw [whole]
      exact List.prefix_append written bytes
    · rw [whole]

end Framer

end GameServer
