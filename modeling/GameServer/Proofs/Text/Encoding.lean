import GameServer.Proofs.Payload.Fields
import GameServer.Text.Blank
import Mathlib.Algebra.Ring.Nat

/- This file counts the bytes of a text. -/

namespace GameServer

theorem Bytes.ofText_append (first second : String) :
    ofText (first ++ second) = ofText first ++ ofText second := by
  simp [ofText]

theorem Bytes.length_ofLine (text : String) : (ofLine text).length = (ofText text).length + 1 := by
  simp [ofLine]

theorem Bytes.ofText_eq (text : String) :
    ofText text = text.toList.flatMap String.utf8EncodeChar := by
  rw [ofText, String.toUTF8_eq_toByteArray, ← String.utf8Encode_toList, List.utf8Encode,
    List.data_toByteArray]

/-- The bytes of a character outside of ASCII are above those of ASCII. -/
theorem le_of_mem_utf8EncodeChar {character : Char} (wide : 127 < character.val.toNat)
    (byte : UInt8) (member : byte ∈ String.utf8EncodeChar character) : 128 ≤ byte.toNat := by
  have several : ¬ character.val.toNat ≤ 127 := Nat.not_le.mpr wide
  simp only [String.utf8EncodeChar, if_neg several] at member
  split at member
  · simp only [List.mem_cons, List.not_mem_nil, or_false] at member
    rcases member with rfl | rfl <;> simp only [UInt8.toNat_ofNat'] <;> omega
  · split at member
    · simp only [List.mem_cons, List.not_mem_nil, or_false] at member
      rcases member with rfl | rfl | rfl <;> simp only [UInt8.toNat_ofNat'] <;> omega
    · simp only [List.mem_cons, List.not_mem_nil, or_false] at member
      rcases member with rfl | rfl | rfl | rfl <;> simp only [UInt8.toNat_ofNat'] <;> omega

theorem eq_lineFeed_of_mem {character : Char}
    (member : Reader.terminator ∈ String.utf8EncodeChar character) : character = '\n' := by
  by_cases wide : 127 < character.val.toNat
  · exact absurd (le_of_mem_utf8EncodeChar wide _ member) (by decide)
  · have narrow : character.val.toNat ≤ 127 := Nat.not_lt.mp wide
    simp only [String.utf8EncodeChar, if_pos narrow, List.mem_singleton] at member
    have equal := congrArg UInt8.toNat member
    rw [UInt8.toNat_ofNat_of_lt' (Nat.lt_of_le_of_lt narrow (by decide))] at equal
    exact Char.ext (UInt32.toNat_inj.mp equal.symm)

/-- A text without a line feed can be written as a line. -/
theorem Bytes.terminator_notMem_ofText {text : String} (free : '\n' ∉ text.toList) :
    Reader.terminator ∉ ofText text := by
  rw [ofText_eq, List.mem_flatMap]
  rintro ⟨character, member, found⟩
  exact free (eq_lineFeed_of_mem found ▸ member)

namespace Text

/-- The number of bytes that characters take. -/
def size (characters : List Char) : Nat := (characters.map Char.utf8Size).sum

@[simp] theorem size_nil : size [] = 0 := rfl

@[simp] theorem size_cons (character : Char) (rest : List Char) :
    size (character :: rest) = character.utf8Size + size rest := by
  simp [size]

@[simp] theorem size_append (first second : List Char) :
    size (first ++ second) = size first + size second := by
  simp [size]

@[simp] theorem size_reverse (characters : List Char) :
    size characters.reverse = size characters := by
  simp [size, List.sum_reverse]

theorem length_ofText (text : String) : (Bytes.ofText text).length = size text.toList := by
  rw [Bytes.ofText_eq, List.length_flatMap, size]
  simp only [String.length_utf8EncodeChar]

/-- Every word takes one byte less than what it takes of the text with the blank behind it. -/
theorem size_wordsFrom (current characters : List Char) :
    ((wordsFrom current characters).map fun word => size word + 1).sum ≤
      size current + size characters + 1 := by
  induction characters generalizing current with
  | nil => cases current <;> simp [wordsFrom, Nat.add_comm]
  | cons character rest ih =>
      have positive := character.utf8Size_pos
      have fresh := ih []
      have further := ih (character :: current)
      rw [wordsFrom]
      split
      · split <;> simp at fresh ⊢ <;> omega
      · simp at further ⊢
        omega

theorem sum_length_words (text : String) :
    ((words text).map fun word => (Bytes.ofText word).length + 1).sum ≤
      (Bytes.ofText text).length + 1 := by
  have bound := size_wordsFrom [] text.toList
  simp only [words, List.map_map, Function.comp_def, length_ofText, String.toList_ofList]
  simpa using bound

theorem isBlank_of_mem_wordsFrom {current characters word : List Char}
    (solid : ∀ character ∈ current, isBlank character = false)
    (member : word ∈ wordsFrom current characters) :
    ∀ character ∈ word, isBlank character = false := by
  induction characters generalizing current with
  | nil =>
      rw [wordsFrom] at member
      split at member
      · simp at member
      · rw [List.mem_singleton] at member
        simpa [member] using solid
  | cons character rest ih =>
      rw [wordsFrom] at member
      split at member
      · split at member
        · exact ih (List.forall_mem_nil _) member
        · rcases List.mem_cons.mp member with same | later
          · simpa [same] using solid
          · exact ih (List.forall_mem_nil _) later
      · next visible =>
          refine ih (List.forall_mem_cons.mpr ⟨by simpa using visible, solid⟩) member

/-- A word can be written as a line. -/
theorem terminator_notMem_word {text word : String} (member : word ∈ words text) :
    Reader.terminator ∉ Bytes.ofText word := by
  obtain ⟨characters, found, rfl⟩ := List.mem_map.mp member
  apply Bytes.terminator_notMem_ofText
  rw [String.toList_ofList]
  intro broken
  have visible := isBlank_of_mem_wordsFrom (List.forall_mem_nil _) found _ broken
  exact absurd visible (by decide)

theorem terminator_notMem_toString (number : Nat) :
    Reader.terminator ∉ Bytes.ofText (toString number) := by
  apply Bytes.terminator_notMem_ofText
  intro broken
  have digit := Nat.isDigit_of_mem_toDigits (by decide) (by decide)
    (Nat.toList_repr ▸ broken : '\n' ∈ Nat.toDigits 10 number)
  exact absurd digit (by decide)

/-- Joined words take one byte for each blank between them. -/
theorem length_intercalate_le (pieces : List String) :
    (Bytes.ofText (" ".intercalate pieces)).length ≤
      (pieces.map fun piece => (Bytes.ofText piece).length + 1).sum := by
  induction pieces with
  | nil => decide
  | cons piece rest ih =>
      by_cases last : rest = []
      · simp [last]
      · have blank : (Bytes.ofText " ").length = 1 := by decide
        rw [String.intercalate_cons_of_ne_nil last]
        simp only [Bytes.ofText_append, List.length_append, List.map_cons, List.sum_cons, blank]
        omega

theorem terminator_notMem_intercalate {pieces : List String}
    (free : ∀ piece ∈ pieces, Reader.terminator ∉ Bytes.ofText piece) :
    Reader.terminator ∉ Bytes.ofText (" ".intercalate pieces) := by
  induction pieces with
  | nil => decide
  | cons piece rest ih =>
      obtain ⟨first, later⟩ := List.forall_mem_cons.mp free
      by_cases last : rest = []
      · simpa [last] using first
      · have blank : Reader.terminator ∉ Bytes.ofText " " := by decide
        rw [String.intercalate_cons_of_ne_nil last]
        simp [Bytes.ofText_append, first, blank, ih later]

end Text

end GameServer
