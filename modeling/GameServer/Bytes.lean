/- This file defines byte strings and the words that are written on them. -/

namespace GameServer

/-- The bytes of a connection stand in the order in which they travel. -/
abbrev Bytes := List UInt8

namespace Bytes

/-- A 16-bit word is written with its high byte first. -/
def ofUInt16 (word : UInt16) : Bytes :=
  [(word >>> 8).toUInt8, word.toUInt8]

/-- A 32-bit word is written with its highest byte first. -/
def ofUInt32 (word : UInt32) : Bytes :=
  [(word >>> 24).toUInt8, (word >>> 16).toUInt8, (word >>> 8).toUInt8, word.toUInt8]

/-- A 64-bit word is written as its high half and its low half. -/
def ofUInt64 (word : UInt64) : Bytes :=
  ofUInt32 (word >>> 32).toUInt32 ++ ofUInt32 word.toUInt32

/-- The 16-bit word of a high and a low byte. -/
def toUInt16 (high low : UInt8) : UInt16 :=
  high.toUInt16 <<< 8 ||| low.toUInt16

/-- The 32-bit word of four bytes, highest first. -/
def toUInt32 (first second third fourth : UInt8) : UInt32 :=
  first.toUInt32 <<< 24 ||| second.toUInt32 <<< 16 ||| third.toUInt32 <<< 8 ||| fourth.toUInt32

/-- The 64-bit word of a high and a low half. -/
def toUInt64 (high low : UInt32) : UInt64 :=
  high.toUInt64 <<< 32 ||| low.toUInt64

/-- A text is written in UTF-8. -/
def ofText (text : String) : Bytes :=
  text.toUTF8.data.toList

/-- Bytes are read as text only if they are well-formed UTF-8. -/
def toText? (bytes : Bytes) : Option String :=
  String.fromUTF8? bytes.toByteArray

/-- This function cuts off the first bytes, if there are as many as it is asked for. -/
def split? (count : Nat) (bytes : Bytes) : Option (Bytes × Bytes) :=
  let front := bytes.take count
  if front.length < count then none else some (front, bytes.drop count)

/-- The pieces of this size stand in front of earlier ones, the last one first. -/
def piecesAfter (size : Nat) (earlier : List Bytes) (bytes : Bytes) : List Bytes :=
  if size = 0 ∨ bytes = [] then earlier
  else piecesAfter size (bytes.take size :: earlier) (bytes.drop size)
termination_by bytes.length
decreasing_by
  have going := ‹¬(size = 0 ∨ bytes = [])›
  have full := List.length_pos_iff.mpr fun empty => going (Or.inr empty)
  rw [List.length_drop]
  omega

/-- A byte string is cut into pieces of this size. Only the last one may be shorter. -/
def pieces (size : Nat) (bytes : Bytes) : List Bytes := (piecesAfter size [] bytes).reverse

theorem flatten_piecesAfter (size : Nat) (earlier : List Bytes) (bytes : Bytes)
    (positive : 0 < size) :
    (piecesAfter size earlier bytes).reverse.flatten = earlier.reverse.flatten ++ bytes := by
  fun_induction piecesAfter size earlier bytes with
  | case1 earlier bytes done =>
      have empty : bytes = [] := by
        rcases done with zero | empty
        · omega
        · exact empty
      rw [empty, List.append_nil]
  | case2 earlier bytes full ih => simp [ih]

theorem flatten_pieces (size : Nat) (bytes : Bytes) (positive : 0 < size) :
    (pieces size bytes).flatten = bytes :=
  flatten_piecesAfter size [] bytes positive

theorem toUInt16_halves (word : UInt16) :
    toUInt16 (word >>> 8).toUInt8 word.toUInt8 = word := by
  apply UInt16.toNat_inj.mp
  have bound := word.toNat_lt
  simp only [toUInt16, UInt16.toNat_or, UInt16.toNat_shiftLeft, UInt8.toNat_toUInt16,
    UInt16.toNat_toUInt8, UInt16.toNat_shiftRight]
  simp only [UInt16.reduceToNat, Nat.reduceMod, Nat.shiftRight_eq_div_pow, Nat.shiftLeft_eq]
  have low : word.toNat % 2 ^ 8 < 2 ^ 8 := Nat.mod_lt _ (by decide)
  rw [show word.toNat / 2 ^ 8 % 2 ^ 8 * 2 ^ 8 % 2 ^ 16 = 2 ^ 8 * (word.toNat / 2 ^ 8) by omega,
    ← Nat.two_pow_add_eq_or_of_lt low]
  omega

theorem halves_toUInt16 (high low : UInt8) :
    ofUInt16 (toUInt16 high low) = [high, low] := by
  have upper := high.toNat_lt
  have lower := low.toNat_lt
  have word : (toUInt16 high low).toNat = high.toNat * 256 + low.toNat := by
    simp only [toUInt16, UInt16.toNat_or, UInt16.toNat_shiftLeft, UInt8.toNat_toUInt16,
      UInt16.reduceToNat, Nat.reduceMod, Nat.shiftLeft_eq]
    rw [show high.toNat * 2 ^ 8 % 2 ^ 16 = 2 ^ 8 * high.toNat by omega,
      ← Nat.two_pow_add_eq_or_of_lt lower]
    omega
  have front : (toUInt16 high low >>> 8).toUInt8 = high := by
    apply UInt8.toNat_inj.mp
    simp only [UInt16.toNat_toUInt8, UInt16.toNat_shiftRight, word, UInt16.reduceToNat,
      Nat.reduceMod, Nat.shiftRight_eq_div_pow]
    omega
  have back : (toUInt16 high low).toUInt8 = low := by
    apply UInt8.toNat_inj.mp
    rw [UInt16.toNat_toUInt8, word]
    omega
  rw [ofUInt16, front, back]

theorem split?_eq_none_iff (count : Nat) (bytes : Bytes) :
    bytes.split? count = none ↔ bytes.length < count := by
  simp only [split?, List.length_take]
  split <;> simp <;> omega

theorem split?_of_le (count : Nat) (bytes : Bytes) (enough : count ≤ bytes.length) :
    bytes.split? count = some (bytes.take count, bytes.drop count) := by
  simp only [split?, List.length_take]
  rw [if_neg (by omega)]

end Bytes

end GameServer
