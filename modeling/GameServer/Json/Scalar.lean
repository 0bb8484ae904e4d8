import GameServer.Json.Scanner

/- This file scans texts, numbers and literals. -/

namespace GameServer.Json

open Scanner

/-- Four characters may stand between the parts of a value. -/
def isSpace (character : Char) : Bool :=
  character == ' ' || character == '\n' || character == '\t' || character == '\r'

/-- White space is passed over. -/
def skipSpace : Scanner Unit := do
  let _ ← takeWhile isSpace

/-- The characters of a word must follow one by one. -/
def word : List Char → Scanner Unit
  | [] => pure ()
  | character :: rest => do
      match ← next with
      | none => fail .ended
      | some found => if found = character then word rest else fail .illFormed

/-- The value of a hexadecimal digit. -/
def hexDigit? (character : Char) : Option Nat :=
  if character.isDigit then some (character.toNat - 48)
  else if 'a' ≤ character ∧ character ≤ 'f' then some (character.toNat - 87)
  else if 'A' ≤ character ∧ character ≤ 'F' then some (character.toNat - 55)
  else none

/-- The number of bytes of a text. -/
def byteCount (text : List Char) : Nat :=
  text.foldl (fun total character => total + character.utf8Size) 0

/-- Four bytes must be left, and they must be hexadecimal digits. -/
def hexUnit : Scanner Nat where
  run text :=
    match (text.take 4).mapM hexDigit? with
    | some [first, second, third, fourth] =>
        .ok (((first * 16 + second) * 16 + third) * 16 + fourth, text.drop 4)
    | _ => .error (if byteCount (text.take 4) < 4 then .ended else .illFormed)
  shrinks text found rest same := by
    split at same
    · cases same
      simp
    · cases same

/-- Some characters are written as one letter behind a backslash. -/
def shortEscape? : Char → Option Char
  | '"' => some '"'
  | '\\' => some '\\'
  | '/' => some '/'
  | 'b' => some '\x08'
  | 'f' => some '\x0c'
  | 'n' => some '\n'
  | 'r' => some '\r'
  | 't' => some '\t'
  | _ => none

/-- The characters of a text so far, the last one first, and the first half of a code point. -/
structure PartialText where
  built : List Char
  half : Option Nat

/-- A code point beyond sixteen bits is written as two halves, and no half stands alone. -/
def PartialText.addUnit (pending : PartialText) (unit : Nat) : Scanner PartialText :=
  let isFirst := 0xd800 ≤ unit && unit < 0xdc00
  let isSecond := 0xdc00 ≤ unit && unit < 0xe000
  match pending.half with
  | none =>
      if isFirst then pure ⟨pending.built, some unit⟩
      else if isSecond then fail .illFormed
      else pure ⟨Char.ofNat unit :: pending.built, none⟩
  | some half =>
      if isSecond then
        let point := 0x10000 + (half - 0xd800) * 0x400 + (unit - 0xdc00)
        pure ⟨Char.ofNat point :: pending.built, none⟩
      else fail .illFormed

/-- One round takes a character, an escape or the closing quote. -/
def textRound (pending : PartialText) (character : Char) : Scanner (PartialText ⊕ String) := do
  if character = '\\' then
    match ← next with
    | none => fail .ended
    | some 'u' => return .inl (← pending.addUnit (← hexUnit))
    | some letter =>
        match pending.half, shortEscape? letter with
        | none, some plain => return .inl ⟨plain :: pending.built, none⟩
        | _, _ => fail .illFormed
  else if pending.half.isSome || character.toNat < 0x20 then
    fail .illFormed
  else if character = '"' then
    return .inr (String.ofList pending.built.reverse)
  else
    return .inl ⟨character :: pending.built, none⟩

/-- The text behind its opening quote. -/
def quoted : Scanner String := loop textRound ⟨[], none⟩

/-- One round passes over a character, an escape or the closing quote. -/
def skipRound (_ : Unit) (character : Char) : Scanner (Unit ⊕ Unit) := do
  if character = '"' then
    return .inr ()
  else if character.toNat < 0x20 then
    fail .illFormed
  else if character = '\\' then
    match ← next with
    | none => fail .ended
    | some 'u' =>
        let _ ← hexUnit
        return .inl ()
    | some letter => if (shortEscape? letter).isSome then return .inl () else fail .illFormed
  else
    return .inl ()

/-- A text behind its opening quote is passed over. -/
def skipQuoted : Scanner Unit := loop skipRound ()

/-- A number is a natural number of 64 bits, or something else. -/
inductive Number where
  | whole (value : Nat)
  | other
deriving DecidableEq

/-- Further digits of a number that has reached 64 bits are dropped. -/
structure Significand where
  value : Nat
  exponent : Int
  full : Bool

/-- The least number that does not fit in 64 bits. -/
def wordBound : Nat := 18446744073709551616

/-- A digit in front of the point counts towards the exponent once it is dropped. -/
def Significand.addWhole (part : Significand) (digit : Char) : Significand :=
  let value := part.value * 10 + (digit.toNat - 48)
  if part.full then { part with exponent := part.exponent + 1 }
  else if wordBound ≤ value then { part with exponent := part.exponent + 1, full := true }
  else { part with value }

/-- A digit behind the point lowers the exponent unless it is dropped. -/
def Significand.addFraction (part : Significand) (digit : Char) : Significand :=
  let value := part.value * 10 + (digit.toNat - 48)
  if part.full then part
  else if wordBound ≤ value then { part with full := true }
  else { part with value, exponent := part.exponent - 1 }

/-- The nearest number of 53 bits, with a half going to the even neighbour. -/
def nearest (value : Nat) : Nat :=
  if value < 1 <<< 53 then value
  else
    let unit := 1 <<< (value.log2 - 52)
    let quotient := value / unit
    let twice := 2 * (value % unit)
    let up := unit < twice || twice == unit && quotient % 2 == 1
    (if up then quotient + 1 else quotient) * unit

/-- A number with a fraction or an exponent must be finite in 64 bits. -/
def Significand.isFinite (part : Significand) : Bool :=
  match part.exponent with
  | .negSucc _ => true
  | .ofNat exponent =>
      part.value == 0 ||
        exponent ≤ 308 && nearest (nearest part.value * nearest (Nat.pow 10 exponent)) < 1 <<< 1024

/-- At least one digit must stand here. -/
def digits : Scanner (List Char) := do
  let found ← takeWhile Char.isDigit
  if found.isEmpty then
    match ← peek with
    | none => fail .ended
    | some _ => fail .illFormed
  else
    return found

/-- A number has no needless zero in front. -/
def wholeDigits : Scanner (List Char) := do
  let found ← digits
  if found.head? = some '0' ∧ 1 < found.length then fail .illFormed else return found

/-- An exponent of more than 31 bits counts as this one. -/
def exponentBound : Nat := 2147483648

/-- The value of the digits of an exponent, up to the bound. -/
def magnitude (digits : List Char) : Nat :=
  digits.foldl (fun total digit => Nat.min exponentBound (total * 10 + (digit.toNat - 48))) 0

/-- The exponent may have a sign. -/
def exponent : Scanner Int := do
  match ← peek with
  | some '-' =>
      let _ ← next
      return -(Int.ofNat (magnitude (← digits)))
  | some '+' =>
      let _ ← next
      return Int.ofNat (magnitude (← digits))
  | _ => return Int.ofNat (magnitude (← digits))

/-- A number that is not whole must be finite. -/
def finite (part : Significand) : Scanner Number :=
  if part.isFinite then pure .other else fail .illFormed

/-- What may follow the whole digits and the fraction. -/
def scaled (part : Significand) : Scanner Number := do
  match ← peek with
  | some 'e' | some 'E' =>
      let _ ← next
      finite { part with exponent := part.exponent + (← exponent) }
  | _ => finite part

/-- The number behind its sign. -/
def number (negative : Bool) : Scanner Number := do
  let part := (← wholeDigits).foldl Significand.addWhole ⟨0, 0, false⟩
  match ← peek with
  | some '.' =>
      let _ ← next
      scaled ((← digits).foldl Significand.addFraction { part with full := false })
  | some 'e' | some 'E' => scaled part
  | _ =>
      if part.full then finite part
      else if negative then return .other
      else return .whole part.value

/-- A number that is passed over may also be infinite, and its missing digits are no early end. -/
def skipDigits (front : List Char) : Scanner (List Char) := do
  let found := front ++ (← takeWhile Char.isDigit)
  if found.isEmpty then fail .illFormed else return found

/-- The exponent of a number that is passed over. -/
def skipExponent : Scanner Unit := do
  match ← peek with
  | some 'e' | some 'E' =>
      let _ ← next
      match ← peek with
      | some '+' | some '-' =>
          let _ ← next
      | _ => pure ()
      let _ ← skipDigits []
  | _ => pure ()

/-- The number behind its sign and the digits in front is passed over. -/
def skipNumber (front : List Char) : Scanner Unit := do
  let whole ← skipDigits front
  if whole.head? = some '0' ∧ 1 < whole.length then fail .illFormed
  match ← peek with
  | some '.' =>
      let _ ← next
      let _ ← skipDigits []
      skipExponent
  | _ => skipExponent

/-- A value of another shape is read if it is a scalar, and then does not fit. -/
def misfit {α : Type} : Scanner α := do
  match ← peek with
  | none => fail .ended
  | some '[' | some '\x7b' => fail .unfit
  | some first =>
      match first with
      | 'n' =>
          word ['n', 'u', 'l', 'l']
          fail .unfit
      | 't' =>
          word ['t', 'r', 'u', 'e']
          fail .unfit
      | 'f' =>
          word ['f', 'a', 'l', 's', 'e']
          fail .unfit
      | '"' =>
          let _ ← next
          let _ ← quoted
          fail .unfit
      | '-' =>
          let _ ← next
          let _ ← number true
          fail .unfit
      | _ =>
          if first.isDigit then
            let _ ← number false
            fail .unfit
          else fail .illFormed

/-- A text is wanted. -/
def textValue : Scanner String := do
  skipSpace
  match ← peek with
  | some '"' =>
      let _ ← next
      quoted
  | _ => misfit

/-- A truth value is wanted. -/
def truthValue : Scanner Bool := do
  skipSpace
  match ← peek with
  | some 't' =>
      word ['t', 'r', 'u', 'e']
      return true
  | some 'f' =>
      word ['f', 'a', 'l', 's', 'e']
      return false
  | _ => misfit

/-- A natural number below the bound is wanted. -/
def wholeValue (bound : Nat) : Scanner Nat := do
  skipSpace
  match ← peek with
  | some first =>
      if first.isDigit then
        match ← number false with
        | .whole value => if value < bound then return value else fail .unfit
        | .other => fail .unfit
      else misfit
  | none => fail .ended

end GameServer.Json
