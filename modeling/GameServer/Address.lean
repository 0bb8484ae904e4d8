/- An address is a host of either version and a port. -/

namespace GameServer

/-- A host is named by four bytes, or by eight groups in a scope. -/
inductive Host where
  | v4 (first second third fourth : UInt8)
  | v6 (groups : Vector UInt16 8) (scope : UInt32)
deriving DecidableEq

/-- A peer is reached at a port of its host. -/
structure Address where
  host : Host
  port : UInt16
deriving DecidableEq

namespace Address

/-- A number as it may stand in an address. -/
structure NumberForm where
  base : Nat
  /-- No number has more digits, if there is a limit. -/
  most : Option Nat
  /-- Further digits may follow a leading zero. -/
  leadingZero : Bool
  /-- Every number is below the bound. -/
  bound : Nat

/-- An octet is decimal and has no needless zero. -/
def octetForm : NumberForm := ⟨10, some 3, false, 256⟩

/-- A group has up to four hexadecimal digits. -/
def groupForm : NumberForm := ⟨16, some 4, true, 65536⟩

/-- A port is decimal. -/
def portForm : NumberForm := ⟨10, none, true, 65536⟩

/-- A scope is decimal. -/
def scopeForm : NumberForm := ⟨10, none, true, 4294967296⟩

/-- The value of a digit in a base up to sixteen. -/
def digit? (base : Nat) (character : Char) : Option Nat :=
  let value :=
    if character.isDigit then some (character.toNat - 48)
    else if 'a' ≤ character ∧ character ≤ 'f' then some (character.toNat - 87)
    else if 'A' ≤ character ∧ character ≤ 'F' then some (character.toNat - 55)
    else none
  value.filter (· < base)

/-- All digits in front are read as one number of the form. -/
def number? (form : NumberForm) (text : List Char) : Option (Nat × List Char) :=
  let digits := text.takeWhile fun character => (digit? form.base character).isSome
  let value := digits.foldl (fun total character =>
    total * form.base + (digit? form.base character).getD 0) 0
  if digits.isEmpty || form.most.any (· < digits.length) ||
      (!form.leadingZero && digits.head? == some '0' && 1 < digits.length) ||
      form.bound ≤ value then
    none
  else
    some (value, text.drop digits.length)

/-- The text behind a mark that must stand in front. -/
def mark? (mark : Char) : List Char → Option (List Char)
  | [] => none
  | character :: rest => if character = mark then some rest else none

/-- Four octets are divided by dots. -/
def octets? (text : List Char) : Option ((UInt8 × UInt8 × UInt8 × UInt8) × List Char) := do
  let (first, text) ← number? octetForm text
  let (second, text) ← number? octetForm (← mark? '.' text)
  let (third, text) ← number? octetForm (← mark? '.' text)
  let (fourth, text) ← number? octetForm (← mark? '.' text)
  return ((first.toUInt8, second.toUInt8, third.toUInt8, fourth.toUInt8), text)

/-- Two groups hold four octets. -/
def groupOf (high low : UInt8) : UInt16 := high.toUInt16 <<< 8 ||| low.toUInt16

/-- Up to a limit of groups are divided by colons, and four octets may stand for the last two.
The flag tells whether octets were read. -/
def groups (text : List Char) (first : Bool) : Nat → List UInt16 × Bool × List Char
  | 0 => ([], false, text)
  | limit + 1 =>
      match if first then some text else mark? ':' text with
      | none => ([], false, text)
      | some inner =>
          match if 0 < limit then octets? inner else none with
          | some ((a, b, c, d), rest) => ([groupOf a b, groupOf c d], true, rest)
          | none =>
              match number? groupForm inner with
              | none => ([], false, text)
              | some (value, rest) =>
                  let (later, dotted, final) := groups rest false limit
                  (value.toUInt16 :: later, dotted, final)

/-- Two colons stand for the groups that are missing, which are zero. -/
def eightGroups? (text : List Char) : Option (Vector UInt16 8 × List Char) := do
  let (head, dotted, rest) := groups text true 8
  if head.length = 8 then
    return (Vector.ofFn fun place => head.getD place 0, rest)
  else if dotted then
    none
  else
    let rest ← mark? ':' rest
    let rest ← mark? ':' rest
    let (tail, _, rest) := groups rest true (7 - head.length)
    let filled := head ++ List.replicate (8 - head.length - tail.length) 0 ++ tail
    return (Vector.ofFn fun place => filled.getD place 0, rest)

/-- A port follows a colon and ends the text. -/
def port? (text : List Char) : Option UInt16 := do
  let (port, rest) ← number? portForm (← mark? ':' text)
  if rest.isEmpty then return port.toUInt16 else none

/-- Groups stand in brackets together with their scope. -/
def bracketed? (text : List Char) : Option Address := do
  let (groups, rest) ← eightGroups? (← mark? '[' text)
  let (scope, rest) ←
    match mark? '%' rest with
    | some behind => number? scopeForm behind
    | none => some (0, rest)
  return ⟨.v6 groups scope.toUInt32, ← port? (← mark? ']' rest)⟩

/-- Octets stand bare. -/
def dotted? (text : List Char) : Option Address := do
  let ((first, second, third, fourth), rest) ← octets? text
  return ⟨.v4 first second third fourth, ← port? rest⟩

/-- The address that a text names, if it names one without looking it up. -/
def ofText? (text : String) : Option Address :=
  dotted? text.toList <|> bracketed? text.toList

/-- The length of the run of zeros that begins at each place. -/
def zeroRuns : List UInt16 → List Nat
  | [] => []
  | group :: rest => (if group = 0 then (zeroRuns rest).headD 0 + 1 else 0) :: zeroRuns rest

/-- Groups are divided by colons and written without leading zeros. -/
def groupsText (groups : List UInt16) : String :=
  ":".intercalate (groups.map fun group => String.ofList (Nat.toDigits 16 group.toNat))

/-- Octets are divided by dots. -/
def octetsText (octets : List UInt8) : String :=
  ".".intercalate (octets.map fun octet => toString octet.toNat)

/-- The first longest run of two or more zero groups is written as two colons. -/
def shortened (groups : List UInt16) : String :=
  let runs := zeroRuns groups
  let longest := runs.foldl max 0
  let place := runs.findIdx (· == longest)
  if longest ≤ 1 then groupsText groups
  else groupsText (groups.take place) ++ "::" ++ groupsText (groups.drop (place + longest))

/-- A version 4 host in version 6 groups keeps its dots. -/
def hostText : Host → String
  | .v4 first second third fourth => octetsText [first, second, third, fourth]
  | .v6 groups scope =>
      let suffix := if scope = 0 then "" else "%" ++ toString scope.toNat
      match groups.toList with
      | [0, 0, 0, 0, 0, 0xffff, high, low] =>
          "[::ffff:" ++ octetsText [(high >>> 8).toUInt8, high.toUInt8, (low >>> 8).toUInt8,
            low.toUInt8] ++ suffix ++ "]"
      | list => "[" ++ shortened list ++ suffix ++ "]"

/-- The text of an address. -/
def text (address : Address) : String :=
  hostText address.host ++ ":" ++ toString address.port.toNat

end Address

end GameServer
