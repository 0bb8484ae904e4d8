import GameServer.Payload.Codec

/- This file says how long a payload is and how its length is written. -/

namespace GameServer

/-- A length field stands in front of a payload of variable length. -/
inductive LengthField where
  /-- The field is one byte. -/
  | byte
  /-- The field is two bytes, high byte first. -/
  | short
deriving DecidableEq

namespace LengthField

/-- The number of bytes of the field. -/
def size : LengthField → Nat
  | .byte => 1
  | .short => 2

/-- The longest payload that the field can describe. -/
def capacity : LengthField → Nat
  | .byte => 255
  | .short => 65535

/-- The field is read only once all of its bytes are there. -/
def read? : LengthField → Bytes → Option (Nat × Bytes)
  | .byte, value :: rest => some (value.toNat, rest)
  | .short, high :: low :: rest => some ((Bytes.toUInt16 high low).toNat, rest)
  | _, _ => none

/-- A length within the capacity is written in full. -/
def write (field : LengthField) (length : Nat) : Bytes :=
  match field with
  | .byte => [UInt8.ofNat length]
  | .short => Bytes.ofUInt16 (UInt16.ofNat length)

theorem length_write (field : LengthField) (length : Nat) :
    (field.write length).length = field.size := by
  cases field <;> rfl

theorem read?_write (field : LengthField) (length : Nat) (rest : Bytes)
    (short : length ≤ field.capacity) :
    field.read? (field.write length ++ rest) = some (length, rest) := by
  cases field with
  | byte =>
      have bound : length < 256 := Nat.lt_succ_of_le short
      simp [write, read?, Nat.mod_eq_of_lt bound]
  | short =>
      have bound : length < 65536 := Nat.lt_succ_of_le short
      simp only [write, Bytes.ofUInt16, List.cons_append, List.nil_append, read?,
        Bytes.toUInt16_halves, UInt16.toNat_ofNat', Nat.mod_eq_of_lt bound]

theorem read?_eq_none_iff (field : LengthField) (bytes : Bytes) :
    field.read? bytes = none ↔ bytes.length < field.size := by
  unfold read? size
  match field, bytes with
  | .byte, [] => simp
  | .byte, _ :: _ => simp
  | .short, [] => simp
  | .short, [_] => simp
  | .short, _ :: _ :: _ => simp

theorem rest_of_read? (field : LengthField) (bytes rest : Bytes) (length : Nat)
    (read : field.read? bytes = some (length, rest)) : rest = bytes.drop field.size := by
  unfold read? at read
  split at read
  · cases read
    rfl
  · cases read
    rfl
  · cases read

theorem length_of_read? (field : LengthField) (bytes rest : Bytes) (length : Nat)
    (read : field.read? bytes = some (length, rest)) :
    bytes.length = field.size + rest.length := by
  unfold read? at read
  match field, bytes with
  | .byte, [] => simp at read
  | .byte, _ :: _ =>
      simp only [Option.some.injEq, Prod.mk.injEq] at read
      simp [size, ← read.2, Nat.add_comm]
  | .short, [] => simp at read
  | .short, [_] => simp at read
  | .short, _ :: _ :: _ =>
      simp only [Option.some.injEq, Prod.mk.injEq] at read
      simp only [List.length_cons, size, ← read.2]
      omega

end LengthField

/-- An opcode decides how the length of its payload is known. -/
inductive LengthRule where
  /-- Every payload has this length. -/
  | fixed (length : Nat)
  /-- The length stands in front of the payload. -/
  | declared (field : LengthField)
deriving DecidableEq

/-- A payload is framed only if its length obeys the rule. -/
def LengthRule.check (rule : LengthRule) (opcode : UInt8) (length : Nat) :
    Except ProtocolError Unit :=
  match rule with
  | .fixed expected =>
      if expected = length then .ok () else .error (.lengthMismatch opcode expected length)
  | .declared field =>
      if field.capacity < length then .error (.payloadTooLong opcode length field.capacity)
      else .ok ()

/-- The bytes between an opcode and its payload. -/
def LengthRule.header (rule : LengthRule) (length : Nat) : Bytes :=
  match rule with
  | .fixed _ => []
  | .declared field => field.write length

/-- A message is written bare or as a frame. -/
inductive Framing where
  /-- The client knows the size of the message. -/
  | headless
  | framed (opcode : UInt8) (rule : LengthRule)
deriving DecidableEq

/-- The opcode of a framed message. -/
def Framing.opcode? : Framing → Option UInt8
  | .headless => none
  | .framed opcode _ => some opcode

end GameServer
