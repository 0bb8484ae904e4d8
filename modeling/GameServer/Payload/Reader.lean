import GameServer.Payload.Fault

/- A reader takes a field off the front of a payload, or names the field that is missing. -/

namespace GameServer

/-- A reader takes a value off the front of the bytes or names a fault. -/
abbrev Reader := StateT Bytes (Except PayloadFault)

namespace Reader

/-- A text ends with this byte. -/
def terminator : UInt8 := 10

/-- The next byte. -/
def byte (field : String) : Reader UInt8
  | value :: rest => .ok (value, rest)
  | [] => .error (.truncated field 1 0)

/-- The next 16-bit word, high byte first. -/
def word16 (field : String) : Reader UInt16
  | high :: low :: rest => .ok (Bytes.toUInt16 high low, rest)
  | short => .error (.truncated field 2 short.length)

/-- The next 32-bit word, highest byte first. -/
def word32 (field : String) : Reader UInt32
  | first :: second :: third :: fourth :: rest =>
      .ok (Bytes.toUInt32 first second third fourth, rest)
  | short => .error (.truncated field 4 short.length)

/-- The next 32-bit words, each under the same name. -/
def words32 (field : String) : Nat → Reader (List UInt32)
  | 0 => pure []
  | count + 1 => do
      let word ← word32 field
      let words ← words32 field count
      return word :: words

/-- The text up to the next terminator, which is dropped. -/
def line (field : String) : Reader String := fun bytes =>
  match bytes.dropWhile (· != terminator) with
  | [] => .error (.unterminated field)
  | _ :: rest =>
      match Bytes.toText? (bytes.takeWhile (· != terminator)) with
      | some text => .ok (text, rest)
      | none => .error (.notText field)

/-- All bytes that are left. -/
def rest : Reader Bytes := fun bytes => .ok (bytes, [])

/-- The number of bytes that are left. -/
def left : Reader Nat := fun bytes => .ok (bytes.length, bytes)

/-- A reader that succeeds with bytes left over is not finished. -/
def finish : Reader Unit
  | [] => .ok ((), [])
  | left => .error (.trailing left.length)

/-- A reader may refuse what it has read. -/
def refuse {α : Type} (fault : PayloadFault) : Reader α := fun _ => .error fault

/-- A whole payload is read as one message of the given kind. -/
def message (kind : Message.Kind) (reader : Reader Message) (payload : Bytes) :
    Except ProtocolError Message :=
  match (do let message ← reader; finish; return message : Reader Message) payload with
  | .ok (message, _) => .ok message
  | .error fault => .error (.malformed kind fault)

end Reader

end GameServer
