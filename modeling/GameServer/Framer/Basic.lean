import GameServer.Keystream
import GameServer.Table.Basic

/- This file reads and writes frames, and may stop in the middle of one. -/

namespace GameServer

/-- A frame is an opcode and a payload. -/
structure Frame where
  opcode : UInt8
  payload : Bytes
deriving DecidableEq

/-- A framer remembers how far it has read into the current frame. -/
inductive Framer.Progress where
  /-- The next byte is an opcode. -/
  | idle
  /-- The opcode was read, and the length field is not complete. -/
  | measuring (binding : Inbound) (field : LengthField)
  /-- The length is known, and the payload is not complete. -/
  | filling (binding : Inbound) (length : Nat)

/-- A framer works with one table and may hide its opcodes. -/
structure Framer where
  table : Table
  cipher : Option KeystreamPair
  progress : Framer.Progress
  /-- No longer payload may be declared by a client. -/
  limit : Nat

/-- One read yields a value, or nothing yet, or an error. It takes some bytes and leaves the
rest. -/
structure Framer.Cut (α : Type) where
  outcome : Except ProtocolError (Option α)
  framer : Framer
  taken : Nat
  rest : Bytes

namespace Framer

/-- A payload may be as long as two bytes can declare, unless another limit is set. -/
def defaultLimit : Nat := 65535

/-- A plain framer leaves opcodes as they are. -/
def plain (table : Table) (limit : Nat) : Framer := ⟨table, none, .idle, limit⟩

/-- A ciphered framer hides every opcode that it writes. -/
def ciphered (table : Table) (limit : Nat) (pair : KeystreamPair) : Framer :=
  ⟨table, some pair, .idle, limit⟩

/-- An idle framer is not in the middle of a frame. -/
def isIdle (framer : Framer) : Bool :=
  match framer.progress with
  | .idle => true
  | _ => false

/-- The number of bytes that the payload in progress lacks when so many are there. -/
def missing (framer : Framer) (size : Nat) : Nat :=
  match framer.progress with
  | .filling _ length => length - size
  | _ => 0

/-- An opcode that arrives is revealed if the framer is ciphered. -/
def reveal (framer : Framer) (byte : UInt8) : UInt8 × Framer :=
  match framer.cipher with
  | none => (byte, framer)
  | some pair =>
      let (opcode, rest) := pair.reveal byte
      (opcode, { framer with cipher := some rest })

/-- An opcode that is written is hidden if the framer is ciphered. -/
def hide (framer : Framer) (opcode : UInt8) : UInt8 × Framer :=
  match framer.cipher with
  | none => (opcode, framer)
  | some pair =>
      let (byte, rest) := pair.hide opcode
      (byte, { framer with cipher := some rest })

/-- More bytes were taken in front of a cut. -/
def Cut.behind {α : Type} (cut : Cut α) (count : Nat) : Cut α :=
  { cut with taken := count + cut.taken }

/-- A payload is cut off only when it is complete. -/
def fill (framer : Framer) (binding : Inbound) (length : Nat) (source : Bytes) :
    Cut (Inbound × Frame) :=
  match source.split? length with
  | none => ⟨.ok none, { framer with progress := .filling binding length }, 0, source⟩
  | some (payload, rest) =>
      ⟨.ok (some (binding, ⟨binding.opcode, payload⟩)), { framer with progress := .idle }, length,
        rest⟩

/-- A declared length is checked against the limit as soon as it is known. -/
def measure (framer : Framer) (binding : Inbound) (field : LengthField) (source : Bytes) :
    Cut (Inbound × Frame) :=
  match field.read? source with
  | none => ⟨.ok none, { framer with progress := .measuring binding field }, 0, source⟩
  | some (length, rest) =>
      if framer.limit < length then
        ⟨.error (.frameTooLong length framer.limit), { framer with progress := .idle }, field.size,
          rest⟩
      else
        (framer.fill binding length rest).behind field.size

/-- An opcode is taken off the bytes before it is looked up. -/
def start (framer : Framer) : Bytes → Cut (Inbound × Frame)
  | [] => ⟨.ok none, { framer with progress := .idle }, 0, []⟩
  | byte :: rest =>
      let (opcode, revealed) := framer.reveal byte
      match revealed.table.lookup opcode with
      | .error error => ⟨.error error, { revealed with progress := .idle }, 1, rest⟩
      | .ok binding =>
          match binding.rule with
          | .fixed length => (revealed.fill binding length rest).behind 1
          | .declared field => (revealed.measure binding field rest).behind 1

/-- The next frame is cut off the bytes, from where the framer stopped. -/
def takeFrame (framer : Framer) (source : Bytes) : Cut (Inbound × Frame) :=
  match framer.progress with
  | .idle => framer.start source
  | .measuring binding field => framer.measure binding field source
  | .filling binding length => framer.fill binding length source

/-- A frame is decoded by the codec that its opcode is bound to. -/
def Cut.message (cut : Cut (Inbound × Frame)) : Cut Message where
  outcome :=
    match cut.outcome with
    | .error error => .error error
    | .ok none => .ok none
    | .ok (some (binding, frame)) => (binding.codec.decode frame.opcode frame.payload).map some
  framer := cut.framer
  taken := cut.taken
  rest := cut.rest

/-- The next message is decoded from the next frame. -/
def decode (framer : Framer) (source : Bytes) : Cut Message :=
  (framer.takeFrame source).message

/-- Writing changes the keystream of a framer and the bytes written so far. -/
abbrev Output (α : Type) := Framer × Bytes → EStateM.Result ProtocolError (Framer × Bytes) α

/-- The length is checked before the keystream moves. -/
def putFrame (opcode : UInt8) (rule : LengthRule) (payload : Bytes) : Output Unit :=
  fun (framer, written) =>
    match rule.check opcode payload.length with
    | .error error => .error error (framer, written)
    | .ok () =>
        let (byte, hidden) := framer.hide opcode
        .ok () (hidden, written ++ byte :: rule.header payload.length ++ payload)

/-- A frame is written the way the peer sends it, under the rule of its opcode for reading. -/
def encodeFrame (frame : Frame) : Output Unit :=
  fun (framer, written) =>
    match framer.table.lookup frame.opcode with
    | .error error => .error error (framer, written)
    | .ok binding => putFrame frame.opcode binding.rule frame.payload (framer, written)

/-- A message is written under the binding of its kind, once its payload is complete. -/
def encode (message : Message) : Output Unit :=
  fun (framer, written) =>
    match framer.table.lookupKind message.kind with
    | .error error => .error error (framer, written)
    | .ok binding =>
        match (binding.codec.encode message).run [] with
        | .error error _ => .error error (framer, written)
        | .ok _ payload =>
            match binding.framing with
            | .headless => .ok () (framer, written ++ payload)
            | .framed opcode rule => putFrame opcode rule payload (framer, written)

theorem putFrame_error (opcode : UInt8) (rule : LengthRule) (payload : Bytes)
    (before after : Framer × Bytes) (error : ProtocolError)
    (same : putFrame opcode rule payload before = .error error after) : after = before := by
  obtain ⟨framer, written⟩ := before
  simp only [putFrame] at same
  split at same
  · cases same
    rfl
  · cases same

theorem encode_error (message : Message) (before after : Framer × Bytes) (error : ProtocolError)
    (same : encode message before = .error error after) : after = before := by
  obtain ⟨framer, written⟩ := before
  simp only [encode] at same
  split at same
  · cases same
    rfl
  · split at same
    · cases same
      rfl
    · split at same
      · cases same
      · exact putFrame_error _ _ _ _ _ _ same

end Framer

end GameServer
