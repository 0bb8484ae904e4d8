import GameServer.Payload.Fault

/- A codec turns the payload of a frame into a message and back. -/

namespace GameServer

/-- A writer appends to the bytes written so far, and keeps them when it fails. -/
abbrev Writer := EStateM ProtocolError Bytes

/-- This writer appends the given bytes. -/
def Writer.append (bytes : Bytes) : Writer Unit :=
  modify (· ++ bytes)

@[simp] theorem Writer.run_append (bytes written : Bytes) :
    EStateM.run (Writer.append bytes) written = .ok () (written ++ bytes) := rfl

/-- A codec reads and writes the payloads of one kind of message. -/
structure PayloadCodec where
  kind : Message.Kind
  decode (opcode : UInt8) (payload : Bytes) : Except ProtocolError Message
  encode (message : Message) : Writer Unit

namespace PayloadCodec

/-- A codec without an encoder refuses every message. -/
def refuseAll (kind : Message.Kind) (message : Message) : Writer Unit :=
  throw (.wrongKind kind message.kind)

/-- This codec reads like another one and writes nothing. -/
def decodeOnly (codec : PayloadCodec) : PayloadCodec :=
  { codec with encode := refuseAll codec.kind }

end PayloadCodec

end GameServer
