import GameServer.Payload.Codec
import GameServer.Payload.Reader

/- This file defines the payloads of the login. -/

namespace GameServer

/-- A login frame with this opcode comes from a client that reconnects. -/
def reconnectOpcode : UInt8 := 18

/-- A text is written with its terminator, which it must not contain. -/
def Writer.line (kind : Message.Kind) (text : String) : Writer Unit :=
  if (Bytes.ofText text).contains Reader.terminator then
    throw (.malformed kind .lineFeed)
  else
    Writer.append (Bytes.ofText text ++ [Reader.terminator])

namespace PayloadCodec

/-- The handshake is a single byte. -/
def handshake : PayloadCodec where
  kind := .handshake
  decode _ payload := Reader.message .handshake (Message.handshake <$> Reader.byte "name hash") payload
  encode
    | .handshake nameHash => Writer.append [nameHash]
    | message => refuseAll .handshake message

/-- The fields before the length byte of a login block. -/
def loginHeader (block : LoginBlock) : Bytes :=
  block.magic :: Bytes.ofUInt16 block.clientVersion ++ [block.detail] ++
    block.archiveChecksums.toList.flatMap Bytes.ofUInt32

/-- The fields behind the length byte of a login block. -/
def loginBody (block : LoginBlock) : Writer Unit := do
  Writer.append
    (block.operation :: block.sessionKeys.flatMap Bytes.ofUInt32 ++ Bytes.ofUInt32 block.userId)
  Writer.line .login block.username
  Writer.line .login block.password

/-- The length byte must count all bytes behind it. -/
def readLogin (opcode : UInt8) : Reader Message := do
  let magic ← Reader.byte "magic"
  let clientVersion ← Reader.word16 "client version"
  let detail ← Reader.byte "detail"
  let checksums ← Reader.words32 "archive checksum" 9
  let declared ← Reader.byte "block length"
  let left ← Reader.left
  if declared.toNat ≠ left then
    Reader.refuse (.blockLength declared.toNat left)
  let operation ← Reader.byte "block operation"
  let sessionKeys ← Reader.words32 "session key" 4
  let userId ← Reader.word32 "user id"
  let username ← Reader.line "username"
  let password ← Reader.line "password"
  return .login
    { reconnecting := opcode == reconnectOpcode
      magic, clientVersion, detail
      archiveChecksums := Vector.ofFn fun place => checksums.getD place 0
      operation, sessionKeys, userId, username, password }

/-- The header stays written when the body cannot be written. -/
def writeLogin (block : LoginBlock) : Writer Unit := do
  Writer.append (loginHeader block)
  match (loginBody block).run [] with
  | .error error _ => throw error
  | .ok _ body =>
      if 255 < body.length then
        throw (.malformed .login .blockTooLong)
      else
        Writer.append (UInt8.ofNat body.length :: body)

/-- The login block counts the bytes behind its header. -/
def login : PayloadCodec where
  kind := .login
  decode opcode payload := Reader.message .login (readLogin opcode) payload
  encode
    | .login block => writeLogin block
    | message => refuseAll .login message

/-- The response to a handshake is a status, eight unused bytes and the server key. -/
def handshakeResponse : PayloadCodec where
  kind := .handshakeResponse
  decode _ payload := Reader.message .handshakeResponse (do
    let status ← Reader.byte "status"
    let _ ← Reader.word32 "exchange block"
    let _ ← Reader.word32 "exchange block"
    let high ← Reader.word32 "server key"
    let low ← Reader.word32 "server key"
    return .handshakeResponse status (Bytes.toUInt64 high low)) payload
  encode
    | .handshakeResponse status serverKey =>
        Writer.append (status :: Bytes.ofUInt64 0 ++ Bytes.ofUInt64 serverKey)
    | message => refuseAll .handshakeResponse message

/-- The response to a login is three bytes. -/
def loginResponse : PayloadCodec where
  kind := .loginResponse
  decode _ payload := Reader.message .loginResponse (do
    let code ← Reader.byte "code"
    let privilege ← Reader.byte "privilege"
    let flagged ← Reader.byte "flagged"
    return .loginResponse ⟨ResponseCode.ofValue code, privilege, flagged != 0⟩) payload
  encode
    | .loginResponse reply =>
        Writer.append [reply.code.value, reply.privilege, if reply.flagged then 1 else 0]
    | message => refuseAll .loginResponse message

end PayloadCodec

end GameServer
