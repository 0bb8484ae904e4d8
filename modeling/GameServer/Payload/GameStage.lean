import GameServer.Payload.LoginStage

/- This file defines the payloads of the game. -/

namespace GameServer

/-- A walk with this opcode was clicked on the minimap. -/
def minimapOpcode : UInt8 := 248

/-- A walk on the minimap ends with this many further bytes. -/
def minimapTrailer : Nat := 14

namespace PayloadCodec

/-- A ping has no payload. -/
def ping : PayloadCodec where
  kind := .ping
  decode _ payload := Reader.message .ping (pure .ping) payload
  encode
    | .ping => pure ()
    | message => refuseAll .ping message

/-- Effects and color are subtracted from 128, and the text is reversed with 128 added. -/
def chat : PayloadCodec where
  kind := .chat
  decode _ payload := Reader.message .chat (do
    let effects ← Reader.byte "effects"
    let color ← Reader.byte "color"
    let text ← Reader.rest
    return .chat ⟨128 - effects, 128 - color, text.reverse.map (· - 128)⟩) payload
  encode
    | .chat line =>
        Writer.append ((128 - line.effects) :: (128 - line.color) ::
          line.text.reverse.map (· + 128))
    | message => refuseAll .chat message

/-- The offsets of a walk are pairs of signed bytes. -/
def readOffsets : Bytes → List (Int8 × Int8)
  | x :: y :: rest => (x.toInt8, y.toInt8) :: readOffsets rest
  | _ => []

/-- The offsets of a walk are written in pairs. -/
def offsetBytes (offsets : List (Int8 × Int8)) : Bytes :=
  offsets.flatMap fun offset => [offset.1.toUInt8, offset.2.toUInt8]

/-- A path is the first x, the offsets, the first y and the negated running flag. -/
def readPath (path trailer : Bytes) : Reader Message :=
  if path.length < 5 then
    Reader.refuse .shortWalk
  else if (path.length - 5) % 2 = 1 then
    Reader.refuse .oddOffsets
  else
    match path.take 2, path.drop (path.length - 3) with
    | [lowX, highX], [lowY, highY, running] =>
        return .walk
          { startX := Bytes.toUInt16 highX (lowX - 128)
            startY := Bytes.toUInt16 highY lowY
            offsets := readOffsets ((path.drop 2).take (path.length - 5))
            running := 0 - running == 1
            trailer }
    | _, _ => Reader.refuse .shortWalk

/-- The trailer of a walk on the minimap is split off the end before the path is read. -/
def readWalk (opcode : UInt8) : Reader Message := do
  let payload ← Reader.rest
  if opcode = minimapOpcode then
    if payload.length < minimapTrailer then
      Reader.refuse .missingTrailer
    else
      let border := payload.length - minimapTrailer
      readPath (payload.take border) (payload.drop border)
  else
    readPath payload []

/-- The low byte of the first x has 128 added, and the running flag is negated. -/
def pathBytes (route : WalkRoute) : Bytes :=
  (route.startX.toUInt8 + 128) :: (route.startX >>> 8).toUInt8 ::
    offsetBytes route.offsets ++
      [route.startY.toUInt8, (route.startY >>> 8).toUInt8,
        0 - (if route.running then 1 else 0)]

/-- A walk is a path with an optional trailer. -/
def walk : PayloadCodec where
  kind := .walk
  decode opcode payload := Reader.message .walk (readWalk opcode) payload
  encode
    | .walk route => Writer.append (pathBytes route ++ route.trailer)
    | message => refuseAll .walk message

/-- A command is one line. -/
def command : PayloadCodec where
  kind := .command
  decode _ payload := Reader.message .command (Message.command <$> Reader.line "command") payload
  encode
    | .command line => Writer.line .command line
    | message => refuseAll .command message

/-- A line of server text. -/
def serverChat : PayloadCodec where
  kind := .serverChat
  decode _ payload := Reader.message .serverChat (Message.serverChat <$> Reader.line "text") payload
  encode
    | .serverChat text => Writer.line .serverChat text
    | message => refuseAll .serverChat message

/-- Every kind has its codec. -/
def ofKind : Message.Kind → PayloadCodec
  | .handshake => handshake
  | .login => login
  | .ping => ping
  | .chat => chat
  | .walk => walk
  | .command => command
  | .handshakeResponse => handshakeResponse
  | .loginResponse => loginResponse
  | .serverChat => serverChat

end PayloadCodec

end GameServer
