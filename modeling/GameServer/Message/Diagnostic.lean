import GameServer.Message.Basic
import GameServer.Text.Diagnostic

/- This file shows a message without its password. -/

namespace GameServer

/-- The name of the case of a kind. -/
def Message.Kind.label : Message.Kind → String
  | .handshake => "Handshake"
  | .login => "Login"
  | .ping => "Ping"
  | .chat => "Chat"
  | .walk => "Walk"
  | .command => "Command"
  | .handshakeResponse => "HandshakeResponse"
  | .loginResponse => "LoginResponse"
  | .serverChat => "ServerChat"

/-- An unnamed code shows its value. -/
def ResponseCode.diagnostic (code : ResponseCode) : String :=
  match code.label? with
  | some label => label
  | none => Diagnostic.applied "Other" (toString code.value.toNat)

/-- Neither the keys nor the password are shown. -/
def LoginBlock.diagnostic (block : LoginBlock) : String :=
  Diagnostic.record "LoginBlock"
    [("reconnecting", Diagnostic.bool block.reconnecting),
      ("magic", toString block.magic.toNat),
      ("client_version", toString block.clientVersion.toNat),
      ("detail", toString block.detail.toNat),
      ("block_operation", toString block.operation.toNat),
      ("session_keys", toString block.sessionKeys.length),
      ("user_id", toString block.userId.toNat),
      ("username", Diagnostic.quoted block.username),
      ("password", Diagnostic.redacted)]

/-- A byte string is a list of numbers. -/
def Bytes.diagnostic (bytes : Bytes) : String :=
  Diagnostic.list (bytes.map fun byte => toString byte.toNat)

/-- A line of chat shows its packed text. -/
def ChatLine.diagnostic (line : ChatLine) : String :=
  Diagnostic.record "ChatMessage"
    [("effects", toString line.effects.toNat), ("color", toString line.color.toNat),
      ("text", Bytes.diagnostic line.text)]

/-- A walk shows its offsets as pairs. -/
def WalkRoute.diagnostic (route : WalkRoute) : String :=
  Diagnostic.record "WalkRequest"
    [("first_x", toString route.startX.toNat), ("first_y", toString route.startY.toNat),
      ("steps", Diagnostic.list (route.offsets.map fun offset =>
        Diagnostic.pair (toString offset.1.toInt) (toString offset.2.toInt))),
      ("run", Diagnostic.bool route.running),
      ("anti_cheat", Bytes.diagnostic route.trailer)]

/-- The fields of a message stand in a record of their own. -/
def Message.diagnostic (message : Message) : String :=
  let case := Diagnostic.applied message.kind.label
  match message with
  | .handshake nameHash =>
      case (Diagnostic.record "HandshakeRequest" [("name_hash", toString nameHash.toNat)])
  | .login block => case block.diagnostic
  | .ping => message.kind.label
  | .chat line => case line.diagnostic
  | .walk route => case route.diagnostic
  | .command line => case (Diagnostic.record "CommandMessage" [("line", Diagnostic.quoted line)])
  | .handshakeResponse status serverKey =>
      case (Diagnostic.record "HandshakeResponse"
        [("status", toString status.toNat), ("server_key", toString serverKey.toNat)])
  | .loginResponse reply =>
      case (Diagnostic.record "LoginResponse"
        [("code", reply.code.diagnostic), ("privilege", toString reply.privilege.toNat),
          ("flagged", Diagnostic.bool reply.flagged)])
  | .serverChat text =>
      case (Diagnostic.record "ServerChatMessage" [("text", Diagnostic.quoted text)])

/-- A login block with another password looks the same. -/
theorem LoginBlock.diagnostic_password (block : LoginBlock) (password : String) :
    { block with password }.diagnostic = block.diagnostic := rfl

end GameServer
