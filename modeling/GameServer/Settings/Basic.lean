import GameServer.Framer.Basic
import GameServer.Login.Policy

/- Every setting of a server has a default. -/

namespace GameServer

/-- All that can be set without a program. Limits of time are in seconds. -/
structure Settings where
  bindAddress : String
  clientVersion : UInt16
  verifyServerKey : Bool
  /-- The handshake and the login block must each arrive within this time. -/
  handshakeLimit : Nat
  /-- The authenticator must answer within this time. -/
  authenticationLimit : Nat
  /-- A player who sends nothing for this time is dropped. -/
  idleLimit : Nat
  maxPlayers : Nat
  /-- No client may declare a longer payload. -/
  maxPayload : Nat
deriving DecidableEq

namespace Settings

/-- The settings of a server for the current client. -/
def standard : Settings where
  bindAddress := "0.0.0.0:43594"
  clientVersion := LoginPolicy.standard.clientVersion
  verifyServerKey := LoginPolicy.standard.verifyServerKey
  handshakeLimit := 5
  authenticationLimit := 10
  idleLimit := 60
  maxPlayers := 2000
  maxPayload := Framer.defaultLimit

/-- The rules for login blocks that the settings ask for. -/
def loginPolicy (settings : Settings) : LoginPolicy :=
  ⟨settings.clientVersion, settings.verifyServerKey⟩

/-- The settings under their names. -/
def diagnostic (settings : Settings) : String :=
  Diagnostic.record "ServerConfig"
    [("bind_addr", Diagnostic.quoted settings.bindAddress),
      ("client_version", toString settings.clientVersion.toNat),
      ("verify_server_key", Diagnostic.bool settings.verifyServerKey),
      ("handshake_timeout_secs", toString settings.handshakeLimit),
      ("auth_timeout_secs", toString settings.authenticationLimit),
      ("idle_timeout_secs", toString settings.idleLimit),
      ("max_players", toString settings.maxPlayers),
      ("max_payload_len", toString settings.maxPayload)]

end Settings

end GameServer
