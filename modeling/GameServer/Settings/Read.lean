import GameServer.Json.Compound
import GameServer.Settings.Basic

/- This file reads the settings and the accounts of a small server. -/

namespace GameServer

/-- Settings cannot be had for one of these causes. -/
inductive SettingsError where
  | missingFile
  | notText
  | fault (fault : Json.Fault)
deriving DecidableEq

/-- The wording of an error about a file, which depends on the file alone. -/
def SettingsError.fileMessage? : SettingsError → Option String
  | .missingFile => some "failed to read config: No such file or directory (os error 2)"
  | .notText => some "failed to read config: stream did not contain valid UTF-8"
  | .fault _ => none

namespace Settings

open Json in
/-- The settings in the order in which a list holds them. -/
def fields : List (RecordField Settings) :=
  [⟨"bind_addr", (fun bindAddress settings => { settings with bindAddress }) <$> textValue⟩,
    ⟨"client_version",
      (fun version settings => { settings with clientVersion := UInt16.ofNat version }) <$>
        wholeValue 65536⟩,
    ⟨"verify_server_key",
      (fun verifyServerKey settings => { settings with verifyServerKey }) <$> truthValue⟩,
    ⟨"handshake_timeout_secs",
      (fun handshakeLimit settings => { settings with handshakeLimit }) <$> wholeValue wordBound⟩,
    ⟨"auth_timeout_secs",
      (fun authenticationLimit settings => { settings with authenticationLimit }) <$>
        wholeValue wordBound⟩,
    ⟨"idle_timeout_secs",
      (fun idleLimit settings => { settings with idleLimit }) <$> wholeValue wordBound⟩,
    ⟨"max_players",
      (fun maxPlayers settings => { settings with maxPlayers }) <$> wholeValue wordBound⟩,
    ⟨"max_payload_len",
      (fun maxPayload settings => { settings with maxPayload }) <$> wholeValue wordBound⟩]

/-- Settings that are not given keep their defaults. -/
def scanner : Json.Scanner Settings := Json.record fields standard

/-- The settings that a text describes. -/
def ofText (text : String) : Except SettingsError Settings :=
  (Json.document scanner text).mapError .fault

/-- A file must exist and hold text before it is read. -/
def ofFile {α : Type} (read : String → Except SettingsError α) (file : Option Bytes) :
    Except SettingsError α :=
  match file with
  | none => .error .missingFile
  | some bytes =>
      match bytes.toText? with
      | none => .error .notText
      | some text => read text

end Settings

/-- The small server has settings and a list of accounts with their passwords. -/
structure SmallServer where
  settings : Settings
  accounts : List (String × String)
deriving DecidableEq

namespace SmallServer

/-- Without accounts the server is open. -/
def standard : SmallServer := ⟨.standard, []⟩

open Json in
/-- The settings stand in front of the accounts. -/
def fields : List (RecordField SmallServer) :=
  [⟨"server", (fun settings server => { server with settings }) <$> Settings.scanner⟩,
    ⟨"accounts", (fun accounts server => { server with accounts }) <$> dictionary⟩]

/-- The server that a text describes. -/
def ofText (text : String) : Except SettingsError SmallServer :=
  (Json.document (Json.record fields standard) text).mapError .fault

end SmallServer

end GameServer
