import GameServer.Address
import GameServer.Text.Diagnostic

/- This file names a session by its connection and its peer. -/

namespace GameServer

/-- Connections are numbered. -/
abbrev ConnectionId := UInt64

/-- A session belongs to a connection and may know its peer. -/
structure SessionInfo where
  connection : ConnectionId
  peer : Option Address
deriving DecidableEq

namespace SessionInfo

/-- Reports name a session by its connection and its peer. -/
def text (info : SessionInfo) : String :=
  let name := "conn-" ++ toString info.connection.toNat
  match info.peer with
  | some address => name ++ " (" ++ address.text ++ ")"
  | none => name

/-- The identity of a session as a record. -/
def diagnostic (info : SessionInfo) : String :=
  Diagnostic.record "SessionInfo"
    [("id", Diagnostic.applied "ConnectionId" (toString info.connection.toNat)),
      ("peer", Diagnostic.optional (info.peer.map Address.text))]

end SessionInfo

end GameServer
