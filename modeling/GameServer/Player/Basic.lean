import GameServer.Session.Info
import GameServer.Text.Blank

/- This file defines players and the spelling of their names. -/

namespace GameServer

/-- A name without its outer white space, in lower case and with a space for each underscore. -/
def canonicalName (name : String) : String :=
  String.ofList ((Text.trimChars name.toList).map fun character =>
    if character = '_' then ' ' else character.toLower)

/-- A player is in the game on one connection. -/
structure Player where
  userId : UInt32
  username : String
  privilege : UInt8
  reconnecting : Bool
  connection : ConnectionId
deriving DecidableEq

/-- Two names with one canonical spelling are the same account. -/
def Player.key (player : Player) : String := canonicalName player.username

/-- All that is known of a player. -/
def Player.diagnostic (player : Player) : String :=
  Diagnostic.record "Player"
    [("user_id", toString player.userId.toNat),
      ("username", Diagnostic.quoted player.username),
      ("privilege", toString player.privilege.toNat),
      ("reconnecting", Diagnostic.bool player.reconnecting),
      ("connection", Diagnostic.applied "ConnectionId" (toString player.connection.toNat))]

end GameServer
