import GameServer.Message.ResponseCode
import GameServer.Player.Basic

/- This file keeps the players who are in the game. -/

namespace GameServer

/-- Each player in the game stands under a canonical name, and the latest one stands first. -/
structure PlayerRegistry where
  online : List (String × Player)
  capacity : Nat
deriving DecidableEq

namespace PlayerRegistry

/-- Nobody is in the game yet. -/
def empty (capacity : Nat) : PlayerRegistry := ⟨[], capacity⟩

/-- The player of that name, however it is spelled. -/
def find? (registry : PlayerRegistry) (username : String) : Option Player :=
  registry.online.lookup (canonicalName username)

/-- Whether a player of that name is in the game. -/
def isOnline (registry : PlayerRegistry) (username : String) : Bool :=
  (registry.find? username).isSome

/-- The number of players in the game. -/
def size (registry : PlayerRegistry) : Nat := registry.online.length

/-- A name in the game is refused first, and then every name once the registry is full. -/
def join (registry : PlayerRegistry) (player : Player) : Except ResponseCode PlayerRegistry :=
  if registry.isOnline player.username then
    .error .accountOnline
  else if registry.capacity ≤ registry.size then
    .error .serverFull
  else
    .ok { registry with online := (player.key, player) :: registry.online }

/-- Only the connection of a player takes the player out of the game. -/
def remove (registry : PlayerRegistry) (username : String) (connection : ConnectionId) :
    Option Player × PlayerRegistry :=
  match registry.find? username with
  | some player =>
      if player.connection = connection then
        let key := canonicalName username
        (some player, { registry with online := registry.online.eraseP (·.1 == key) })
      else (none, registry)
  | none => (none, registry)

theorem size_join_le (registry next : PlayerRegistry) (player : Player)
    (joined : registry.join player = .ok next) : next.size ≤ next.capacity := by
  unfold join at joined
  split at joined
  · cases joined
  · split at joined
    · cases joined
    · cases joined
      simp only [size, List.length_cons] at *
      omega

theorem remove_join (registry next : PlayerRegistry) (player : Player)
    (joined : registry.join player = .ok next) :
    next.remove player.username player.connection = (some player, registry) := by
  unfold join at joined
  split at joined
  · cases joined
  · split at joined
    · cases joined
    · cases joined
      simp [remove, find?, Player.key]

end PlayerRegistry

end GameServer
