import GameServer.Player.Registry
import Mathlib.Data.List.Nodup

/- This file shows who stands in a registry. -/

namespace GameServer.PlayerRegistry

/-- A player stands in the registry under the key of the player's name. -/
def entry (player : Player) : String × Player := (player.key, player)

@[simp] theorem entry_fst (player : Player) : (entry player).1 = player.key := rfl

/-- No two players stand under one name. -/
def Single (registry : PlayerRegistry) : Prop := (registry.online.map Prod.fst).Nodup

variable {registry next : PlayerRegistry} {player : Player}

/-- A player joins in front of the others if there is room and nobody has the name. -/
theorem join_ok (joined : registry.join player = .ok next) :
    registry.find? player.username = none ∧ registry.size < registry.capacity ∧
      next = { registry with online := entry player :: registry.online } := by
  unfold join at joined
  split at joined
  · cases joined
  · next free =>
      split at joined
      · cases joined
      · next room =>
          cases joined
          rw [isOnline, Bool.not_eq_true, Option.isSome_eq_false_iff, Option.isNone_iff_eq_none]
            at free
          exact ⟨free, Nat.lt_of_not_le room, rfl⟩

theorem key_notMem (free : registry.find? player.username = none) :
    player.key ∉ registry.online.map Prod.fst := by
  intro member
  obtain ⟨other, standing, same⟩ := List.mem_map.mp member
  have absent : registry.online.lookup player.key = none := free
  have distinct := List.lookup_eq_none_iff.mp absent other standing
  rw [same] at distinct
  exact bne_iff_ne.mp distinct rfl

theorem single_join (single : registry.Single) (joined : registry.join player = .ok next) :
    next.Single := by
  obtain ⟨free, _, rfl⟩ := join_ok joined
  exact List.nodup_cons.mpr ⟨key_notMem free, single⟩

/-- Under a name stands the one player who has it. -/
theorem find?_of_mem (single : registry.Single) (standing : entry player ∈ registry.online) :
    registry.find? player.username = some player := by
  obtain ⟨front, back, same⟩ := List.append_of_mem standing
  refine List.lookup_eq_some_iff.mpr ⟨front, back, same, ?_⟩
  intro other member
  rw [Single, same, List.map_append, List.nodup_append] at single
  have distinct := single.2.2 other.1 (List.mem_map_of_mem member) player.key
    (List.mem_map_of_mem List.mem_cons_self)
  exact bne_iff_ne.mpr distinct.symm

/-- A player who is removed on the own connection leaves the others behind. -/
theorem remove_of_mem (single : registry.Single) (standing : entry player ∈ registry.online) :
    (registry.remove player.username player.connection).2.capacity = registry.capacity ∧
      (registry.remove player.username player.connection).2.Single ∧
      registry.online.Perm
        (entry player :: (registry.remove player.username player.connection).2.online) := by
  have found := find?_of_mem single standing
  have removed : (registry.remove player.username player.connection).2 =
      { registry with online := registry.online.eraseP (·.1 == player.key) } := by
    rw [remove, found]
    dsimp only
    rw [if_pos rfl]
    rfl
  have own : ((entry player).1 == player.key) = true := by rw [entry_fst, beq_self_eq_true]
  obtain ⟨other, front, back, _, named, same, rest⟩ :=
    @List.exists_of_eraseP _ (fun other : String × Player => other.1 == player.key) _ _ standing own
  have key : other.1 = (entry player).1 := by rw [entry_fst, eq_of_beq named]
  have unique : other = entry player := by
    refine List.inj_on_of_nodup_map single ?_ standing key
    rw [same]
    exact List.mem_append_right _ List.mem_cons_self
  subst unique
  rw [removed]
  refine ⟨rfl, ?_, ?_⟩
  · exact single.sublist ((List.eraseP_sublist).map Prod.fst)
  · rw [rest, same]
    exact List.perm_middle

/-- On a connection that no player came on nobody is removed. -/
theorem remove_of_ne {connection : ConnectionId}
    (others : ∀ place ∈ registry.online, place.2.connection ≠ connection) (username : String) :
    registry.remove username connection = (none, registry) := by
  rw [remove]
  cases found : registry.find? username with
  | none => rfl
  | some player =>
      obtain ⟨front, back, same, _⟩ := List.lookup_eq_some_iff.mp found
      refine if_neg (others (canonicalName username, player) ?_)
      rw [same]
      exact List.mem_append_right _ List.mem_cons_self

end GameServer.PlayerRegistry
