import GameServer.Proofs.Player.Spelling
import Mathlib.Data.List.Induction

/- This file compares a registry with the history of what was asked of it. -/

namespace GameServer.PlayerRegistry

/-- A player is taken out by a removal of the own name, however spelled, on the own connection. -/
def Request.takes (player : Player) : Request → Bool
  | .join _ => false
  | .remove username connection =>
      canonicalName username == player.key && connection == player.connection

/-- Nobody of that name is in the game, and there is room for one more. -/
def LetsIn (capacity : Nat) (players : List Player) (player : Player) : Prop :=
  (∀ other ∈ players, other.key ≠ player.key) ∧ players.length < capacity

instance (capacity : Nat) (players : List Player) (player : Player) :
    Decidable (LetsIn capacity players player) :=
  inferInstanceAs
    (Decidable ((∀ other ∈ players, other.key ≠ player.key) ∧ players.length < capacity))

/-- The players in the game after one more request, the latest one first. -/
def attend (capacity : Nat) (players : List Player) (request : Request) : List Player :=
  match request with
  | .join player => if LetsIn capacity players player then player :: players else players
  | .remove _ _ => players.filter fun player => !request.takes player

/-- The players in the game after all requests, as their history tells it. -/
def roster (capacity : Nat) (requests : List Request) : List Player :=
  requests.foldl (attend capacity) []

theorem roster_concat (capacity : Nat) (requests : List Request) (request : Request) :
    roster capacity (requests ++ [request]) =
      attend capacity (roster capacity requests) request := by
  rw [roster, List.foldl_append]
  rfl

/-- The player was let in, and nobody has taken the player out since. -/
def Present (capacity : Nat) (requests : List Request) (player : Player) : Prop :=
  ∃ earlier later, requests = earlier ++ .join player :: later ∧
    LetsIn capacity (roster capacity earlier) player ∧
    ∀ request ∈ later, request.takes player = false

section Roster

variable {capacity : Nat} {players : List Player} {player : Player} {request : Request}

/-- A player stays in the game until somebody takes the player out. -/
theorem mem_attend_of_mem (standing : player ∈ players) (kept : request.takes player = false) :
    player ∈ attend capacity players request := by
  cases request with
  | join other =>
      rw [attend]
      split
      · exact List.mem_cons_of_mem other standing
      · exact standing
  | remove username connection =>
      exact List.mem_filter.mpr ⟨standing, by rw [kept]; rfl⟩

/-- Whoever is in the game has been there before the request or was let in by it. -/
theorem mem_attend_cases (standing : player ∈ attend capacity players request) :
    player ∈ players ∧ request.takes player = false ∨
      request = .join player ∧ LetsIn capacity players player := by
  cases request with
  | join other =>
      rw [attend] at standing
      split at standing
      · next free =>
          rcases List.mem_cons.mp standing with same | before
          · subst same
            exact .inr ⟨rfl, free⟩
          · exact .inl ⟨before, rfl⟩
      · exact .inl ⟨standing, rfl⟩
  | remove username connection =>
      obtain ⟨before, kept⟩ := List.mem_filter.mp standing
      exact .inl ⟨before, by simpa using kept⟩

theorem mem_roster_iff (capacity : Nat) (requests : List Request) (player : Player) :
    player ∈ roster capacity requests ↔ Present capacity requests player := by
  induction requests using List.reverseRecOn with
  | nil =>
      refine ⟨fun standing => absurd standing List.not_mem_nil, ?_⟩
      rintro ⟨earlier, later, same, _⟩
      exact absurd same.symm (by simp)
  | append_singleton requests request ih =>
      rw [roster_concat]
      refine ⟨fun standing => ?_, ?_⟩
      · rcases mem_attend_cases standing with ⟨before, kept⟩ | ⟨same, free⟩
        · obtain ⟨earlier, later, whole, free, others⟩ := ih.mp before
          refine ⟨earlier, later ++ [request], by rw [whole]; simp, free, ?_⟩
          exact List.forall_mem_append.mpr ⟨others, List.forall_mem_singleton.mpr kept⟩
        · exact ⟨requests, [], by rw [same], free, List.forall_mem_nil _⟩
      · rintro ⟨earlier, later, whole, free, others⟩
        -- Either the last request let the player in, or the player was in the game before it.
        rcases List.eq_nil_or_concat' later with rfl | ⟨before, latest, rfl⟩
        · obtain ⟨rfl, same⟩ := List.append_inj' whole rfl
          cases same
          rw [attend, if_pos free]
          exact List.mem_cons_self
        · rw [← List.cons_append, ← List.append_assoc] at whole
          obtain ⟨front, same⟩ := List.append_inj' whole rfl
          cases same
          obtain ⟨others, own⟩ := List.forall_mem_append.mp others
          refine mem_attend_of_mem (ih.mpr ⟨earlier, before, front, free, others⟩) ?_
          exact own request List.mem_cons_self

end Roster

/-- The registry holds these players, each under the own name, and no two of them have one name. -/
structure Holds (registry : PlayerRegistry) (capacity : Nat) (players : List Player) : Prop where
  online : registry.online = players.map entry
  single : registry.Single
  bounded : registry.size ≤ capacity
  capacity : registry.capacity = capacity

section Holds

variable {registry : PlayerRegistry} {capacity : Nat} {players : List Player} {username : String}

theorem Holds.size (holds : registry.Holds capacity players) : registry.size = players.length := by
  rw [PlayerRegistry.size, holds.online, List.length_map]

theorem Holds.nodup_key (holds : registry.Holds capacity players) :
    (players.map Player.key).Nodup := by
  have single := holds.single
  rw [Single, holds.online, List.map_map] at single
  exact single

/-- Under a name stands the player who has it. -/
theorem Holds.find?_iff (holds : registry.Holds capacity players) :
    registry.find? username = some player ↔
      player ∈ players ∧ player.key = canonicalName username := by
  refine ⟨fun found => ?_, ?_⟩
  · obtain ⟨front, back, same, _⟩ := List.lookup_eq_some_iff.mp found
    have standing : (canonicalName username, player) ∈ players.map entry := by
      rw [← holds.online, same]
      exact List.mem_append_right _ List.mem_cons_self
    obtain ⟨other, member, filed⟩ := List.mem_map.mp standing
    obtain ⟨named, rfl⟩ := Prod.mk.inj filed
    exact ⟨member, named⟩
  · rintro ⟨member, named⟩
    have standing : entry player ∈ registry.online := by
      rw [holds.online]
      exact List.mem_map_of_mem member
    have found := find?_of_mem holds.single standing
    rw [find?] at found ⊢
    rw [← named]
    exact found

theorem Holds.isOnline_iff (holds : registry.Holds capacity players) :
    registry.isOnline username = true ↔
      ∃ player ∈ players, player.key = canonicalName username := by
  rw [isOnline, Option.isSome_iff_exists]
  exact exists_congr fun player => holds.find?_iff

/-- A name in the game is refused before a full registry is. -/
theorem Holds.join_cases (holds : registry.Holds capacity players) (player : Player) :
    (∃ other ∈ players, other.key = player.key) ∧
        registry.join player = .error .accountOnline ∨
      (∀ other ∈ players, other.key ≠ player.key) ∧ capacity ≤ players.length ∧
        registry.join player = .error .serverFull ∨
      LetsIn capacity players player ∧
        registry.join player = .ok { registry with online := entry player :: registry.online } := by
  rw [join]
  split
  · next taken => exact .inl ⟨holds.isOnline_iff.mp taken, rfl⟩
  · next free =>
      have others : ∀ other ∈ players, other.key ≠ player.key :=
        fun other member same => free (holds.isOnline_iff.mpr ⟨other, member, same⟩)
      rw [holds.size, holds.capacity]
      split
      · next full => exact .inr (.inl ⟨others, full, rfl⟩)
      · next room => exact .inr (.inr ⟨⟨others, Nat.lt_of_not_le room⟩, rfl⟩)

/-- Of players with different names the one of that name is dropped. -/
theorem eraseP_entries (single : (players.map Player.key).Nodup) (name : String) :
    (players.map entry).eraseP (·.1 == name) =
      (players.filter fun player => !(name == player.key)).map entry := by
  induction players with
  | nil => rfl
  | cons player rest ih =>
      obtain ⟨absent, single⟩ := List.nodup_cons.mp single
      rw [List.map_cons, List.eraseP_cons, List.filter_cons, entry_fst]
      by_cases same : name = player.key
      · subst same
        have others : ∀ other ∈ rest, (!(player.key == other.key)) = true := by
          intro other member
          have distinct : player.key ≠ other.key :=
            fun same => absent (same ▸ List.mem_map_of_mem member)
          rw [beq_eq_false_iff_ne.mpr distinct, Bool.not_false]
        rw [List.filter_eq_self.mpr others, beq_self_eq_true, Bool.not_true]
        rfl
      · rw [beq_eq_false_iff_ne.mpr same, beq_eq_false_iff_ne.mpr (Ne.symm same), ih single]
        rfl

/-- Nobody is taken out unless it happens on the connection of the player of that name. -/
theorem Holds.remove_cases (holds : registry.Holds capacity players) (username : String)
    (connection : ConnectionId) :
    (∃ player ∈ players, (Request.remove username connection).takes player = true ∧
        registry.remove username connection =
          (some player, { registry with
            online := (players.filter fun other =>
              !(Request.remove username connection).takes other).map entry })) ∨
      ((∀ player ∈ players, (Request.remove username connection).takes player = false) ∧
        registry.remove username connection = (none, registry)) := by
  cases found : registry.find? username with
  | none =>
      refine .inr ⟨fun player member => ?_, by rw [remove, found]⟩
      have other : canonicalName username ≠ player.key := by
        intro named
        rw [holds.find?_iff.mpr ⟨member, named.symm⟩] at found
        cases found
      rw [Request.takes, beq_eq_false_iff_ne.mpr other, Bool.false_and]
  | some player =>
      obtain ⟨member, named⟩ := holds.find?_iff.mp found
      have only (other : Player) (standing : other ∈ players)
          (same : canonicalName username = other.key) : other = player := by
        have again := holds.find?_iff.mpr ⟨standing, same.symm⟩
        rw [found] at again
        cases again
        rfl
      by_cases own : player.connection = connection
      · refine .inl ⟨player, member, by simp [Request.takes, named, own], ?_⟩
        have taken : ∀ other ∈ players, (!(canonicalName username == other.key)) =
            !(Request.remove username connection).takes other := by
          intro other standing
          by_cases same : canonicalName username = other.key
          · cases only other standing same
            simp [Request.takes, same, own]
          · simp [Request.takes, same]
        rw [remove, found]
        dsimp only
        rw [if_pos own, holds.online, eraseP_entries holds.nodup_key,
          List.filter_congr taken]
      · refine .inr ⟨fun other standing => ?_, ?_⟩
        · by_cases same : canonicalName username = other.key
          · cases only other standing same
            simp [Request.takes, Ne.symm own]
          · simp [Request.takes, same]
        · rw [remove, found]
          exact if_neg own

theorem Holds.next (holds : registry.Holds capacity players) (request : Request) :
    (registry.next request).Holds capacity (attend capacity players request) := by
  cases request with
  | join player =>
      rcases holds.join_cases player with
        ⟨⟨other, member, same⟩, refused⟩ | ⟨_, full, refused⟩ | ⟨free, joined⟩
      · rw [PlayerRegistry.next, refused, attend, if_neg fun free => free.1 other member same]
        exact holds
      · rw [PlayerRegistry.next, refused, attend, if_neg fun free => Nat.not_lt.mpr full free.2]
        exact holds
      · rw [PlayerRegistry.next, joined, attend, if_pos free]
        refine ⟨?_, single_join holds.single joined, ?_, holds.capacity⟩
        · rw [List.map_cons, ← holds.online]
        · rw [PlayerRegistry.size, List.length_cons, holds.online, List.length_map]
          exact free.2
  | remove username connection =>
      have fewer := remove_sublist registry username connection
      have single := holds.single.sublist (fewer.map Prod.fst)
      have bounded := Nat.le_trans fewer.length_le holds.bounded
      rw [PlayerRegistry.next] at *
      rcases holds.remove_cases username connection with
        ⟨player, member, taken, removed⟩ | ⟨others, removed⟩
      · rw [removed] at single bounded ⊢
        exact ⟨rfl, single, bounded, holds.capacity⟩
      · rw [removed, attend, List.filter_eq_self.mpr fun player member => by
          rw [others player member, Bool.not_false]]
        exact holds

theorem holds_run (capacity : Nat) (requests : List Request) :
    ((empty capacity).run requests).Holds capacity (roster capacity requests) := by
  induction requests using List.reverseRecOn with
  | nil => exact ⟨rfl, List.nodup_nil, Nat.zero_le _, rfl⟩
  | append_singleton requests request ih =>
      rw [roster_concat, run, List.foldl_append]
      exact ih.next request

end Holds

/-- How a registry answers a player who asks to join while these players are in the game. -/
structure AnswersJoin (registry : PlayerRegistry) (players : List Player) (player : Player) :
    Prop where
  online : registry.join player = .error .accountOnline ↔
    ∃ other ∈ players, other.key = player.key
  full : registry.join player = .error .serverFull ↔
    (∀ other ∈ players, other.key ≠ player.key) ∧ players.length = registry.capacity
  free : (∃ joined, registry.join player = .ok joined) ↔
    LetsIn registry.capacity players player
  refused : ∀ code, registry.join player = .error code → registry.next (.join player) = registry
  restored : ∀ joined, registry.join player = .ok joined →
    ∀ username, canonicalName username = player.key →
      joined.remove username player.connection = (some player, registry)

/-- How a registry answers a removal while these players are in the game. -/
structure AnswersRemoval (registry : PlayerRegistry) (players : List Player) (username : String)
    (connection : ConnectionId) : Prop where
  own : ∀ player ∈ players, player.key = canonicalName username →
    player.connection = connection → (registry.remove username connection).1 = some player
  foreign : (∀ player ∈ players, player.key = canonicalName username →
    player.connection ≠ connection) → registry.remove username connection = (none, registry)

section Answers

variable {registry : PlayerRegistry} {capacity : Nat} {players : List Player}

theorem remove_congr {first second : String} (same : canonicalName first = canonicalName second)
    (connection : ConnectionId) :
    registry.remove first connection = registry.remove second connection := by
  rw [remove, remove, find?, find?, same]

theorem Holds.answersJoin (holds : registry.Holds capacity players) (player : Player) :
    registry.AnswersJoin players player where
  online := by
    rcases holds.join_cases player with ⟨taken, refused⟩ | ⟨others, _, refused⟩ | ⟨free, joined⟩
    · exact ⟨fun _ => taken, fun _ => refused⟩
    · rw [refused]
      exact ⟨nofun, fun ⟨other, member, same⟩ => absurd same (others other member)⟩
    · rw [joined]
      exact ⟨nofun, fun ⟨other, member, same⟩ => absurd same (free.1 other member)⟩
  full := by
    have bounded := holds.bounded
    rw [holds.size] at bounded
    rw [holds.capacity]
    rcases holds.join_cases player with
      ⟨⟨other, member, same⟩, refused⟩ | ⟨others, full, refused⟩ | ⟨free, joined⟩
    · rw [refused]
      exact ⟨nofun, fun full => absurd same (full.1 other member)⟩
    · exact ⟨fun _ => ⟨others, Nat.le_antisymm bounded full⟩, fun _ => refused⟩
    · rw [joined]
      exact ⟨nofun, fun full => absurd full.2 (Nat.ne_of_lt free.2)⟩
  free := by
    rw [holds.capacity]
    rcases holds.join_cases player with
      ⟨⟨other, member, same⟩, refused⟩ | ⟨_, full, refused⟩ | ⟨free, joined⟩
    · rw [refused]
      exact ⟨nofun, fun free => absurd same (free.1 other member)⟩
    · rw [refused]
      exact ⟨nofun, fun free => absurd free.2 (Nat.not_lt.mpr full)⟩
    · exact ⟨fun _ => free, fun _ => ⟨_, joined⟩⟩
  refused code refused := by rw [PlayerRegistry.next, refused]
  restored joined accepted username named := by
    rw [remove_congr named]
    exact remove_join registry joined player accepted

theorem Holds.answersRemoval (holds : registry.Holds capacity players) (username : String)
    (connection : ConnectionId) : registry.AnswersRemoval players username connection := by
  have taken (player : Player) : (Request.remove username connection).takes player = true ↔
      player.key = canonicalName username ∧ player.connection = connection := by
    rw [Request.takes, Bool.and_eq_true, beq_iff_eq, beq_iff_eq, eq_comm, eq_comm (a := connection)]
  rcases holds.remove_cases username connection with
    ⟨player, member, own, removed⟩ | ⟨others, removed⟩
  · have named := (taken player).mp own
    refine ⟨fun other standing same _ => ?_, fun foreign => ?_⟩
    · have found := holds.find?_iff.mpr ⟨standing, same⟩
      rw [holds.find?_iff.mpr ⟨member, named.1⟩] at found
      rw [removed, found]
    · exact absurd named.2 (foreign player member named.1)
  · refine ⟨fun other standing same own => ?_, fun _ => removed⟩
    have kept := others other standing
    rw [(taken other).mpr ⟨same, own⟩] at kept
    cases kept

end Answers

/-- Whatever was asked of a registry that began empty, it holds the players whom its history tells,
within its capacity and each under the own name: a player is in the game who was let in and whom
nobody has taken out since. A player who asks to join is refused for the name before being refused
for want of room, only the own connection takes a player out, and a player who has just joined and is
taken out leaves the registry as it was before. -/
theorem history_run (capacity : Nat) (requests : List Request) :
    let registry := (empty capacity).run requests
    let players := roster capacity requests
    registry.Holds capacity players ∧
      (∀ player, player ∈ players ↔ Present capacity requests player) ∧
      (∀ username player, registry.find? username = some player ↔
        player ∈ players ∧ player.key = canonicalName username) ∧
      (∀ player, registry.AnswersJoin players player) ∧
      ∀ username connection, registry.AnswersRemoval players username connection := by
  intro registry players
  have holds : registry.Holds capacity players := holds_run capacity requests
  exact ⟨holds, mem_roster_iff capacity requests, fun username player => holds.find?_iff,
    holds.answersJoin, holds.answersRemoval⟩

end GameServer.PlayerRegistry
