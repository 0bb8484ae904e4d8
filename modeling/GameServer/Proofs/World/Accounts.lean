import GameServer.Main
import GameServer.Proofs.Player.Spelling
import GameServer.Proofs.World.Approval
import Mathlib.Data.List.Dedup
import Mathlib.Data.List.Perm.Subperm

/- This file shows that nobody plays on a small server without an account of its own. -/

namespace GameServer

namespace AccountList

variable {accounts : AccountList} {username password : String}

/-- The names under which passwords are kept. -/
def keys (accounts : AccountList) : List String := (accounts.entries.map Prod.fst).dedup

/-- The code for a request. -/
def judge (accounts : AccountList) (request : AuthenticationRequest) : ResponseCode :=
  accounts.check request.credentials.username request.credentials.password

theorem mem_keys_of_password? (found : accounts.password? username = some password) :
    canonicalName username ∈ accounts.keys := by
  obtain ⟨entry, standing, _⟩ := Option.map_eq_some_iff.mp found
  have named := List.find?_some standing
  have member := List.mem_reverse.mp (List.mem_of_find?_eq_some standing)
  rw [keys, List.mem_dedup, ← eq_of_beq named]
  exact List.mem_map_of_mem member

/-- A list with accounts says yes only to the password of an account. -/
theorem check_success (full : accounts.entries ≠ [])
    (success : (Verdict.decided (accounts.check username password)).outcome.isSuccess = true) :
    password ≠ "" ∧ accounts.password? username = some password := by
  have refused : (Verdict.decided .invalidCredentials).outcome.isSuccess = false := by decide
  unfold check at success
  split at success
  · exact absurd (refused.symm.trans success) Bool.false_ne_true
  · next spoken =>
      rw [Bool.or_eq_true, not_or, Bool.not_eq_true, Bool.not_eq_true] at spoken
      rw [if_neg (by rw [List.isEmpty_iff]; exact full)] at success
      split at success
      · next known =>
          refine ⟨?_, known⟩
          rintro rfl
          cases spoken.2
      · exact absurd (refused.symm.trans success) Bool.false_ne_true

end AccountList

/-- A small server that takes its time over these requests, and decides about all others at once. If
there are none of these, it is the small server as it is. -/
def SmallServer.puttingOff (small : SmallServer) (late : AuthenticationRequest → Bool) : Server :=
  { small.toServer with
    authenticator := fun request =>
      if late request then none else small.toServer.authenticator request }

theorem SmallServer.trusts_puttingOff (small : SmallServer) (late : AuthenticationRequest → Bool) :
    (small.puttingOff late).Trusts (AccountList.ofPairs small.accounts).judge := by
  intro request code decided
  rw [puttingOff] at decided
  dsimp only at decided
  split at decided
  · cases decided
  · have same : Verdict.decided ((AccountList.ofPairs small.accounts).judge request) =
        .decided code := Option.some.inj decided
    exact Verdict.decided.inj same

namespace World

/-- In one of these turns the player's connection reads a login block with the player's name, which
is the name of an account, and with the password of that account, which is not empty. -/
def Presents (accounts : AccountList) (world : World) (list : List Turn) (player : Player) : Prop :=
  ∃ before picks after block, list = before ++ .moves player.connection picks :: after ∧
    (world.turns before).Hears player.connection block ∧ block.username = player.username ∧
    canonicalName block.username ∈ accounts.keys ∧ block.password ≠ "" ∧
    accounts.password? block.username = some block.password

theorem presents_turns {small : SmallServer} (full : small.accounts ≠ [])
    {late : AuthenticationRequest → Bool} {list : List Turn} (distinct : (connects list).Nodup)
    (fair : Fair (AccountList.ofPairs small.accounts).judge (start (small.puttingOff late)) list) :
    ∀ place ∈ ((start (small.puttingOff late)).turns list).registry.online,
      Presents (AccountList.ofPairs small.accounts) (start (small.puttingOff late)) list
        place.2 := by
  intro place standing
  have stored : (AccountList.ofPairs small.accounts).entries ≠ [] := mt List.map_eq_nil_iff.mp full
  obtain ⟨request, among, player, success⟩ :=
    admits_turns (small.trusts_puttingOff late) list distinct fair place standing
  obtain ⟨before, picks, after, block, split, heard, repeats⟩ := hears_of_asked among
  have number : request.session.connection = place.2.connection :=
    congrArg Player.connection player
  have username : request.credentials.username = place.2.username :=
    congrArg Player.username player
  obtain ⟨secret, known⟩ := AccountList.check_success stored success
  rw [number] at split heard
  rw [repeats] at username secret known
  exact ⟨before, picks, after, block, split, heard, username,
    AccountList.mem_keys_of_password? known, secret, known⟩

/-- Whoever is in the game on a small server with accounts came with the name and the password of an
account. However the name is spelled, nobody else is in the game under it, and there are no more
players than accounts. -/
theorem accounts_turns (small : SmallServer) (full : small.accounts ≠ [])
    (late : AuthenticationRequest → Bool) (list : List Turn) (distinct : (connects list).Nodup)
    (fair : Fair (AccountList.ofPairs small.accounts).judge (start (small.puttingOff late)) list) :
    let accounts := AccountList.ofPairs small.accounts
    let world := (start (small.puttingOff late)).turns list
    (∀ place ∈ world.registry.online,
      Presents accounts (start (small.puttingOff late)) list place.2) ∧
    (∀ one ∈ world.registry.online, ∀ other ∈ world.registry.online,
      canonicalName one.2.username = canonicalName other.2.username ∨
        Text.Respelled one.2.username other.2.username → one = other) ∧
    world.registry.size ≤ min small.settings.maxPlayers accounts.keys.length := by
  intro accounts world
  have housed : Housed small.settings.maxPlayers world :=
    housed_turns (small.puttingOff late) distinct
  have presents := presents_turns full distinct fair
  refine ⟨presents, ?single, ?bound⟩
  case single =>
    intro one standing other beside same
    have key : one.2.key = other.2.key := same.elim id Text.Respelled.canonicalName_eq
    exact List.inj_on_of_nodup_map housed.nodup_key standing beside key
  case bound =>
    refine Nat.le_min.mpr ⟨housed.capacity ▸ housed.room, ?_⟩
    have taken : (world.registry.online.map fun place => place.2.key) ⊆ accounts.keys := by
      intro key member
      obtain ⟨place, standing, rfl⟩ := List.mem_map.mp member
      obtain ⟨_, _, _, block, _, _, username, known, _⟩ := presents place standing
      rw [username] at known
      exact known
    have fewer := (List.subperm_of_subset housed.nodup_key taken).length_le
    rw [List.length_map] at fewer
    exact fewer

/-- A small server with one account, under which the client of the login block may come. -/
def smallServer : SmallServer := ⟨.standard, [("AB", "cd")]⟩

/-- The first connection has to wait for its verdict, and the second one does not. -/
def waitsFirst (request : AuthenticationRequest) : Bool := request.session.connection == 1

/-- Two connections come on one account before the verdict on the first one is there. -/
def comesAtOnce : List Turn :=
  comes 1 ++ comes 2 ++ [.happens (.resolve 1 (.decided .ok))] ++ [.moves 1 []] ++ [.moves 2 []]

theorem comesAtOnce_fair :
    Fair (AccountList.ofPairs smallServer.accounts).judge
      (start (smallServer.puttingOff waitsFirst)) comesAtOnce := by
  have asked : (start (smallServer.puttingOff waitsFirst)).asked (comes 1 ++ comes 2) =
      [⟨⟨1, none⟩, ⟨42, "ab", "cd", loginKeys, false⟩⟩,
        ⟨⟨2, none⟩, ⟨42, "ab", "cd", loginKeys, false⟩⟩] := by
    decide +kernel
  have silent : Fair (AccountList.ofPairs smallServer.accounts).judge
      (start (smallServer.puttingOff waitsFirst)) (comes 1 ++ comes 2) := by
    refine fair_of_silence fun number verdict member => ?_
    simp [comes] at member
  refine fair_concat.mpr ⟨fair_concat.mpr ⟨fair_concat.mpr ⟨silent, ?_⟩, nofun⟩, nofun⟩
  rintro number code ⟨⟩
  rw [asked]
  exact ⟨_, List.mem_cons_self, rfl, by decide +kernel⟩

/-- The first connection is in the game, and the second one is refused. -/
theorem accounts_turns_of_comesAtOnce :
    smallServer.accounts ≠ [] ∧ (connects comesAtOnce).Nodup ∧
      Fair (AccountList.ofPairs smallServer.accounts).judge
        (start (smallServer.puttingOff waitsFirst)) comesAtOnce ∧
      let world := (start (smallServer.puttingOff waitsFirst)).turns comesAtOnce
      world.registry.online.map Prod.fst = ["ab"] ∧
        world.resultOf 2 = some (.error (.authenticationFailed .accountOnline)) ∧
        world.registry.size ≤ min 2000 1 := by
  have full : smallServer.accounts ≠ [] := List.cons_ne_nil _ _
  have distinct : (connects comesAtOnce).Nodup := by decide
  obtain ⟨_, _, bound⟩ := accounts_turns smallServer full waitsFirst comesAtOnce distinct
    comesAtOnce_fair
  refine ⟨full, distinct, comesAtOnce_fair, ?_, ?_, bound⟩
  · decide +kernel
  · decide +kernel

end World

end GameServer
