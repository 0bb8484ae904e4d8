import GameServer.Proofs.Player.Registry

/- This file shows which spellings of a name are one account. -/

namespace GameServer

namespace Text

/-- Case does not matter, and an underscore is a space. -/
def folded (character : Char) : Char := if character = '_' then ' ' else character.toLower

/-- How many characters are trimmed in front, and how many behind. -/
def margins (characters : List Char) : Nat × Nat :=
  ((characters.takeWhile isBlank).length,
    ((characters.dropWhile isBlank).reverse.takeWhile isBlank).length)

/-- White space is spelled in one way. -/
theorem folded_of_isBlank (character : Char) (blank : isBlank character = true) :
    folded character = character := by
  have other : character ≠ '_' := by
    rintro rfl
    cases blank
  have lower : ¬(character.val ≥ 'A'.val ∧ character.val ≤ 'Z'.val) := by
    rintro ⟨above, below⟩
    have least : 65 ≤ character.toNat := UInt32.le_iff_toNat_le.mp above
    have most : character.toNat ≤ 90 := UInt32.le_iff_toNat_le.mp below
    simp only [isBlank, Bool.or_eq_true, Bool.and_eq_true, decide_eq_true_eq, beq_iff_eq] at blank
    omega
  rw [folded, if_neg other]
  exact dif_neg lower

theorem map_folded_of_isBlank {characters : List Char}
    (blank : ∀ character ∈ characters, isBlank character = true) :
    characters.map folded = characters :=
  (List.map_congr_left fun character member =>
    folded_of_isBlank character (blank character member)).trans (List.map_id _)

/-- A text is its margins and what is left of it when it is trimmed. -/
theorem exists_margins (characters : List Char) :
    ∃ front back, characters = front ++ trimChars characters ++ back ∧
      margins characters = (front.length, back.length) ∧
      (∀ character ∈ front, isBlank character = true) ∧
      ∀ character ∈ back, isBlank character = true := by
  refine ⟨characters.takeWhile isBlank,
    ((characters.dropWhile isBlank).reverse.takeWhile isBlank).reverse, ?_, ?_, ?_, ?_⟩
  · rw [List.append_assoc, trimChars, ← List.reverse_append, List.takeWhile_append_dropWhile,
      List.reverse_reverse, List.takeWhile_append_dropWhile]
  · rw [margins, List.length_reverse]
  · exact fun character member => List.all_eq_true.mp List.all_takeWhile character member
  · intro character member
    exact List.all_eq_true.mp List.all_takeWhile character (List.mem_reverse.mp member)

/-- Texts of one spelling are trimmed alike if the same is trimmed off them. -/
theorem folded_trim_eq {first second : List Char}
    (same : first.map folded = second.map folded) (margin : margins first = margins second) :
    (trimChars first).map folded = (trimChars second).map folded := by
  obtain ⟨front, back, whole, sizes, _, _⟩ := exists_margins first
  obtain ⟨before, behind, other, lengths, _, _⟩ := exists_margins second
  rw [sizes, lengths, Prod.mk.injEq] at margin
  rw [whole, other] at same
  simp only [List.map_append] at same
  obtain ⟨left, _⟩ := List.append_inj' same (by simpa using margin.2)
  exact (List.append_inj left (by simpa using margin.1)).2

/-- The white space in front of a spelling is what is trimmed there and what stands in front of what is
left, unless nothing but white space is left. -/
theorem length_takeWhile_folded (characters : List Char)
    (solid : ∃ character ∈ characters.map folded, isBlank character = false) :
    ((characters.map folded).takeWhile isBlank).length =
      (margins characters).1 +
        (((trimChars characters).map folded).takeWhile isBlank).length := by
  obtain ⟨front, back, whole, sizes, before, behind⟩ := exists_margins characters
  have spelled : characters.map folded = front ++ ((trimChars characters).map folded ++ back) := by
    conv_lhs => rw [whole]
    rw [List.map_append, List.map_append, map_folded_of_isBlank before,
      map_folded_of_isBlank behind, List.append_assoc]
  have stops : (((trimChars characters).map folded).takeWhile isBlank).length ≠
      ((trimChars characters).map folded).length := by
    intro all
    have blank := ((List.takeWhile_prefix isBlank).eq_of_length all)
    obtain ⟨character, member, seen⟩ := solid
    have covered : isBlank character = true := by
      rw [spelled, List.mem_append, List.mem_append] at member
      rcases member with inFront | inside | inBack
      · exact before character inFront
      · rw [← blank] at inside
        exact List.all_eq_true.mp List.all_takeWhile character inside
      · exact behind character inBack
    rw [seen] at covered
    cases covered
  rw [spelled, List.takeWhile_append_of_pos before, List.length_append, List.takeWhile_append,
    if_neg stops, sizes]

/-- Texts of one spelling that are trimmed alike have the same trimmed off them. -/
theorem margins_eq {first second : List Char} (same : first.map folded = second.map folded)
    (solid : ∃ character ∈ first.map folded, isBlank character = false)
    (trimmed : (trimChars first).map folded = (trimChars second).map folded) :
    margins first = margins second := by
  have front := length_takeWhile_folded first solid
  have before := length_takeWhile_folded second (same ▸ solid)
  rw [← same, ← trimmed] at before
  obtain ⟨_, _, whole, sizes, _, _⟩ := exists_margins first
  obtain ⟨_, _, other, lengths, _, _⟩ := exists_margins second
  have total := congrArg List.length whole
  have count := congrArg List.length other
  have long := congrArg List.length same
  have left := congrArg List.length trimmed
  simp only [List.length_append, List.length_map] at total count long left
  rw [sizes] at front ⊢
  rw [lengths] at before ⊢
  have ahead := Nat.add_right_cancel (front.symm.trans before)
  dsimp only at ahead
  exact Prod.ext ahead (by dsimp only; omega)

/-- White space at the ends is trimmed, however much there is of it. -/
theorem trimChars_append {front core back : List Char}
    (before : ∀ character ∈ front, isBlank character = true)
    (behind : ∀ character ∈ back, isBlank character = true) :
    trimChars (front ++ core ++ back) = trimChars core := by
  rw [trimChars, trimChars, List.append_assoc, List.dropWhile_append_of_pos before,
    List.dropWhile_append]
  split
  · next none =>
      have blank : back.dropWhile isBlank = [] := by
        rw [← List.append_nil back, List.dropWhile_append_of_pos behind, List.dropWhile_nil]
      rw [blank, List.isEmpty_iff.mp none]
  · have reversed : ∀ character ∈ back.reverse, isBlank character = true :=
      fun character member => behind character (List.mem_reverse.mp member)
    rw [List.reverse_append, List.dropWhile_append_of_pos reversed]

/-- Two spellings of a name that differ in the white space around it, in the case of letters and in
underscores for inner spaces. -/
def Respelled (first second : String) : Prop :=
  ∃ front core back before heart behind : List Char,
    first.toList = front ++ core ++ back ∧ second.toList = before ++ heart ++ behind ∧
      (∀ character ∈ front ++ back ++ (before ++ behind), isBlank character = true) ∧
      trimChars core = core ∧ trimChars heart = heart ∧ core.map folded = heart.map folded

end Text

/-- The name in lower case and with a space for each underscore. -/
def spelling (name : String) : String := String.ofList (name.toList.map Text.folded)

theorem canonicalName_eq (name : String) :
    canonicalName name = String.ofList ((Text.trimChars name.toList).map Text.folded) := rfl

/-- However a name is respelled, it is the name of one account. -/
theorem Text.Respelled.canonicalName_eq {first second : String}
    (respelled : Text.Respelled first second) : canonicalName first = canonicalName second := by
  obtain ⟨front, core, back, before, heart, behind, one, other, blank, solid, hard, same⟩ :=
    respelled
  obtain ⟨outer, inner⟩ := List.forall_mem_append.mp blank
  obtain ⟨ahead, after⟩ := List.forall_mem_append.mp outer
  obtain ⟨leading, trailing⟩ := List.forall_mem_append.mp inner
  rw [GameServer.canonicalName_eq, GameServer.canonicalName_eq, one, other,
    Text.trimChars_append ahead after, Text.trimChars_append leading trailing, solid, hard, same]

namespace PlayerRegistry

/-- What a server asks of its registry. -/
inductive Request where
  | join (player : Player)
  | remove (username : String) (connection : ConnectionId)

/-- A player who is refused leaves the registry as it was. -/
def next (registry : PlayerRegistry) : Request → PlayerRegistry
  | .join player =>
      match registry.join player with
      | .ok joined => joined
      | .error _ => registry
  | .remove username connection => (registry.remove username connection).2

/-- Requests are answered one after another. -/
def run (registry : PlayerRegistry) (requests : List Request) : PlayerRegistry :=
  requests.foldl next registry

/-- Every player stands under the own key and under no key stand two. -/
structure Kept (registry : PlayerRegistry) : Prop where
  single : registry.Single
  own : ∀ place ∈ registry.online, place = entry place.2

theorem remove_sublist (registry : PlayerRegistry) (username : String) (connection : ConnectionId) :
    (registry.remove username connection).2.online.Sublist registry.online := by
  unfold remove
  split
  · split
    · exact List.eraseP_sublist
    · exact .refl _
  · exact .refl _

variable {registry : PlayerRegistry}

theorem Kept.next (kept : registry.Kept) (request : Request) : (registry.next request).Kept := by
  cases request with
  | join player =>
      cases joined : registry.join player with
      | error code =>
          rw [PlayerRegistry.next, joined]
          exact kept
      | ok after =>
          rw [PlayerRegistry.next, joined]
          refine ⟨single_join kept.single joined, ?_⟩
          obtain ⟨_, _, rfl⟩ := join_ok joined
          exact List.forall_mem_cons.mpr ⟨rfl, kept.own⟩
  | remove username connection =>
      have fewer := remove_sublist registry username connection
      exact ⟨kept.single.sublist (fewer.map Prod.fst),
        fun place member => kept.own place (fewer.subset member)⟩

theorem Kept.run (kept : registry.Kept) (requests : List Request) : (registry.run requests).Kept := by
  induction requests generalizing registry with
  | nil => exact kept
  | cons request rest ih => exact ih (kept.next request)

theorem kept_empty (capacity : Nat) : (empty capacity).Kept :=
  ⟨List.nodup_nil, List.forall_mem_nil _⟩

/-- Two names stand for one player. -/
structure OneAccount (registry : PlayerRegistry) (first second : String) : Prop where
  found : registry.find? first = registry.find? second
  online : registry.isOnline first = registry.isOnline second
  removed : ∀ connection, registry.remove first connection = registry.remove second connection
  refused : registry.isOnline first = true → ∀ player, player.username = second →
    registry.join player = .error .accountOnline ∧ registry.next (.join player) = registry
  single : ∀ one ∈ registry.online, ∀ other ∈ registry.online,
    one.2.username = first → other.2.username = second → one = other

theorem Kept.oneAccount (kept : registry.Kept) {first second : String}
    (key : canonicalName first = canonicalName second) : registry.OneAccount first second := by
  have found : registry.find? first = registry.find? second := by rw [find?, find?, key]
  have online : registry.isOnline first = registry.isOnline second := by
    rw [isOnline, isOnline, found]
  refine ⟨found, online, ?_, ?_, ?_⟩
  · intro connection
    rw [remove, remove, found, key]
  · rintro standing player rfl
    have refused : registry.join player = .error .accountOnline :=
      if_pos (online.symm.trans standing)
    exact ⟨refused, by rw [PlayerRegistry.next, refused]⟩
  · rintro one standing other beside rfl rfl
    refine List.inj_on_of_nodup_map kept.single standing beside ?_
    rw [kept.own one standing, kept.own other beside]
    exact key

/-- A player of this name on this connection. -/
def sample (username : String) (connection : ConnectionId) : Player :=
  ⟨0, username, 0, false, connection⟩

/-- Names that are one account while a player of the first name is in the game have one key. -/
theorem canonicalName_eq_of_oneAccount {first second : String}
    (account : ((empty 1).run [.join (sample first 0)]).OneAccount first second) :
    canonicalName first = canonicalName second := by
  have online : ((empty 1).run [.join (sample first 0)]).online =
      [(canonicalName first, sample first 0)] := rfl
  have found := account.found
  rw [find?, find?, online, List.lookup_cons_self] at found
  apply Classical.byContradiction
  intro other
  have apart : (canonicalName second == canonicalName first) = false :=
    beq_eq_false_iff_ne.mpr (Ne.symm other)
  rw [List.lookup_cons, apart] at found
  cases found

/-- Names of one spelling stand for one player in every registry that began empty, whatever was asked
of it, if the same white space is trimmed off both. Unless they are white space alone, they do only
then. -/
theorem oneAccount_iff (first second : String) (same : spelling first = spelling second) :
    (Text.margins first.toList = Text.margins second.toList →
      ∀ capacity requests, ((empty capacity).run requests).OneAccount first second) ∧
    ((∃ character ∈ (spelling first).toList, Text.isBlank character = false) →
      (∀ capacity requests, ((empty capacity).run requests).OneAccount first second) →
        Text.margins first.toList = Text.margins second.toList) := by
  have spelled : first.toList.map Text.folded = second.toList.map Text.folded :=
    String.ofList_injective same
  refine ⟨?_, ?_⟩
  · intro margin capacity requests
    have key : canonicalName first = canonicalName second := by
      rw [canonicalName_eq, canonicalName_eq, Text.folded_trim_eq spelled margin]
    exact ((kept_empty capacity).run requests).oneAccount key
  · intro solid accounts
    rw [spelling, String.toList_ofList] at solid
    have key := canonicalName_eq_of_oneAccount (accounts 1 [.join (sample first 0)])
    rw [canonicalName_eq, canonicalName_eq] at key
    exact Text.margins_eq spelled solid (String.ofList_injective key)

theorem oneAccount_iff_of_ash :
    spelling "Mod_Ash" = spelling "mod ash" ∧
      Text.margins "Mod_Ash".toList = Text.margins "mod ash".toList ∧
      let registry := (empty 10).run [.join (sample "Mod_Ash" 1)]
      registry.isOnline "Mod_Ash" = true ∧ registry.isOnline "mod ash" = true ∧
        registry.join (sample "mod ash" 2) = .error .accountOnline := by
  have same : spelling "Mod_Ash" = spelling "mod ash" := by decide +kernel
  have margin : Text.margins "Mod_Ash".toList = Text.margins "mod ash".toList := by decide +kernel
  have standing : ((empty 10).run [.join (sample "Mod_Ash" 1)]).isOnline "Mod_Ash" = true := by
    decide +kernel
  have account := (oneAccount_iff "Mod_Ash" "mod ash" same).1 margin 10 [.join (sample "Mod_Ash" 1)]
  exact ⟨same, margin, standing, account.online.symm.trans standing,
    (account.refused standing (sample "mod ash" 2) rfl).1⟩

/-- White space is trimmed before an underscore becomes a space, so these names of one spelling are
two players. -/
theorem two_accounts :
    spelling "_a" = spelling " a" ∧
      let registry := (empty 10).run [.join (sample "_a" 1)]
      registry.isOnline "_a" = true ∧ registry.isOnline " a" = false ∧
        (registry.remove "_a" 1).1 = some (sample "_a" 1) ∧ (registry.remove " a" 1).1 = none ∧
        (registry.next (.join (sample " a" 2))).size = 2 := by
  decide +kernel

end PlayerRegistry

end GameServer
