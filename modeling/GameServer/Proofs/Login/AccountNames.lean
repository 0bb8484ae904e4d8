import GameServer.Accounts

/- This file shows which accounts let their owners in. -/

namespace GameServer

theorem canonicalName_eq_empty_iff (name : String) :
    canonicalName name = "" ↔ Text.trim name = "" := by
  simp [canonicalName, Text.trim]

namespace AccountList

/-- A name that is not white space alone, and a password. -/
def Spoken (username password : String) : Prop := Text.trim username ≠ "" ∧ password ≠ ""

instance (username password : String) : Decidable (Spoken username password) :=
  inferInstanceAs (Decidable (_ ∧ _))

/-- The account has the name, however the name is spelled. -/
def Named (pair : String × String) (username : String) : Prop :=
  canonicalName pair.1 = canonicalName username

/-- The last account of the name has the password. -/
def LastHas (pairs : List (String × String)) (username password : String) : Prop :=
  ∃ front pair back, pairs = front ++ pair :: back ∧ Named pair username ∧ pair.2 = password ∧
    ∀ later ∈ back, ¬ Named later username

/-- All accounts of a name have one password, unless the name is white space alone. -/
def Agree (pairs : List (String × String)) : Prop :=
  ∀ pair ∈ pairs, Text.trim pair.1 ≠ "" → ∀ other ∈ pairs, Named other pair.1 → other.2 = pair.2

section

variable {pairs order : List (String × String)} {username password : String}
  {pair : String × String}

theorem lastHas_concat (named : Named pair username) (front : List (String × String)) :
    LastHas (front ++ [pair]) username pair.2 :=
  ⟨front, pair, [], rfl, named, rfl, List.forall_mem_nil _⟩

theorem password?_ofPairs (pairs : List (String × String)) (username : String) :
    (ofPairs pairs).password? username =
      (pairs.reverse.find? fun pair => canonicalName pair.1 == canonicalName username).map
        Prod.snd := by
  rw [password?, ofPairs, ← List.map_reverse, List.find?_map, Option.map_map]
  rfl

/-- The list is searched from its end. -/
theorem password?_eq_some_iff :
    (ofPairs pairs).password? username = some password ↔ LastHas pairs username password := by
  rw [password?_ofPairs, Option.map_eq_some_iff]
  constructor
  · rintro ⟨pair, found, said⟩
    obtain ⟨named, back, front, split, others⟩ := List.find?_eq_some_iff_append.mp found
    refine ⟨front.reverse, pair, back.reverse, ?_, eq_of_beq named, said, ?_⟩
    · rw [← List.reverse_reverse pairs, split]
      simp
    · intro later member same
      have other := others later (List.mem_reverse.mp member)
      simp [show canonicalName later.1 = canonicalName username from same] at other
  · rintro ⟨front, pair, back, rfl, named, said, others⟩
    refine ⟨pair, List.find?_eq_some_iff_append.mpr ⟨beq_iff_eq.mpr named, back.reverse,
      front.reverse, by simp, ?_⟩, said⟩
    intro later member
    have other := others later (List.mem_reverse.mp member)
    exact bne_iff_ne.mpr other

/-- There are accounts of the name, and the last one has a password. -/
theorem exists_lastHas (standing : pair ∈ pairs) (named : Named pair username) :
    ∃ password, LastHas pairs username password := by
  cases found : (ofPairs pairs).password? username with
  | some password => exact ⟨password, password?_eq_some_iff.mp found⟩
  | none =>
      rw [password?_ofPairs, Option.map_eq_none_iff, List.find?_eq_none] at found
      exact absurd (beq_iff_eq.mpr named) (found pair (List.mem_reverse.mpr standing))

theorem LastHas.exists_pair (decided : LastHas pairs username password) :
    ∃ pair ∈ pairs, Named pair username ∧ pair.2 = password := by
  obtain ⟨front, pair, back, rfl, named, said, _⟩ := decided
  exact ⟨pair, List.mem_append_right _ List.mem_cons_self, named, said⟩

theorem LastHas.unique {other : String} (decided : LastHas pairs username password)
    (again : LastHas pairs username other) : other = password := by
  rw [← password?_eq_some_iff] at decided again
  rw [decided] at again
  exact (Option.some.inj again).symm

/-- A list with accounts lets in whoever gives the password of the name. -/
theorem check_ofPairs (full : pairs ≠ []) (username password : String) :
    (ofPairs pairs).check username password =
      if Spoken username password ∧ (ofPairs pairs).password? username = some password then .ok
      else .invalidCredentials := by
  have stored : (ofPairs pairs).entries.isEmpty = false := by simp [ofPairs, full]
  rw [check, stored]
  by_cases blank : Text.trim username = ""
  · simp [Spoken, blank]
  · by_cases empty : password = ""
    · simp [Spoken, empty]
    · simp [Spoken, blank, empty]

theorem check_eq_ok_iff (full : pairs ≠ []) :
    (ofPairs pairs).check username password = .ok ↔
      Spoken username password ∧ LastHas pairs username password := by
  rw [check_ofPairs full, ← password?_eq_some_iff]
  split
  · next met => exact ⟨fun _ => met, fun _ => rfl⟩
  · next failed => exact ⟨nofun, fun met => absurd met failed⟩

/-- Any account may be the last one. -/
theorem exists_perm_concat (standing : pair ∈ pairs) : ∃ front, (front ++ [pair]).Perm pairs := by
  obtain ⟨front, back, rfl⟩ := List.append_of_mem standing
  refine ⟨front ++ back, ?_⟩
  rw [List.append_assoc]
  exact (List.perm_append_singleton pair back).append_left front

/-- An account lets its owner in whichever account is the last one. -/
theorem check_perms_iff (standing : pair ∈ pairs) (spoken : Spoken pair.1 pair.2) :
    (∀ order, order.Perm pairs → (ofPairs order).check pair.1 pair.2 = .ok) ↔
      ∀ other ∈ pairs, Named other pair.1 → other.2 = pair.2 := by
  constructor
  · intro accepts other member named
    obtain ⟨front, perm⟩ := exists_perm_concat member
    have accepted := (check_eq_ok_iff (by simp)).mp (accepts _ perm)
    exact accepted.2.unique (lastHas_concat named front)
  · intro same order perm
    have present := perm.mem_iff.mpr standing
    obtain ⟨password, decided⟩ := exists_lastHas present rfl
    obtain ⟨other, member, named, said⟩ := decided.exists_pair
    rw [← said, same other (perm.mem_iff.mp member) named] at decided
    exact (check_eq_ok_iff (List.ne_nil_of_mem present)).mpr ⟨spoken, decided⟩

theorem Agree.of_perm (agree : Agree pairs) (perm : order.Perm pairs) : Agree order :=
  fun pair standing spoken other member named =>
    agree pair (perm.mem_iff.mp standing) spoken other (perm.mem_iff.mp member) named

/-- If all accounts of a name agree, then it does not matter which one is the last. -/
theorem Agree.lastHas (agree : Agree pairs) (perm : order.Perm pairs)
    (spoken : Text.trim username ≠ "") (decided : LastHas order username password) :
    LastHas pairs username password := by
  obtain ⟨pair, standing, named, rfl⟩ := decided.exists_pair
  have present := perm.mem_iff.mp standing
  obtain ⟨password, final⟩ := exists_lastHas present named
  obtain ⟨other, member, alike, rfl⟩ := final.exists_pair
  have solid : Text.trim pair.1 ≠ "" := by
    rw [Ne, ← canonicalName_eq_empty_iff, show canonicalName pair.1 = _ from named,
      canonicalName_eq_empty_iff]
    exact spoken
  rw [← agree pair present solid other member (alike.trans named.symm)]
  exact final

/-- The order makes no difference if all accounts of a name agree, and else it does. -/
theorem check_perm_iff (full : pairs ≠ []) :
    (∀ order, order.Perm pairs → ∀ username password,
        (ofPairs order).check username password = (ofPairs pairs).check username password) ↔
      Agree pairs := by
  constructor
  · intro same
    -- The account that is put last is let in with its password, and so is the other one put last.
    have agrees {username : String} (spoken : Text.trim username ≠ "")
        (first : String × String) (standing : first ∈ pairs) (named : Named first username)
        (second : String × String) (member : second ∈ pairs) (alike : Named second username)
        (given : second.2 ≠ "") : second.2 = first.2 := by
      obtain ⟨front, perm⟩ := exists_perm_concat standing
      obtain ⟨before, other⟩ := exists_perm_concat member
      have accepted := (check_eq_ok_iff (by simp)).mpr
        ⟨⟨spoken, given⟩, lastHas_concat alike before⟩
      rw [same _ other, ← same _ perm, check_eq_ok_iff (by simp)] at accepted
      exact (lastHas_concat named front).unique accepted.2
    intro pair standing spoken other member named
    by_cases empty : other.2 = ""
    · by_cases mute : pair.2 = ""
      · rw [empty, mute]
      · exact (agrees spoken other member named pair standing rfl mute).symm
    · exact agrees spoken pair standing rfl other member named empty
  · intro agree order perm username password
    have stocked : order ≠ [] := fun empty => full (by rw [empty] at perm; exact perm.symm.eq_nil)
    rw [check_ofPairs full, check_ofPairs stocked]
    by_cases spoken : Text.trim username = ""
    · simp [Spoken, spoken]
    · have known : (ofPairs order).password? username = (ofPairs pairs).password? username := by
        apply Option.ext
        intro password
        rw [password?_eq_some_iff, password?_eq_some_iff]
        exact ⟨agree.lastHas perm spoken, (agree.of_perm perm).lastHas perm.symm spoken⟩
      rw [known]

end

/-- Of the accounts of one name the last one has the say. So an account lets its owner in, in
whatever order the accounts come, exactly if all accounts of the name have its password, and the order
makes no difference at all exactly if this holds of all accounts. -/
theorem check_orders (pairs : List (String × String)) (full : pairs ≠ []) :
    (∀ username password, (ofPairs pairs).check username password = .ok ↔
      Spoken username password ∧ LastHas pairs username password) ∧
    (∀ pair ∈ pairs, Spoken pair.1 pair.2 →
      ((∀ order, order.Perm pairs → (ofPairs order).check pair.1 pair.2 = .ok) ↔
        ∀ other ∈ pairs, Named other pair.1 → other.2 = pair.2)) ∧
    ((∀ order, order.Perm pairs → ∀ username password,
        (ofPairs order).check username password = (ofPairs pairs).check username password) ↔
      Agree pairs) :=
  ⟨fun _ _ => check_eq_ok_iff full, fun _ => check_perms_iff, check_perm_iff full⟩

/-- Two accounts of a list, and a third one that takes the place of the first if it comes later. -/
def clashing : List (String × String) :=
  [("Mod_Ash", "hunter2"), ("zezima", "secret"), ("mod ash", "hunter3")]

theorem check_orders_of_zezima :
    clashing ≠ [] ∧ ("zezima", "secret") ∈ clashing ∧ Spoken "zezima" "secret" ∧
      (ofPairs clashing.reverse).check "zezima" "secret" = .ok := by
  have full : clashing ≠ [] := List.cons_ne_nil _ _
  have spoken : Spoken "zezima" "secret" := by decide +kernel
  have agree : ∀ other ∈ clashing, Named other "zezima" → other.2 = "secret" := by
    simp only [Named]
    decide +kernel
  have standing : ("zezima", "secret") ∈ clashing := by simp [clashing]
  exact ⟨full, standing, spoken,
    ((check_orders clashing full).2.1 _ standing spoken).mpr agree _ (List.reverse_perm _)⟩

/-- Only one of two owners is let in, and which one depends on the order. -/
theorem only_one_let_in :
    (clashing.map Prod.fst).Nodup ∧
      (ofPairs clashing).check "Mod_Ash" "hunter2" = .invalidCredentials ∧
      (ofPairs clashing).check "mod ash" "hunter3" = .ok ∧
      (ofPairs clashing.reverse).check "Mod_Ash" "hunter2" = .ok ∧
      (ofPairs clashing.reverse).check "mod ash" "hunter3" = .invalidCredentials := by
  decide +kernel

end AccountList

end GameServer
