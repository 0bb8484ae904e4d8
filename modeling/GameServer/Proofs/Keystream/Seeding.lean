import GameServer.Isaac
import Mathlib.Data.Finite.Prod
import Mathlib.Data.Fintype.Pi
import Mathlib.Logic.Equiv.Basic

/- This file shows that different seeds make different memories. -/

namespace GameServer.Isaac

/-- A seed of any length is cut to 256 words or filled up with zeros. -/
def padded (seed : List UInt32) : Vector UInt32 256 := Vector.ofFn fun position => seed.getD position 0

namespace Lanes

@[simp] theorem length_words (lanes : Lanes) : lanes.words.length = 8 := rfl

theorem words_injective : Function.Injective words := by
  intro left right same
  obtain ⟨l0, l1, l2, l3, l4, l5, l6, l7⟩ := left
  obtain ⟨r0, r1, r2, r3, r4, r5, r6, r7⟩ := right
  simpa [words] using same

theorem getElem?_words_ofWords (words : List UInt32) (place : Nat) (inside : place < 8) :
    (ofWords words).words[place]? = some (words.getD place 0) := by
  have lane : place = 0 ∨ place = 1 ∨ place = 2 ∨ place = 3 ∨ place = 4 ∨ place = 5 ∨ place = 6 ∨
      place = 7 := by omega
  rcases lane with rfl | rfl | rfl | rfl | rfl | rfl | rfl | rfl <;> rfl

/-- The round before a round. -/
def unround (shift : UInt32 → UInt32) (lanes : Lanes) : Lanes :=
  let second := lanes.w0 - lanes.w1
  ⟨lanes.w7 ^^^ shift second, second, lanes.w1, lanes.w2 - lanes.w7, lanes.w3, lanes.w4, lanes.w5,
    lanes.w6⟩

/-- A round is undone, whatever it shifts by: the lane that is shifted can be recovered first. -/
def roundEquiv (shift : UInt32 → UInt32) : Lanes ≃ Lanes where
  toFun := round shift
  invFun := unround shift
  left_inv lanes := by
    simp only [round, unround, UInt32.add_sub_cancel, UInt32.xor_assoc, UInt32.xor_self,
      UInt32.xor_zero]
  right_inv lanes := by
    simp only [round, unround, UInt32.sub_add_cancel, UInt32.xor_assoc, UInt32.xor_self,
      UInt32.xor_zero]

/-- Eight rounds are undone one after another. -/
def mixEquiv : Lanes ≃ Lanes :=
  (roundEquiv (· <<< 11)).trans <| (roundEquiv (· >>> 2)).trans <| (roundEquiv (· <<< 8)).trans <|
    (roundEquiv (· >>> 16)).trans <| (roundEquiv (· <<< 10)).trans <|
      (roundEquiv (· >>> 4)).trans <| (roundEquiv (· <<< 8)).trans (roundEquiv (· >>> 9))

theorem mix_injective : Function.Injective mix := mixEquiv.injective

theorem add_injective (lanes : Lanes) : Function.Injective lanes.add := by
  intro left right same
  simp only [add, mk.injEq, UInt32.add_right_inj] at same
  cases left
  cases right
  simpa using same

theorem absorb_cons (lanes group : Lanes) (rest : List Lanes) :
    lanes.absorb (group :: rest) = (lanes.add group).mix :: (lanes.add group).mix.absorb rest := rfl

@[simp] theorem length_absorb (lanes : Lanes) (groups : List Lanes) :
    (lanes.absorb groups).length = groups.length := by
  induction groups generalizing lanes with
  | nil => rfl
  | cons group rest ih => simp [absorb, ih]

/-- From the mixes of a pass, its groups are recovered one after another. -/
theorem absorb_injective (lanes : Lanes) : Function.Injective lanes.absorb := by
  intro left right same
  induction left generalizing lanes right with
  | nil =>
      have size := congrArg List.length same
      simp only [length_absorb, List.length_nil] at size
      exact (List.length_eq_zero_iff.mp size.symm).symm
  | cons group rest ih =>
      cases right with
      | nil => cases same
      | cons other more =>
          simp only [absorb_cons, List.cons.injEq] at same
          obtain ⟨mixed, later⟩ := same
          rw [mixed] at later
          rw [add_injective lanes (mix_injective mixed), ih _ later]

/-- A second pass begins with the last mix of the first pass. Its later mixes tell that last mix, and
then its first one tells the rest. -/
theorem absorb_again_injective (start : Lanes) {left right : List Lanes} (several : 1 < left.length)
    (same : (left.getLastD start).absorb left = (right.getLastD start).absorb right) :
    left = right := by
  have size := congrArg List.length same
  simp only [length_absorb] at size
  match left, right with
  | [_], _ => simp at several
  | _ :: _ :: _, [_] => simp at size
  | group :: second :: rest, other :: another :: more =>
      rw [absorb_cons _ group, absorb_cons _ other, List.cons.injEq] at same
      obtain ⟨mixed, later⟩ := same
      rw [mixed] at later
      have tails := absorb_injective _ later
      have last : (group :: second :: rest).getLastD start =
          (other :: another :: more).getLastD start := by
        simp only [List.getLastD_cons, List.cons.injEq] at tails ⊢
        rw [tails.1, tails.2]
      rw [last] at mixed
      rw [add_injective _ (mix_injective mixed), tails]

end Lanes

section Groups

variable (groups : List Lanes)

theorem length_flatMap_words : (groups.flatMap Lanes.words).length = 8 * groups.length := by
  induction groups with
  | nil => rfl
  | cons group rest ih =>
      simp only [List.flatMap_cons, List.length_append, Lanes.length_words, ih, List.length_cons]
      omega

/-- The words of the groups, by group and lane. -/
theorem getElem?_flatMap_words (index lane : Nat) (inside : lane < 8) :
    (groups.flatMap Lanes.words)[8 * index + lane]? = groups[index]?.bind (·.words[lane]?) := by
  induction groups generalizing index with
  | nil => simp
  | cons group rest ih =>
      rw [List.flatMap_cons]
      cases index with
      | zero =>
          rw [List.getElem?_append_left (by simp; omega)]
          simp
      | succ index =>
          have place : 8 * (index + 1) + lane = group.words.length + (8 * index + lane) := by
            rw [Lanes.length_words]
            omega
          rw [place, List.getElem?_append_right (Nat.le_add_right _ _), Nat.add_sub_cancel_left, ih]
          simp

theorem flatMap_words_injective :
    Function.Injective fun groups : List Lanes => groups.flatMap Lanes.words := by
  intro left right same
  induction left generalizing right with
  | nil =>
      have size := congrArg List.length same
      simp only [length_flatMap_words, List.length_nil] at size
      exact (List.length_eq_zero_iff.mp (by omega)).symm
  | cons group rest ih =>
      cases right with
      | nil => simp [Lanes.words] at same
      | cons other more =>
          simp only [List.flatMap_cons] at same
          obtain ⟨first, later⟩ := List.append_inj same rfl
          rw [Lanes.words_injective first, ih later]

/-- Groups that fill a memory are laid out in it one behind the other. -/
theorem toList_memoryOfGroups (full : groups.length = 32) :
    (memoryOfGroups groups).toList = groups.flatMap Lanes.words := by
  have size := length_flatMap_words groups
  apply List.ext_getElem
  · simp [size, full]
  · intro place _ inside
    simp [memoryOfGroups, List.getElem?_eq_getElem inside]

end Groups

@[simp] theorem length_seedGroups (seed : List UInt32) : (seedGroups seed).length = 32 := by
  simp [seedGroups]

@[simp] theorem length_seededGroups (seed : List UInt32) : (seededGroups seed).length = 32 := by
  simp [seededGroups]

/-- The groups of a seed are its words. -/
theorem flatMap_seedGroups (seed : List UInt32) :
    (seedGroups seed).flatMap Lanes.words = (padded seed).toList := by
  apply List.ext_getElem?
  intro place
  by_cases inside : place < 256
  · have split : 8 * (place / 8) + place % 8 = place := Nat.div_add_mod place 8
    have lane : place % 8 < 8 := Nat.mod_lt place (by decide)
    have group : (seedGroups seed)[place / 8]? =
        some (Lanes.ofWords (seed.drop (8 * (place / 8)))) := by
      rw [seedGroups, List.getElem?_map, List.getElem?_range (by omega), Option.map_some]
    have words := getElem?_flatMap_words (seedGroups seed) (place / 8) (place % 8) lane
    rw [split, group, Option.bind_some, Lanes.getElem?_words_ofWords _ _ lane] at words
    rw [words]
    simp [padded, inside, split]
  · rw [List.getElem?_eq_none, List.getElem?_eq_none]
    · simp
      omega
    · simp
      omega

theorem seedGroups_eq_iff (first second : List UInt32) :
    seedGroups first = seedGroups second ↔ padded first = padded second := by
  rw [← flatMap_words_injective.eq_iff, ← Vector.toList_inj]
  simp only [flatMap_seedGroups]

theorem seededGroups_eq_iff (first second : List UInt32) :
    seededGroups first = seededGroups second ↔ padded first = padded second := by
  rw [← seedGroups_eq_iff]
  constructor
  · intro same
    refine Lanes.absorb_injective _ (Lanes.absorb_again_injective Lanes.start ?_ same)
    simp
  · intro same
    rw [seededGroups, same, seededGroups]

/-- Two seeds make one generator exactly if they have the same words. -/
theorem ofSeed_memory_eq_iff (first second : List UInt32) :
    (Core.ofSeed first).memory = (Core.ofSeed second).memory ↔ padded first = padded second := by
  rw [← seededGroups_eq_iff, ← flatMap_words_injective.eq_iff, ← Vector.toList_inj]
  simp only [Core.ofSeed, toList_memoryOfGroups, length_seededGroups]

instance : Finite UInt32 := Finite.of_injective UInt32.toFin fun _ _ => UInt32.toFin_inj.mp

instance (size : Nat) : Finite (Vector UInt32 size) :=
  Finite.of_injective (fun (words : Vector UInt32 size) (place : Fin size) => words[place]) <| by
    intro left right same
    apply Vector.ext
    intro place inside
    exact congrFun same ⟨place, inside⟩

theorem padded_toList (words : Vector UInt32 256) : padded words.toList = words := by
  apply Vector.ext
  intro place inside
  simp [padded]

/-- Every memory is made by the seeding of exactly one list of 256 words. -/
theorem seeding_bijective :
    Function.Bijective fun words : Vector UInt32 256 => (Core.ofSeed words.toList).memory := by
  refine Finite.injective_iff_bijective.mp fun left right same => ?_
  have words := (ofSeed_memory_eq_iff left.toList right.toList).mp same
  rwa [padded_toList, padded_toList] at words

end GameServer.Isaac
