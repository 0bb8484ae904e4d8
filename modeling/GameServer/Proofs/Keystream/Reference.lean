import GameServer.Proofs.Keystream.Separation

/- This file compares the generator with the published program over arrays. -/

namespace GameServer

/-- The program keeps an array of results, an array of memory and three words. -/
structure Reference where
  results : Vector UInt32 256
  memory : Vector UInt32 256
  a : UInt32
  b : UInt32
  c : UInt32

namespace Reference

open Isaac

/-- A word is written to an array only at one of its places. -/
def write? (words : Vector UInt32 256) (place : Nat) (word : UInt32) : Option (Vector UInt32 256) :=
  if inside : place < 256 then some (words.set place word) else none

/-- Words are written to an array one after another. -/
def writeAll? (words : Vector UInt32 256) (place : Nat) : List UInt32 → Option (Vector UInt32 256)
  | [] => some words
  | word :: rest => do writeAll? (← write? words place word) (place + 1) rest

/-- Eight words are read from an array. -/
def readGroup? (words : Vector UInt32 256) (place : Nat) : Option Lanes := do
  return ⟨← words[place]?, ← words[place + 1]?, ← words[place + 2]?, ← words[place + 3]?,
    ← words[place + 4]?, ← words[place + 5]?, ← words[place + 6]?, ← words[place + 7]?⟩

/-- The mix of the published program, with a variable for every word. -/
def mix (lanes : Lanes) : Lanes :=
  let ⟨a, b, c, d, e, f, g, h⟩ := lanes
  let a := a ^^^ b <<< 11
  let d := d + a
  let b := b + c
  let b := b ^^^ c >>> 2
  let e := e + b
  let c := c + d
  let c := c ^^^ d <<< 8
  let f := f + c
  let d := d + e
  let d := d ^^^ e >>> 16
  let g := g + d
  let e := e + f
  let e := e ^^^ f <<< 10
  let h := h + e
  let f := f + g
  let f := f ^^^ g >>> 4
  let a := a + f
  let g := g + h
  let g := g ^^^ h <<< 8
  let b := b + g
  let h := h + a
  let h := h ^^^ a >>> 9
  let c := c + h
  let a := a + b
  ⟨a, b, c, d, e, f, g, h⟩

/-- Eight words of an array are folded into the state, and the mix of the state replaces eight words of
the memory. -/
def foldGroup? (source : Vector UInt32 256 → Vector UInt32 256) (state : Lanes × Vector UInt32 256)
    (group : Nat) : Option (Lanes × Vector UInt32 256) := do
  let words ← readGroup? (source state.2) (8 * group)
  let mixed := mix (state.1.add words)
  let memory ← writeAll? state.2 (8 * group) mixed.words
  return (mixed, memory)

/-- A pass goes over the whole array that is folded in. -/
def pass? (source : Vector UInt32 256 → Vector UInt32 256) (state : Lanes × Vector UInt32 256) :
    Option (Lanes × Vector UInt32 256) :=
  (List.range 32).foldlM (foldGroup? source) state

/-- The state holds the golden ratio at first and is mixed four times. The first pass folds in the seed,
which stands in the results, and the second pass folds in the memory itself. -/
def randinit? (seed : List UInt32) : Option Reference := do
  let results := padded seed
  let golden : UInt32 := 0x9e3779b9
  let start := mix^[4] ⟨golden, golden, golden, golden, golden, golden, golden, golden⟩
  let seeded ← pass? (fun _ => results) (start, Vector.replicate 256 0)
  let stirred ← pass? id seeded
  return ⟨results, stirred.2, 0, 0, 0⟩

/-- Four turns of the loop shift by four amounts. -/
def stir (i : Nat) (a : UInt32) : UInt32 :=
  match i % 4 with
  | 0 => a ^^^ a <<< 13
  | 1 => a ^^^ a >>> 6
  | 2 => a ^^^ a <<< 2
  | _ => a ^^^ a >>> 16

/-- One turn of the loop over the memory. -/
def turn? (state : Reference) (i : Nat) : Option Reference := do
  let x ← state.memory[i]?
  let a := stir i state.a + (← state.memory[(i + 128) % 256]?)
  let y := (← state.memory[((x >>> 2) &&& 0xff).toNat]?) + a + state.b
  let memory ← write? state.memory i y
  let b := (← memory[((y >>> 10) &&& 0xff).toNat]?) + x
  let results ← write? state.results i b
  return ⟨results, memory, a, b, state.c⟩

/-- A pass over the memory fills the results. -/
def isaac? (state : Reference) : Option Reference :=
  let c := state.c + 1
  (List.range 256).foldlM turn? { state with b := state.b + c, c }

/-- The state after the pass that fills the results with the block of this number. -/
def block? (seed : List UInt32) : Nat → Option Reference
  | 0 => do isaac? (← randinit? seed)
  | index + 1 => do isaac? (← block? seed index)

section Arrays

variable {words : Vector UInt32 256} {groups : List Lanes} {group : Nat} {lanes : Lanes}

theorem write?_eq {place : Nat} (inside : place < 256) (word : UInt32) :
    write? words place word = some (words.set place word) := by
  rw [write?, dif_pos inside]

theorem writeAll?_eq (words : Vector UInt32 256) (written : List UInt32) {place : Nat}
    (inside : place + written.length ≤ 256) :
    ∃ after, writeAll? words place written = some after ∧
      after.toList = words.toList.take place ++ written ++
        words.toList.drop (place + written.length) := by
  induction written generalizing words place with
  | nil => exact ⟨words, rfl, by simp⟩
  | cons word rest ih =>
      simp only [List.length_cons] at inside
      have here : place < 256 := by omega
      have later : place + 1 + rest.length ≤ 256 := by omega
      obtain ⟨after, run, content⟩ := ih (words.set place word) later
      refine ⟨after, ?_, ?_⟩
      · rw [writeAll?, write?_eq here, Option.bind_eq_bind, Option.bind_some, run]
      · have short : place < words.toList.length := by simp [here]
        rw [content, Vector.toList_set, List.take_add_one, List.take_set_of_le (Nat.le_refl place),
          List.getElem?_set_self short, List.drop_set_of_lt (by omega)]
        simp [Nat.add_assoc, Nat.add_comm 1]

theorem readGroup?_eq (holds : words.toList = groups.flatMap Lanes.words)
    (found : groups[group]? = some lanes) : readGroup? words (8 * group) = some lanes := by
  have word (lane : Nat) (inside : lane < 8) : words[8 * group + lane]? = lanes.words[lane]? := by
    rw [← Vector.getElem?_toList, holds, getElem?_flatMap_words groups group lane inside, found,
      Option.bind_some]
  have first := word 0 (by decide)
  rw [Nat.add_zero] at first
  simp only [readGroup?, first, word 1 (by decide), word 2 (by decide), word 3 (by decide),
    word 4 (by decide), word 5 (by decide), word 6 (by decide), word 7 (by decide)]
  rfl

theorem writeAll?_group {before behind : List Lanes}
    (holds : words.toList = (before ++ lanes :: behind).flatMap Lanes.words) (mixed : Lanes) :
    ∃ after, writeAll? words (8 * before.length) mixed.words = some after ∧
      after.toList = (before ++ mixed :: behind).flatMap Lanes.words := by
  have size := congrArg List.length holds
  simp only [Vector.length_toList, length_flatMap_words, List.length_append, List.length_cons] at size
  have inside : 8 * before.length + mixed.words.length ≤ 256 := by
    rw [Lanes.length_words]
    omega
  obtain ⟨after, run, content⟩ := writeAll?_eq words mixed.words inside
  refine ⟨after, run, ?_⟩
  rw [content, holds]
  simp only [List.flatMap_append, List.flatMap_cons]
  rw [List.take_left' (length_flatMap_words before), ← List.append_assoc,
    List.drop_left' (by simp [Nat.mul_comm]), List.append_assoc]

end Arrays

theorem mix_eq (lanes : Lanes) : mix lanes = lanes.mix := rfl

section Passes

variable {source : Vector UInt32 256 → Vector UInt32 256} {groups old : List Lanes}

/-- A pass reads its next group, while the groups before it have been replaced in the memory. -/
def Feeds (source : Vector UInt32 256 → Vector UInt32 256) (groups old : List Lanes) : Prop :=
  ∀ (memory : Vector UInt32 256) (before : List Lanes) (lanes : Lanes),
    memory.toList = (before ++ old.drop before.length).flatMap Lanes.words →
      groups[before.length]? = some lanes →
        readGroup? (source memory) (8 * before.length) = some lanes

theorem feeds_const {results : Vector UInt32 256} (holds : results.toList = groups.flatMap Lanes.words)
    (old : List Lanes) : Feeds (fun _ => results) groups old :=
  fun _ _ _ _ found => readGroup?_eq holds found

theorem feeds_id (groups : List Lanes) : Feeds id groups groups := by
  intro memory before lanes holds found
  apply readGroup?_eq holds
  rw [List.getElem?_append_right (Nat.le_refl _), Nat.sub_self, List.getElem?_drop, Nat.add_zero, found]

theorem absorb_concat (lanes : Lanes) (groups : List Lanes) (group : Lanes) :
    lanes.absorb (groups ++ [group]) =
      lanes.absorb groups ++ [(((lanes.absorb groups).getLastD lanes).add group).mix] := by
  induction groups generalizing lanes with
  | nil => rfl
  | cons first rest ih =>
      simp only [List.cons_append, Lanes.absorb, ih, List.getLastD_cons]

/-- A pass replaces one group of the memory after another by the mixes of the groups that it reads. -/
theorem pass_prefix (feeds : Feeds source groups old) (lanes : Lanes) {memory : Vector UInt32 256}
    (holds : memory.toList = old.flatMap Lanes.words) (full : groups.length = 32) (count : Nat)
    (bound : count ≤ 32) :
    ∃ after, (List.range count).foldlM (foldGroup? source) (lanes, memory) =
        some ((lanes.absorb (groups.take count)).getLastD lanes, after) ∧
      after.toList = (lanes.absorb (groups.take count) ++ old.drop count).flatMap Lanes.words := by
  have size := congrArg List.length holds
  simp only [Vector.length_toList, length_flatMap_words] at size
  induction count with
  | zero => exact ⟨memory, rfl, holds⟩
  | succ count ih =>
      obtain ⟨before, run, content⟩ := ih (by omega)
      have inside : count < groups.length := by omega
      have inside_old : count < old.length := by omega
      have place : (lanes.absorb (groups.take count)).length = count := by
        rw [Lanes.length_absorb, List.length_take]
        omega
      -- Only the groups before this one have been replaced, so it is read as it stood.
      have read := feeds before (lanes.absorb (groups.take count)) groups[count]
        (by rw [place]; exact content) (by rw [place, List.getElem?_eq_getElem inside])
      rw [List.drop_eq_getElem_cons inside_old] at content
      obtain ⟨after, written, content⟩ := writeAll?_group content
        (((lanes.absorb (groups.take count)).getLastD lanes).add groups[count]).mix
      rw [place] at read written
      refine ⟨after, ?_, ?_⟩
      · rw [List.range_succ, List.foldlM_append, run]
        simp only [Option.bind_eq_bind, Option.bind_some, List.foldlM_cons, List.foldlM_nil, foldGroup?,
          read, mix_eq, written, ← List.take_append_getElem inside, absorb_concat]
        rw [List.getLastD_concat]
        rfl
      · rw [content, ← List.take_append_getElem inside, absorb_concat, List.append_assoc]
        rfl

theorem pass?_eq (feeds : Feeds source groups old) (lanes : Lanes) {memory : Vector UInt32 256}
    (holds : memory.toList = old.flatMap Lanes.words) (full : groups.length = 32) :
    ∃ after, pass? source (lanes, memory) = some ((lanes.absorb groups).getLastD lanes, after) ∧
      after.toList = (lanes.absorb groups).flatMap Lanes.words := by
  have size := congrArg List.length holds
  simp only [Vector.length_toList, length_flatMap_words] at size
  have result := pass_prefix feeds lanes holds full 32 (Nat.le_refl 32)
  rwa [List.take_of_length_le (by omega), List.drop_eq_nil_of_le (by omega), List.append_nil] at result

end Passes

/-- The seed is laid out in the memory as the generator lays it out. -/
theorem randinit?_eq (seed : List UInt32) :
    randinit? seed = some ⟨padded seed, (Core.ofSeed seed).memory, 0, 0, 0⟩ := by
  have zeros : (Vector.replicate 256 (0 : UInt32)).toList =
      (List.replicate 32 (⟨0, 0, 0, 0, 0, 0, 0, 0⟩ : Lanes)).flatMap Lanes.words := by
    have group : Lanes.words ⟨0, 0, 0, 0, 0, 0, 0, 0⟩ = List.replicate 8 0 := rfl
    rw [Vector.toList_replicate, List.flatMap_replicate, group, List.flatten_replicate_replicate]
  obtain ⟨first, run_first, holds_first⟩ :=
    pass?_eq (feeds_const (flatMap_seedGroups seed).symm _) Lanes.start zeros (length_seedGroups seed)
  obtain ⟨second, run_second, holds_second⟩ :=
    pass?_eq (feeds_id _) ((Lanes.start.absorb (seedGroups seed)).getLastD Lanes.start) holds_first
      (by rw [Lanes.length_absorb, length_seedGroups])
  have memory : second = (Core.ofSeed seed).memory := by
    apply Vector.toList_inj.mp
    rw [holds_second, Core.ofSeed, toList_memoryOfGroups _ (length_seededGroups seed), seededGroups]
  have start : mix^[4] ⟨0x9e3779b9, 0x9e3779b9, 0x9e3779b9, 0x9e3779b9, 0x9e3779b9, 0x9e3779b9,
      0x9e3779b9, 0x9e3779b9⟩ = Lanes.start := by
    simp only [Function.iterate_succ_apply, Function.iterate_zero_apply, mix_eq, Lanes.start]
  simp only [randinit?, start, run_first, run_second, memory, Option.bind_eq_bind, Option.bind_some]
  rfl

/-- The words of the program as the generator holds them. -/
def core (state : Reference) : Core := ⟨state.memory, state.a, state.b, state.c⟩

/-- The state of the program that holds the words of a generator. -/
def ofCore (core : Core) (results : Vector UInt32 256) : Reference :=
  ⟨results, core.memory, core.accumulator, core.last, core.counter⟩

theorem core_ofCore (core : Core) (results : Vector UInt32 256) : (ofCore core results).core = core :=
  rfl

theorem mask_toNat (word : UInt32) : (word &&& 0xff).toNat = (cell word).val := by
  rw [UInt32.toNat_and, cell, Fin.val_ofNat]
  exact Nat.and_two_pow_sub_one_eq_mod word.toNat 8

theorem stir_eq (position : Fin 256) (a : UInt32) :
    stir position.val a = a ^^^ shifted position a := by
  have turn : position.val % 4 = 0 ∨ position.val % 4 = 1 ∨ position.val % 4 = 2 ∨
      position.val % 4 = 3 := by omega
  rcases turn with turn | turn | turn | turn <;> simp only [stir, shifted, turn]

/-- A turn stays inside the arrays and does what a step does. -/
theorem turn?_eq (state : Reference) (position : Fin 256) :
    state.turn? position.val =
      (write? state.results position (state.core.step position).1).map
        (ofCore (state.core.step position).2) := by
  have read (words : Vector UInt32 256) (place : Fin 256) : words[place.val]? = some words[place] := by
    simp
  have across : (position.val + 128) % 256 = (position + 128 : Fin 256).val := rfl
  simp only [turn?, read, across, mask_toNat, stir_eq, write?_eq position.isLt, Option.bind_eq_bind,
    Option.bind_some, Option.map_some, Option.pure_def, core, ofCore, Core.step]

theorem steps_concat (core : Core) (positions : List (Fin 256)) (position : Fin 256) :
    core.steps (positions ++ [position]) =
      ((core.steps positions).1 ++ [((core.steps positions).2.step position).1],
        ((core.steps positions).2.step position).2) := by
  induction positions generalizing core with
  | nil => rfl
  | cons first rest ih => simp only [List.cons_append, Core.steps, ih]

/-- The first turns fill the first places of the results. -/
theorem turns_prefix (state : Reference) (count : Nat) (bound : count ≤ 256) :
    ∃ after, (List.range count).foldlM turn? state = some after ∧
      after.core = (state.core.steps ((List.finRange 256).take count)).2 ∧
      after.results.toList.take count = (state.core.steps ((List.finRange 256).take count)).1 := by
  induction count with
  | zero => exact ⟨state, rfl, rfl, rfl⟩
  | succ count ih =>
      obtain ⟨before, run, core_eq, results_eq⟩ := ih (by omega)
      have inside : count < (List.finRange 256).length := by
        rw [List.length_finRange]
        omega
      have positions : (List.finRange 256).take (count + 1) =
          (List.finRange 256).take count ++ [⟨count, bound⟩] := by
        rw [← List.take_append_getElem inside, List.getElem_finRange]
        simp only [Fin.cast_mk]
      have turn := turn?_eq before ⟨count, bound⟩
      rw [write?_eq bound, Option.map_some] at turn
      have concat := steps_concat state.core ((List.finRange 256).take count) ⟨count, bound⟩
      rw [← core_eq, ← results_eq] at concat
      generalize before.core.step ⟨count, bound⟩ = made at turn concat
      refine ⟨ofCore made.2 (before.results.set count made.1 bound), ?_, ?_, ?_⟩
      · rw [List.range_succ, List.foldlM_append, run, Option.bind_eq_bind, Option.bind_some,
          List.foldlM_cons, turn, Option.bind_eq_bind, Option.bind_some, List.foldlM_nil,
          Option.pure_def]
      · rw [core_ofCore, positions, concat]
      · have short : count < before.results.toList.length := by
          rw [Vector.length_toList]
          exact bound
        rw [positions, concat, ofCore, Vector.toList_set, List.take_add_one,
          List.take_set_of_le (Nat.le_refl count), List.getElem?_set_self short, Option.toList_some]

theorem toList_block (core : Core) :
    core.block.1.toList = (core.advance.steps (List.finRange 256)).1 := by
  simp only [Core.block, Vector.toList, List.toList_toArray]

/-- The pass ends with a whole block in the results. -/
theorem isaac?_eq (state : Reference) :
    state.isaac? = some (ofCore state.core.refill state.core.block.1) := by
  obtain ⟨after, run, core_eq, results_eq⟩ :=
    turns_prefix { state with b := state.b + (state.c + 1), c := state.c + 1 } 256 (Nat.le_refl 256)
  have begun : core { state with b := state.b + (state.c + 1), c := state.c + 1 } =
      state.core.advance := rfl
  have positions : (List.finRange 256).take 256 = List.finRange 256 :=
    List.take_of_length_le (by rw [List.length_finRange])
  have results : after.results.toList.take 256 = after.results.toList :=
    List.take_of_length_le (by rw [Vector.length_toList])
  rw [begun, positions] at core_eq results_eq
  rw [results, ← toList_block, Vector.toList_inj] at results_eq
  have refill : after.core = state.core.refill := by rw [core_eq, Core.refill, Core.block]
  rw [isaac?, run, ← refill, ← results_eq]
  rfl

/-- No block goes outside the arrays, and all are those of the generator. -/
theorem block?_eq (seed : List UInt32) (index : Nat) :
    block? seed index =
      some (ofCore (Core.refill^[index + 1] (Core.ofSeed seed)) ((Core.ofSeed seed).blockAt index)) := by
  induction index with
  | zero =>
      rw [block?, randinit?_eq, Option.bind_eq_bind, Option.bind_some, isaac?_eq, Function.iterate_one,
        Core.blockAt_zero]
      rfl
  | succ index ih =>
      rw [block?, ih, Option.bind_eq_bind, Option.bind_some, isaac?_eq, core_ofCore,
        ← Function.iterate_succ_apply' Core.refill, Core.blockAt]

end Reference

namespace KeystreamPair

/-- The word at a position is a word of the block with the number of the whole blocks before it, and the
words of a block come from its end. The block is the one that the published program makes, which never
leaves its arrays. No more than one block is left at any time, seeds with the same 256 words make the same
generator, and at every position the streams of the client are those of the server exchanged. -/
theorem streams_of_reference :
    (∀ (seed : List UInt32) (position : Nat),
      (Reference.block? seed (position / 256)).bind (·.results[255 - position % 256]?) =
        some ((Isaac.ofSeed seed).wordAt position)) ∧
      (∀ (seed : List UInt32) (count : Nat),
        ((Isaac.ofSeed seed).take count).2.left = if count = 0 then 256 else 255 - (count - 1) % 256) ∧
      (∀ first second : List UInt32,
        Isaac.ofSeed first = Isaac.ofSeed second ↔ Isaac.padded first = Isaac.padded second) ∧
      ∀ (keys : SessionKeys) (position : Nat),
        (client keys).outgoing.wordAt position = (server keys).incoming.wordAt position ∧
          (client keys).incoming.wordAt position = (server keys).outgoing.wordAt position := by
  refine ⟨?_, ?_, ?_, ?_⟩
  · intro seed position
    have inside : 255 - position % 256 < 256 := by omega
    rw [Reference.block?_eq, Option.bind_some, Isaac.wordAt_ofSeed, Reference.ofCore,
      Vector.getElem?_eq_getElem inside]
  · exact Isaac.left_take
  · intro first second
    constructor
    · intro same
      have cores := Isaac.core_take_eq_iff first second 0
      exact cores.mp (by rw [same])
    · intro same
      have memories := (Isaac.ofSeed_memory_eq_iff first second).mpr same
      have cores : Isaac.Core.ofSeed first = Isaac.Core.ofSeed second := by
        simpa only [Isaac.Core.ofSeed, Isaac.Core.mk.injEq, and_true] using memories
      simp only [Isaac.ofSeed, cores]
  · intro keys position
    rw [client_outgoing, client_incoming]
    exact ⟨rfl, rfl⟩

end KeystreamPair

end GameServer
