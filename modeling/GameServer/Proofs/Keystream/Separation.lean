import GameServer.Proofs.Keystream.Blocks
import GameServer.Proofs.Keystream.Seeding

/- This file shows that generators with different seeds never come to one state. -/

namespace GameServer

namespace Isaac

section Spread

variable {spread : UInt32 → UInt32}

/-- A guess for the word that was mixed with its own shift becomes a better guess. -/
def improve (spread : UInt32 → UInt32) (mixed guess : UInt32) : UInt32 := mixed ^^^ spread guess

/-- A shift works bit by bit and loses every bit in the end. -/
structure Spreads (spread : UInt32 → UInt32) : Prop where
  xor : ∀ left right, spread (left ^^^ right) = spread left ^^^ spread right
  vanishes : ∀ word, spread^[32] word = 0

/-- The difference of two guesses is shifted with every improvement. -/
theorem improve_difference (spreads : Spreads spread) (mixed left right : UInt32) (count : Nat) :
    (improve spread mixed)^[count] left ^^^ (improve spread mixed)^[count] right =
      spread^[count] (left ^^^ right) := by
  induction count with
  | zero => rfl
  | succ count ih =>
      simp only [Function.iterate_succ_apply', ← ih, spreads.xor]
      generalize (improve spread mixed)^[count] left = better
      generalize (improve spread mixed)^[count] right = other
      rw [improve, improve, UInt32.xor_comm mixed, UInt32.xor_assoc, ← UInt32.xor_assoc mixed,
        UInt32.xor_self, UInt32.zero_xor]

/-- After 32 improvements nothing is left of the first guess. -/
theorem improve_forgets (spreads : Spreads spread) (mixed left right : UInt32) :
    (improve spread mixed)^[32] left = (improve spread mixed)^[32] right := by
  apply UInt32.xor_eq_zero_iff.mp
  rw [improve_difference spreads, spreads.vanishes]

/-- A word that is mixed with its own shift is recovered by improving a guess. -/
def spreadEquiv (spreads : Spreads spread) : UInt32 ≃ UInt32 where
  toFun word := word ^^^ spread word
  invFun mixed := (improve spread mixed)^[32] 0
  left_inv word := by
    have fixed : improve spread (word ^^^ spread word) word = word := by
      rw [improve, UInt32.xor_assoc, UInt32.xor_self, UInt32.xor_zero]
    have same := improve_forgets spreads (word ^^^ spread word) 0 word
    rwa [Function.iterate_fixed fixed] at same
  right_inv mixed := by
    -- One more improvement is the same as another first guess, which is forgotten.
    have fixed : improve spread mixed ((improve spread mixed)^[32] 0) =
        (improve spread mixed)^[32] 0 := by
      rw [← Function.iterate_succ_apply' (improve spread mixed), Function.iterate_succ_apply]
      exact improve_forgets spreads mixed _ 0
    dsimp only
    generalize (improve spread mixed)^[32] 0 = word at fixed ⊢
    rw [improve] at fixed
    nth_rewrite 1 [← fixed]
    rw [UInt32.xor_assoc, UInt32.xor_self, UInt32.xor_zero]

variable {amount : Nat}

theorem spreads_of_shiftLeft (positive : 0 < amount)
    (shift : ∀ word, (spread word).toBitVec = word.toBitVec <<< amount) : Spreads spread where
  xor left right := by
    apply UInt32.toBitVec_inj.mp
    simp only [shift, UInt32.toBitVec_xor, BitVec.shiftLeft_xor_distrib]
  vanishes word := by
    have far (count : Nat) : (spread^[count] word).toBitVec = word.toBitVec <<< (amount * count) := by
      induction count with
      | zero => simp
      | succ count ih =>
          rw [Function.iterate_succ_apply', shift, ih, ← BitVec.shiftLeft_add, Nat.mul_succ]
    apply UInt32.toBitVec_inj.mp
    rw [far, BitVec.shiftLeft_eq_zero (Nat.le_mul_of_pos_left 32 positive)]
    rfl

theorem spreads_of_shiftRight (positive : 0 < amount)
    (shift : ∀ word, (spread word).toBitVec = word.toBitVec >>> amount) : Spreads spread where
  xor left right := by
    apply UInt32.toBitVec_inj.mp
    simp only [shift, UInt32.toBitVec_xor, BitVec.ushiftRight_xor_distrib]
  vanishes word := by
    have far (count : Nat) : (spread^[count] word).toBitVec = word.toBitVec >>> (amount * count) := by
      induction count with
      | zero => simp
      | succ count ih =>
          rw [Function.iterate_succ_apply', shift, ih, ← BitVec.shiftRight_add, Nat.mul_succ]
    apply UInt32.toBitVec_inj.mp
    rw [far, BitVec.ushiftRight_eq_zero (Nat.le_mul_of_pos_left 32 positive)]
    rfl

end Spread

/-- All four shifts lose every bit in the end. -/
theorem spreads_shifted (position : Fin 256) : Spreads (shifted position) := by
  unfold shifted
  split
  · exact spreads_of_shiftLeft (by decide : 0 < 13) fun word => by simp
  · exact spreads_of_shiftRight (by decide : 0 < 6) fun word => by simp
  · exact spreads_of_shiftLeft (by decide : 0 < 2) fun word => by simp
  · exact spreads_of_shiftRight (by decide : 0 < 16) fun word => by simp

namespace Core

/-- A step mixes the accumulator with its own shift. -/
def accumulatorEquiv (position : Fin 256) : UInt32 ≃ UInt32 := spreadEquiv (spreads_shifted position)

theorem setIfInBounds_eq (words : Vector UInt32 256) (position : Fin 256) (word : UInt32) :
    words.setIfInBounds position word = words.set position word position.isLt := by
  apply Vector.ext
  intro place inside
  rw [Vector.getElem_setIfInBounds, Vector.getElem_set]

/-- The core before a step: the fresh word tells where the old word was added, and with the old word in
its place again the memory tells the rest. -/
def unstep (position : Fin 256) (core : Core) : Core :=
  let fresh := core.memory.get position
  let old := core.last - core.memory.get (cell (fresh >>> 10))
  let memory := core.memory.setIfInBounds position old
  { core with
    memory
    accumulator := (accumulatorEquiv position).symm (core.accumulator - memory.get (position + cell 128))
    last := fresh - core.accumulator - memory.get (cell (old >>> 2)) }

variable (position : Fin 256) (core : Core)

theorem unstep_step : unstep position (core.step position).2 = core := by
  have read (words : Vector UInt32 256) (place : Fin 256) : words.get place = words[place] := rfl
  have across : cell 128 = 128 := rfl
  have mixed : (accumulatorEquiv position).symm
      (core.accumulator ^^^ shifted position core.accumulator) = core.accumulator :=
    (accumulatorEquiv position).symm_apply_apply core.accumulator
  have old (other : UInt32) : other + core.memory[position] - other = core.memory[position] := by
    grind
  have last (other sum : UInt32) : other + sum + core.last - sum - other = core.last := by grind
  simp only [Fin.getElem_fin] at old
  simp [step, unstep, read, across, setIfInBounds_eq, mixed, old, last]

theorem step_unstep : ((unstep position core).step position).2 = core := by
  have read (words : Vector UInt32 256) (place : Fin 256) : words.get place = words[place] := rfl
  have across : cell 128 = 128 := rfl
  have mixed (word : UInt32) : (accumulatorEquiv position).symm word ^^^
      shifted position ((accumulatorEquiv position).symm word) = word :=
    (accumulatorEquiv position).apply_symm_apply word
  have fresh (other sum word : UInt32) : other + sum + (word - sum - other) = word := by grind
  have last (other : UInt32) : other + (core.last - other) = core.last := by grind
  simp [step, unstep, read, across, setIfInBounds_eq, mixed, fresh, last]

/-- A step is undone, although it reads cells that it has just replaced. -/
def stepEquiv : Core ≃ Core where
  toFun core := (core.step position).2
  invFun := unstep position
  left_inv := unstep_step position
  right_inv := step_unstep position

/-- The count goes back by one. -/
def unadvance (core : Core) : Core :=
  { core with counter := core.counter - 1, last := core.last - core.counter }

def advanceEquiv : Core ≃ Core where
  toFun := advance
  invFun := unadvance
  left_inv core := by simp [advance, unadvance]
  right_inv core := by simp [advance, unadvance]

theorem steps_bijective (positions : List (Fin 256)) :
    Function.Bijective fun core : Core => (core.steps positions).2 := by
  induction positions with
  | nil => exact Function.bijective_id
  | cons position rest ih => exact ih.comp (stepEquiv position).bijective

/-- A refill is undone, for it is one step after another. -/
theorem refill_bijective : Function.Bijective refill := by
  have steps := (steps_bijective (List.finRange 256)).comp advanceEquiv.bijective
  convert steps using 1
  funext core
  rw [refill, block, Function.comp_apply, advanceEquiv, Equiv.coe_fn_mk]

end Core

/-- After the same number of words, two generators are in one state exactly if their seeds have the same
words. -/
theorem core_take_eq_iff (first second : List UInt32) (count : Nat) :
    ((ofSeed first).take count).2.core = ((ofSeed second).take count).2.core ↔
      padded first = padded second := by
  rw [core_take, core_take, (Core.refill_bijective.injective.iterate _).eq_iff,
    ← ofSeed_memory_eq_iff]
  simp only [Core.ofSeed, Core.mk.injEq, and_true]

theorem padded_keys_injective : Function.Injective fun keys : SessionKeys => padded keys.toList := by
  intro first second same
  apply Vector.ext
  intro place inside
  have wide : place < 256 := by omega
  have word := congrArg (fun words : Vector UInt32 256 => words[place]) same
  simpa [padded, inside] using word

end Isaac

namespace KeystreamPair

/-- The offset is lost in no key. -/
theorem raised_ne (keys : SessionKeys) : raised keys ≠ keys := by
  intro same
  have first := congrArg (fun words : SessionKeys => words[0]) same
  simp [raised, outgoingOffset] at first

/-- Seeding and refilling are undone, and so no two seeds are merged: generators are in one state after
the same number of words only if they were seeded with the same words. Different session keys never lead
to one state of a stream, and the two streams of a pair never are in one state at the same position. -/
theorem never_merges :
    Function.Bijective (fun words : Vector UInt32 256 => (Isaac.Core.ofSeed words.toList).memory) ∧
      Function.Bijective (fun core : Isaac.Core => core.block.2) ∧
      (∀ (first second : List UInt32) (count : Nat),
        ((Isaac.ofSeed first).take count).2.core = ((Isaac.ofSeed second).take count).2.core ↔
          Isaac.padded first = Isaac.padded second) ∧
      (∀ (first second : SessionKeys) (count : Nat),
        ((server first).incoming.take count).2.core = ((server second).incoming.take count).2.core ↔
          first = second) ∧
      ∀ (keys : SessionKeys) (count : Nat),
        ((server keys).outgoing.take count).2.core ≠ ((server keys).incoming.take count).2.core ∧
        ((client keys).outgoing.take count).2.core ≠ ((client keys).incoming.take count).2.core := by
  have keys_iff (first second : SessionKeys) (count : Nat) :
      ((Isaac.ofSeed first.toList).take count).2.core =
        ((Isaac.ofSeed second.toList).take count).2.core ↔ first = second := by
    rw [Isaac.core_take_eq_iff]
    exact Isaac.padded_keys_injective.eq_iff
  refine ⟨Isaac.seeding_bijective, Isaac.Core.refill_bijective, Isaac.core_take_eq_iff, ?_, ?_⟩
  · intro first second count
    simp only [server, keys_iff]
  · intro keys count
    simp only [server, client, ne_eq, keys_iff]
    exact ⟨raised_ne keys, (raised_ne keys).symm⟩

end KeystreamPair

end GameServer
