import GameServer.Proofs.Keystream.Position
import Mathlib.Logic.Function.Iterate

/- This file finds the words of a keystream in its blocks. -/

namespace GameServer.Isaac

/-- The state behind a block. -/
def Core.refill (core : Core) : Core := core.block.2

/-- The block with this number, counted from zero. -/
def Core.blockAt (core : Core) (index : Nat) : Vector UInt32 256 := (Core.refill^[index] core).block.1

@[simp] theorem Core.blockAt_zero (core : Core) : core.blockAt 0 = core.block.1 := by
  rw [blockAt, Function.iterate_zero_apply]

/-- Where a generator stands in the blocks when it has handed out so many words. A block is replaced
only when another word is asked for. -/
structure Stands (first : Core) (count index : Nat) (generator : Isaac) : Prop where
  core : generator.core = Core.refill^[index + 1] first
  block : generator.block = first.blockAt index
  left : count + generator.left = 256 * (index + 1)
  begun : 0 < count → generator.left < 256

variable {core : Core} {count index : Nat} {generator : Isaac}

theorem stands_ofSeed (seed : List UInt32) : Stands (Core.ofSeed seed) 0 0 (ofSeed seed) where
  core := by simp only [ofSeed, Nat.zero_add, Function.iterate_one, Core.refill]
  block := by simp only [ofSeed, Core.blockAt_zero]
  left := by simp only [ofSeed]
  begun := nofun

theorem Stands.next (stands : Stands core count index generator) :
    generator.next.1 = (core.blockAt (count / 256))[255 - count % 256] ∧
      ∃ following, Stands core (count + 1) following generator.next.2 := by
  obtain ⟨current, block, left, bound⟩ := generator
  obtain ⟨core_eq, block_eq, left_eq, begun⟩ := stands
  dsimp only at core_eq block_eq left_eq begun
  cases left with
  | zero =>
      -- The block is used up, so the word is the last one of the block that follows.
      have place : 255 - count % 256 = 255 := by omega
      have number : count / 256 = index + 1 := by omega
      refine ⟨?_, index + 1, ?_, ?_, ?_, ?_⟩
      · simp only [Isaac.next, number, place, Core.blockAt, ← core_eq]
        rfl
      · rw [Function.iterate_succ_apply', ← core_eq]
        rfl
      · rw [Core.blockAt, ← core_eq]
        rfl
      · simp only [Isaac.next]
        omega
      · intro _
        exact Nat.lt_succ_self 255
  | succ left =>
      have place : 255 - count % 256 = left := by omega
      have number : count / 256 = index := by omega
      refine ⟨?_, index, core_eq, block_eq, ?_, fun _ => bound⟩
      · simp only [Isaac.next, number, place, ← block_eq]
        rfl
      · simp only [Isaac.next]
        omega

theorem rest_take_succ (generator : Isaac) (count : Nat) :
    (generator.take (count + 1)).2 = (generator.take count).2.next.2 := by
  rw [rest_take_add]
  simp only [take]

section Seeded

variable (seed : List UInt32)

theorem exists_stands (count : Nat) :
    ∃ index, Stands (Core.ofSeed seed) count index ((ofSeed seed).take count).2 := by
  induction count with
  | zero => exact ⟨0, stands_ofSeed seed⟩
  | succ count ih =>
      obtain ⟨index, stands⟩ := ih
      rw [rest_take_succ]
      exact stands.next.2

/-- The word of a position, by its block and its place in it. -/
theorem wordAt_ofSeed (position : Nat) :
    (ofSeed seed).wordAt position =
      ((Core.ofSeed seed).blockAt (position / 256))[255 - position % 256] := by
  obtain ⟨index, stands⟩ := exists_stands seed position
  exact stands.next.1

/-- The words of the current block that are left. A block that is used up stays until the next word is
asked for. -/
theorem left_take (count : Nat) :
    ((ofSeed seed).take count).2.left = if count = 0 then 256 else 255 - (count - 1) % 256 := by
  obtain ⟨index, stands⟩ := exists_stands seed count
  have left := stands.left
  have begun := stands.begun
  have most := ((ofSeed seed).take count).2.left_le
  split <;> omega

/-- The state depends on the number of the words alone. -/
theorem core_take (count : Nat) :
    ((ofSeed seed).take count).2.core = Core.refill^[(count - 1) / 256 + 1] (Core.ofSeed seed) := by
  obtain ⟨index, stands⟩ := exists_stands seed count
  have left := stands.left
  have begun := stands.begun
  have most := ((ofSeed seed).take count).2.left_le
  have number : (count - 1) / 256 = index := by omega
  rw [number]
  exact stands.core

end Seeded

end GameServer.Isaac
