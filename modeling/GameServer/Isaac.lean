import GameServer.Bytes

/- This file defines the ISAAC generator. -/

namespace GameServer

/-- The generator keeps 256 words of memory, an accumulator, the last word and a counter. -/
structure Isaac.Core where
  memory : Vector UInt32 256
  accumulator : UInt32
  last : UInt32
  counter : UInt32
deriving DecidableEq

namespace Isaac

/-- The accumulator is shifted by a rule that depends on the position modulo four. -/
def shifted (position : Fin 256) (word : UInt32) : UInt32 :=
  match position.val % 4 with
  | 0 => word <<< 13
  | 1 => word >>> 6
  | 2 => word <<< 2
  | _ => word >>> 16

/-- The low eight bits of a word choose a memory cell. -/
def cell (word : UInt32) : Fin 256 :=
  Fin.ofNat 256 word.toNat

/-- One step replaces the memory cell at its position and yields one word. -/
def Core.step (core : Core) (position : Fin 256) : UInt32 × Core :=
  let old := core.memory[position]
  let accumulator :=
    (core.accumulator ^^^ shifted position core.accumulator) + core.memory[position + 128]
  let fresh := core.memory[cell (old >>> 2)] + accumulator + core.last
  let memory := core.memory.set position fresh
  let word := memory[cell (fresh >>> 10)] + old
  (word, { core with memory, accumulator, last := word })

/-- A new block begins by counting up. -/
def Core.advance (core : Core) : Core :=
  { core with counter := core.counter + 1, last := core.last + (core.counter + 1) }

/-- The steps at the given positions yield one word each. -/
def Core.steps (core : Core) : List (Fin 256) → List UInt32 × Core
  | [] => ([], core)
  | position :: rest =>
      let (word, next) := core.step position
      let (words, final) := next.steps rest
      (word :: words, final)

theorem Core.length_steps (core : Core) (positions : List (Fin 256)) :
    (core.steps positions).1.length = positions.length := by
  induction positions generalizing core with
  | nil => rfl
  | cons position rest ih => simp [steps, ih]

/-- A block holds the words of all 256 positions in order. -/
def Core.block (core : Core) : Vector UInt32 256 × Core :=
  let result := core.advance.steps (List.finRange 256)
  (⟨result.1.toArray, by simp [result, length_steps]⟩, result.2)

/-- Seeding mixes eight words at a time. -/
structure Lanes where
  w0 : UInt32
  w1 : UInt32
  w2 : UInt32
  w3 : UInt32
  w4 : UInt32
  w5 : UInt32
  w6 : UInt32
  w7 : UInt32
deriving DecidableEq

/-- The words of the lanes in order. -/
def Lanes.words (lanes : Lanes) : List UInt32 :=
  [lanes.w0, lanes.w1, lanes.w2, lanes.w3, lanes.w4, lanes.w5, lanes.w6, lanes.w7]

/-- The first eight words fill the lanes, and missing words are zero. -/
def Lanes.ofWords (words : List UInt32) : Lanes :=
  ⟨words.getD 0 0, words.getD 1 0, words.getD 2 0, words.getD 3 0,
    words.getD 4 0, words.getD 5 0, words.getD 6 0, words.getD 7 0⟩

/-- Lanes are added word by word. -/
def Lanes.add (left right : Lanes) : Lanes :=
  ⟨left.w0 + right.w0, left.w1 + right.w1, left.w2 + right.w2, left.w3 + right.w3,
    left.w4 + right.w4, left.w5 + right.w5, left.w6 + right.w6, left.w7 + right.w7⟩

/-- A round changes the first two lanes and the fourth, and moves the first lane to the end. -/
def Lanes.round (shift : UInt32 → UInt32) (lanes : Lanes) : Lanes :=
  let first := lanes.w0 ^^^ shift lanes.w1
  ⟨lanes.w1 + lanes.w2, lanes.w2, lanes.w3 + first, lanes.w4, lanes.w5, lanes.w6, lanes.w7, first⟩

/-- Eight rounds bring every lane back to its place. -/
def Lanes.mix (lanes : Lanes) : Lanes :=
  lanes |>.round (· <<< 11) |>.round (· >>> 2) |>.round (· <<< 8) |>.round (· >>> 16)
    |>.round (· <<< 10) |>.round (· >>> 4) |>.round (· <<< 8) |>.round (· >>> 9)

/-- The golden ratio fills all lanes, and four mixes stir them. -/
def Lanes.start : Lanes :=
  let golden : UInt32 := 0x9e3779b9
  let lanes : Lanes := ⟨golden, golden, golden, golden, golden, golden, golden, golden⟩
  lanes.mix.mix.mix.mix

/-- A pass folds one group of words after another into the lanes and keeps every mix. -/
def Lanes.absorb (lanes : Lanes) : List Lanes → List Lanes
  | [] => []
  | group :: rest =>
      let mixed := (lanes.add group).mix
      mixed :: mixed.absorb rest

/-- A seed of any length makes 32 groups: words past 256 are ignored and missing words are zero. -/
def seedGroups (seed : List UInt32) : List Lanes :=
  (List.range 32).map fun group => Lanes.ofWords (seed.drop (8 * group))

/-- The first pass folds in the seed, and the second folds in the result of the first. -/
def seededGroups (seed : List UInt32) : List Lanes :=
  let first := Lanes.start.absorb (seedGroups seed)
  (first.getLastD Lanes.start).absorb first

/-- Groups are laid out as one memory. -/
def memoryOfGroups (groups : List Lanes) : Vector UInt32 256 :=
  let words := (groups.flatMap Lanes.words).toArray
  Vector.ofFn fun position => words.getD position 0

/-- A seeded generator starts with its counters at zero. -/
def Core.ofSeed (seed : List UInt32) : Core :=
  ⟨memoryOfGroups (seededGroups seed), 0, 0, 0⟩

end Isaac

/-- A generator holds the current block and the number of its words not yet handed out. -/
structure Isaac where
  core : Isaac.Core
  block : Vector UInt32 256
  left : Nat
  left_le : left ≤ 256
deriving DecidableEq

namespace Isaac

/-- A full block is ready as soon as the generator is seeded. -/
def ofSeed (seed : List UInt32) : Isaac :=
  let (block, core) := (Core.ofSeed seed).block
  ⟨core, block, 256, Nat.le_refl 256⟩

/-- The next word comes from the end of the block, and an empty block is replaced first. -/
def next (generator : Isaac) : UInt32 × Isaac :=
  match generator with
  | ⟨core, _, 0, _⟩ =>
      let (fresh, rest) := core.block
      (fresh.get ⟨255, by omega⟩, ⟨rest, fresh, 255, by omega⟩)
  | ⟨core, block, left + 1, bound⟩ =>
      (block.get ⟨left, by omega⟩, ⟨core, block, left, by omega⟩)

/-- The keystream byte is the low byte of the next word. -/
def nextByte (generator : Isaac) : UInt8 × Isaac :=
  let (word, rest) := generator.next
  (word.toUInt8, rest)

/-- The next words in the order in which they are handed out. -/
def take (generator : Isaac) : Nat → List UInt32 × Isaac
  | 0 => ([], generator)
  | count + 1 =>
      let (word, rest) := generator.next
      let (words, final) := rest.take count
      (word :: words, final)

/-- The next keystream bytes in the order in which they are handed out. -/
def takeBytes (generator : Isaac) (count : Nat) : Bytes × Isaac :=
  let (words, rest) := generator.take count
  (words.map UInt32.toUInt8, rest)

end Isaac

end GameServer
