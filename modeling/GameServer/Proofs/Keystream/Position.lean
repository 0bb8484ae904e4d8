import GameServer.Keystream

/- This file follows the positions in two keystreams. -/

namespace GameServer

theorem Isaac.rest_take_add (generator : Isaac) (first second : Nat) :
    (generator.take (first + second)).2 = ((generator.take first).2.take second).2 := by
  induction first generalizing generator with
  | zero => rw [Nat.zero_add, take]
  | succ first ih =>
      rw [Nat.succ_add]
      exact ih generator.next.2

/-- The word that is handed out after so many others. -/
def Isaac.wordAt (generator : Isaac) (position : Nat) : UInt32 := (generator.take position).2.next.1

/-- The byte of a position is the low byte of its word. -/
def Isaac.byteAt (generator : Isaac) (position : Nat) : UInt8 := (generator.wordAt position).toUInt8

theorem Isaac.wordAt_rest (generator : Isaac) (count position : Nat) :
    (generator.take count).2.wordAt position = generator.wordAt (count + position) := by
  rw [wordAt, wordAt, rest_take_add]

theorem Isaac.byteAt_rest (generator : Isaac) (count position : Nat) :
    (generator.take count).2.byteAt position = generator.byteAt (count + position) := by
  rw [byteAt, byteAt, wordAt_rest]

namespace KeystreamPair

/-- The incoming stream goes on by so many words. -/
def skipIncoming (pair : KeystreamPair) (count : Nat) : KeystreamPair :=
  { pair with incoming := (pair.incoming.take count).2 }

theorem skipIncoming_add (pair : KeystreamPair) (first second : Nat) :
    pair.skipIncoming (first + second) = (pair.skipIncoming first).skipIncoming second := by
  simp only [skipIncoming, Isaac.rest_take_add]

/-- The outgoing stream goes on by so many words. -/
def skipOutgoing (pair : KeystreamPair) (count : Nat) : KeystreamPair :=
  { pair with outgoing := (pair.outgoing.take count).2 }

theorem skipOutgoing_add (pair : KeystreamPair) (first second : Nat) :
    pair.skipOutgoing (first + second) = (pair.skipOutgoing first).skipOutgoing second := by
  simp only [skipOutgoing, Isaac.rest_take_add]

theorem outgoing_skipOutgoing (pair : KeystreamPair) (count : Nat) :
    (pair.skipOutgoing count).outgoing = (pair.outgoing.take count).2 := rfl

theorem incoming_skipIncoming (pair : KeystreamPair) (count : Nat) :
    (pair.skipIncoming count).incoming = (pair.incoming.take count).2 := rfl

theorem hide_byte (pair : KeystreamPair) (opcode : UInt8) :
    (pair.hide opcode).1 = opcode + pair.outgoing.byteAt 0 := by
  simp only [hide, Isaac.nextByte, Isaac.byteAt, Isaac.wordAt, Isaac.take]

theorem reveal_byte (pair : KeystreamPair) (opcode : UInt8) :
    (pair.reveal opcode).1 = opcode - pair.incoming.byteAt 0 := by
  simp only [reveal, Isaac.nextByte, Isaac.byteAt, Isaac.wordAt, Isaac.take]

theorem reveal_rest (pair : KeystreamPair) (opcode : UInt8) :
    (pair.reveal opcode).2 = pair.skipIncoming 1 := rfl

end KeystreamPair

end GameServer
