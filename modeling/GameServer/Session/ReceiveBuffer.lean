import GameServer.ByteQueue

/- Bytes are received at the back of this buffer and decoded at its front. -/

namespace GameServer

/-- A buffer is a row of places with its bytes in the middle. -/
structure ReceiveBuffer where
  /-- The bytes that were read and not decoded. -/
  bytes : ByteQueue
  /-- The places in front of the bytes. What stood there was decoded. -/
  spent : Nat
  /-- The free places behind the bytes. -/
  room : Nat
deriving DecidableEq

namespace ReceiveBuffer

/-- A new buffer has 512 free places. -/
def empty : ReceiveBuffer := ⟨.empty, 0, 512⟩

/-- The bytes move to the front if that frees enough places and they move without overlap.
Otherwise the buffer gets twice as many places, or more if that is not enough. -/
def reserve (buffer : ReceiveBuffer) (count : Nat) : ReceiveBuffer :=
  if count ≤ buffer.room then buffer
  else if count ≤ buffer.spent + buffer.room ∧ buffer.bytes.size ≤ buffer.spent then
    { buffer with spent := 0, room := buffer.spent + buffer.room }
  else
    { buffer with room := max count (buffer.spent + buffer.bytes.size + 2 * buffer.room) }

/-- A full buffer asks for this many places before a read. -/
def leastRoom : Nat := 64

/-- A buffer is ready for a read if it is not full. -/
def ready (buffer : ReceiveBuffer) : ReceiveBuffer :=
  if buffer.room = 0 then buffer.reserve leastRoom else buffer

/-- Received bytes fill the first free places. -/
def push (buffer : ReceiveBuffer) (bytes : Bytes) : ReceiveBuffer :=
  { buffer with bytes := buffer.bytes.push bytes, room := buffer.room - bytes.length }

/-- The first bytes were decoded. -/
def drop (buffer : ReceiveBuffer) (count : Nat) : ReceiveBuffer :=
  { buffer with bytes := buffer.bytes.drop count, spent := buffer.spent + count }

@[simp] theorem bytes_reserve (buffer : ReceiveBuffer) (count : Nat) :
    (buffer.reserve count).bytes = buffer.bytes := by
  unfold reserve
  split
  · rfl
  · split <;> rfl

theorem le_room_reserve (buffer : ReceiveBuffer) (count : Nat) :
    count ≤ (buffer.reserve count).room := by
  unfold reserve
  split
  · assumption
  · split
    · next enough => exact enough.1
    · exact Nat.le_max_left _ _

@[simp] theorem bytes_ready (buffer : ReceiveBuffer) : buffer.ready.bytes = buffer.bytes := by
  unfold ready
  split
  · exact bytes_reserve buffer leastRoom
  · rfl

theorem room_ready_pos (buffer : ReceiveBuffer) : 0 < buffer.ready.room := by
  unfold ready
  split
  · exact Nat.lt_of_lt_of_le (by decide) (le_room_reserve buffer leastRoom)
  · omega

@[simp] theorem bytes_push (buffer : ReceiveBuffer) (bytes : Bytes) :
    (buffer.push bytes).bytes = buffer.bytes.push bytes := rfl

@[simp] theorem bytes_drop (buffer : ReceiveBuffer) (count : Nat) :
    (buffer.drop count).bytes = buffer.bytes.drop count := rfl

end ReceiveBuffer

end GameServer
