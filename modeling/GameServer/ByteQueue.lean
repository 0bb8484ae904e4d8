import GameServer.Bytes

/- This file defines queues of bytes that grow piece by piece. -/

namespace GameServer

/-- The front is followed by the pieces that were pushed, of which the last one stands first. -/
structure ByteQueue where
  front : Bytes
  pieces : List Bytes
  /-- The number of bytes is known without counting them. -/
  size : Nat
  size_eq : size = (front ++ pieces.reverse.flatten).length
deriving DecidableEq

namespace ByteQueue

/-- No byte is queued. -/
def empty : ByteQueue := ⟨[], [], 0, rfl⟩

/-- A queue of these bytes. -/
def ofList (bytes : Bytes) : ByteQueue := ⟨bytes, [], bytes.length, by simp⟩

/-- The bytes of a queue in order. -/
def toList (queue : ByteQueue) : Bytes :=
  match queue.pieces with
  | [] => queue.front
  | pieces => queue.front ++ pieces.reverse.flatten

theorem toList_eq (queue : ByteQueue) :
    queue.toList = queue.front ++ queue.pieces.reverse.flatten := by
  unfold toList
  split
  · next none => simp [none]
  · rfl

@[simp] theorem length_toList (queue : ByteQueue) : queue.toList.length = queue.size := by
  rw [toList_eq, queue.size_eq]

/-- A piece is appended without touching the bytes in front of it. -/
def push (queue : ByteQueue) (bytes : Bytes) : ByteQueue where
  front := queue.front
  pieces := bytes :: queue.pieces
  size := queue.size + bytes.length
  size_eq := by simp [queue.size_eq, Nat.add_assoc]

/-- The first bytes are taken away. -/
def drop (queue : ByteQueue) (count : Nat) : ByteQueue where
  front := queue.toList.drop count
  pieces := []
  size := queue.size - count
  size_eq := by simp

@[simp] theorem toList_empty : empty.toList = [] := rfl

@[simp] theorem size_empty : empty.size = 0 := rfl

@[simp] theorem toList_ofList (bytes : Bytes) : (ofList bytes).toList = bytes := rfl

@[simp] theorem toList_push (queue : ByteQueue) (bytes : Bytes) :
    (queue.push bytes).toList = queue.toList ++ bytes := by
  simp [toList_eq, push]

@[simp] theorem size_push (queue : ByteQueue) (bytes : Bytes) :
    (queue.push bytes).size = queue.size + bytes.length := rfl

@[simp] theorem toList_drop (queue : ByteQueue) (count : Nat) :
    (queue.drop count).toList = queue.toList.drop count := rfl

@[simp] theorem size_drop (queue : ByteQueue) (count : Nat) :
    (queue.drop count).size = queue.size - count := rfl

end ByteQueue

end GameServer
