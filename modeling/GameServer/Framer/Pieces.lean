import GameServer.ByteQueue
import GameServer.Framer.Progress

/- This file feeds a framer piece by piece. -/

namespace GameServer.Framer

/-- A piece arrives, and messages are decoded until nothing is complete or an error comes. The bytes
of a payload that is not complete are not looked at. -/
def feed (framer : Framer) (source : ByteQueue) (piece : Bytes) :
    List (Except ProtocolError Message) × Framer × ByteQueue :=
  let arrived := source.push piece
  if 0 < framer.missing arrived.size then ([], framer, arrived)
  else
    let (results, next, rest) := framer.decodeUntilError arrived.toList
    (results, next, .ofList rest)

theorem decodeUntilError_of_missing (framer : Framer) (source : Bytes)
    (lacking : 0 < framer.missing source.length) :
    framer.decodeUntilError source = ([], framer, source) := by
  have pending := decode_of_missing framer source lacking
  rw [decodeUntilError]
  split
  · rw [pending]
  · next error same =>
      rw [pending] at same
      cases same
  · next message same =>
      rw [pending] at same
      cases same

/-- A piece is decoded together with the bytes in front of it. -/
theorem feed_eq (framer : Framer) (source : ByteQueue) (piece : Bytes) :
    (framer.feed source piece).1 = (framer.decodeUntilError (source.toList ++ piece)).1 ∧
      (framer.feed source piece).2.1 = (framer.decodeUntilError (source.toList ++ piece)).2.1 ∧
      (framer.feed source piece).2.2.toList =
        (framer.decodeUntilError (source.toList ++ piece)).2.2 := by
  unfold feed
  dsimp only
  rw [← ByteQueue.toList_push]
  split
  · next lacking =>
      rw [← ByteQueue.length_toList] at lacking
      rw [decodeUntilError_of_missing _ _ lacking]
      exact ⟨rfl, rfl, rfl⟩
  · exact ⟨rfl, rfl, rfl⟩

end GameServer.Framer
