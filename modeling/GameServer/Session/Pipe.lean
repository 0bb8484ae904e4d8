import GameServer.ByteQueue

/- A pipe is the byte stream under a session, on which calls may be made to fail. -/

namespace GameServer

/-- A pipe carries the bytes of the client in and the bytes of the server out. -/
structure Pipe where
  /-- The bytes of the client that were not read yet. -/
  arrived : ByteQueue
  /-- The client sends nothing after the arrived bytes. -/
  ended : Bool
  /-- The bytes that the client can read. -/
  written : ByteQueue
  /-- The server sends nothing after the written bytes. -/
  shut : Bool
  /-- The next read fails. -/
  readFault : Bool
  /-- The next write fails when the pipe has taken so many bytes. -/
  writeFault : Option Nat
  /-- The next flush fails. -/
  flushFault : Bool
  /-- The next shutdown fails. -/
  shutdownFault : Bool
deriving DecidableEq

/-- A read waits while the client is silent. -/
inductive Pipe.Reading where
  | waiting
  | ended
  | failed
  | bytes (bytes : Bytes)
deriving DecidableEq

namespace Pipe

/-- Nothing has travelled yet. -/
def fresh : Pipe := ⟨.empty, false, .empty, false, false, none, false, false⟩

/-- The client sends bytes. -/
def deliver (pipe : Pipe) (bytes : Bytes) : Pipe :=
  { pipe with arrived := pipe.arrived.push bytes }

/-- The calls of a server on its pipe. -/
inductive Call where
  | read
  /-- A write that fails may have taken some bytes before. -/
  | write (taken : Nat)
  | flush
  | shutdown
deriving DecidableEq

/-- A write that fails takes no bytes. -/
def Call.Clean : Call → Prop
  | .write taken => taken = 0
  | _ => True

/-- The next call of this kind will fail. -/
def disturb (pipe : Pipe) : Call → Pipe
  | .read => { pipe with readFault := true }
  | .write taken => { pipe with writeFault := some taken }
  | .flush => { pipe with flushFault := true }
  | .shutdown => { pipe with shutdownFault := true }

/-- The client stops sending. -/
def finish (pipe : Pipe) : Pipe := { pipe with ended := true }

/-- A read takes as many bytes as have arrived and as there is room for. A failing read takes no
bytes and comes before the bytes and the end. -/
def read (pipe : Pipe) (room : Nat) : Reading × Pipe :=
  if pipe.readFault then (.failed, { pipe with readFault := false })
  else if pipe.arrived.size = 0 then (if pipe.ended then .ended else .waiting, pipe)
  else (.bytes (pipe.arrived.toList.take room), { pipe with arrived := pipe.arrived.drop room })

/-- A failing write never takes the last byte. -/
def write (pipe : Pipe) (bytes : Bytes) : Bool × Pipe :=
  match pipe.writeFault with
  | none => (true, { pipe with written := pipe.written.push bytes })
  | some taken =>
      (false,
        { pipe with written := pipe.written.push (bytes.dropLast.take taken), writeFault := none })

/-- The bytes that were written are sent on. They stay written if this fails. -/
def flush (pipe : Pipe) : Bool × Pipe := (!pipe.flushFault, { pipe with flushFault := false })

/-- The attempt counts even if it fails. -/
def shutdown (pipe : Pipe) : Pipe :=
  { pipe with shut := true, shutdownFault := false }

/-- Neither a write nor a flush will fail. -/
structure Writable (pipe : Pipe) : Prop where
  write : pipe.writeFault = none
  flush : pipe.flushFault = false

/-- A write that is to fail will take no bytes. -/
def Clean (pipe : Pipe) : Prop := ∀ taken, pipe.writeFault = some taken → taken = 0

theorem Clean.of_eq {before after : Pipe} (clean : before.Clean)
    (same : after.writeFault = before.writeFault) : after.Clean := by
  rw [Clean, same]
  exact clean

theorem Clean.disturb {pipe : Pipe} {call : Call} (clean : pipe.Clean) (gentle : call.Clean) :
    (pipe.disturb call).Clean := by
  cases call with
  | write count =>
      intro taken fault
      cases fault
      exact gentle
  | read | flush | shutdown => exact clean

theorem Writable.clean {pipe : Pipe} (sound : pipe.Writable) : pipe.Clean := by
  intro taken fault
  rw [sound.write] at fault
  cases fault

theorem read_bytes (pipe next : Pipe) (room : Nat) (bytes : Bytes)
    (same : pipe.read room = (.bytes bytes, next)) :
    bytes = pipe.arrived.toList.take room ∧
      next = { pipe with arrived := pipe.arrived.drop room } ∧ 0 < pipe.arrived.size := by
  unfold read at same
  split at same
  · cases same
  · split at same
    · split at same
      all_goals cases same
    · next full =>
        cases same
        exact ⟨rfl, rfl, Nat.pos_of_ne_zero full⟩

theorem arrived_of_waiting (pipe next : Pipe) (room : Nat)
    (same : pipe.read room = (.waiting, next)) : pipe.arrived.size = 0 := by
  unfold read at same
  split at same
  · cases same
  · split at same
    · assumption
    · cases same

theorem write_true (pipe next : Pipe) (bytes : Bytes) (same : pipe.write bytes = (true, next)) :
    pipe.writeFault = none ∧ next = { pipe with written := pipe.written.push bytes } := by
  unfold write at same
  split at same
  · next calm =>
      cases same
      exact ⟨calm, rfl⟩
  · cases same

theorem write_false (pipe next : Pipe) (bytes : Bytes) (same : pipe.write bytes = (false, next)) :
    ∃ taken, pipe.writeFault = some taken ∧
      next = { pipe with
        written := pipe.written.push (bytes.dropLast.take taken)
        writeFault := none } := by
  unfold write at same
  split at same
  · cases same
  · next taken fault =>
      cases same
      exact ⟨taken, fault, rfl⟩

theorem flush_true (pipe next : Pipe) (same : pipe.flush = (true, next)) : next = pipe := by
  obtain ⟨calm, rfl⟩ := Prod.mk.inj same
  have calm : pipe.flushFault = false := by simpa using calm
  rw [← calm]

theorem flush_false (pipe next : Pipe) (same : pipe.flush = (false, next)) :
    pipe.flushFault = true ∧ next = { pipe with flushFault := false } := by
  obtain ⟨fault, rfl⟩ := Prod.mk.inj same
  exact ⟨by simpa using fault, rfl⟩

theorem arrived_lt_of_read (pipe next : Pipe) (room : Nat) (bytes : Bytes) (some : 0 < room)
    (same : pipe.read room = (.bytes bytes, next)) : next.arrived.size < pipe.arrived.size := by
  obtain ⟨_, left, full⟩ := read_bytes pipe next room bytes same
  rw [left, ByteQueue.size_drop]
  omega

end Pipe

end GameServer
