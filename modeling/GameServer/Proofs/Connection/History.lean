import GameServer.Connection.Progress

/- This file lets things happen to one connection, in any order and at any time. -/

namespace GameServer

/-- What happens to a connection. -/
inductive Connection.Happening where
  | deliver (bytes : Bytes)
  | finish
  | disturb (call : Pipe.Call)
  /-- The authenticator answers. -/
  | answer (verdict : Verdict)
  /-- Seconds pass, and then the connection moves with the registry that it finds. -/
  | move (seconds : Nat) (registry : PlayerRegistry) (picks : List Branch)

/-- A connection at a time, with all that it has reported and all that its client has sent. -/
structure Life where
  now : Nat
  connection : Connection
  reports : List Report
  sent : Bytes

namespace Life

open Connection (Happening)

/-- A connection begins with a client that has sent nothing. -/
def start (server : Server) (info : SessionInfo) (serverKey : UInt64) (now : Nat) : Life :=
  ⟨now, .start server info .fresh serverKey now, [], []⟩

/-- The pipe of the connection is changed from outside. -/
def onPipe (life : Life) (change : Pipe → Pipe) : Life :=
  { life with
    connection.session.pipe := change life.connection.session.pipe }

/-- The move that the connection would make. -/
def moveAfter (server : Server) (life : Life) (seconds : Nat) (registry : PlayerRegistry)
    (picks : List Connection.Branch) : Connection.Move :=
  life.connection.move server (life.now + seconds) registry picks

/-- A connection that waits for a verdict does what such a wait may come to. -/
theorem awaits_moveAfter {life : Life} {attempt : LoginAttempt} {since : Nat}
    (stage : life.connection.stage = .authenticating attempt since) (server : Server)
    (seconds : Nat) (registry : PlayerRegistry) (picks : List Connection.Branch) :
    Connection.Awaits server (life.now + seconds) registry attempt since life.connection.session
      (life.moveAfter server seconds registry picks) := by
  rw [moveAfter, Connection.move, stage]
  exact Connection.awaits_awaitVerdict _ picks

/-- One thing happens. -/
def next (server : Server) (life : Life) : Happening → Life
  | .deliver bytes => { life.onPipe (·.deliver bytes) with sent := life.sent ++ bytes }
  | .finish => life.onPipe (·.finish)
  | .disturb call => life.onPipe (·.disturb call)
  | .answer verdict => { life with connection := life.connection.resolve verdict }
  | .move seconds registry picks =>
      let moved := life.moveAfter server seconds registry picks
      { life with
        now := life.now + seconds
        connection := moved.connection
        reports := life.reports ++ moved.reports }

/-- Things happen one after another. -/
def run (server : Server) (life : Life) (history : List Happening) : Life :=
  history.foldl (next server) life

@[simp] theorem run_nil (server : Server) (life : Life) : run server life [] = life := rfl

@[simp] theorem run_concat (server : Server) (life : Life) (history : List Happening)
    (happening : Happening) :
    run server life (history ++ [happening]) = (run server life history).next server happening := by
  rw [run, List.foldl_append]
  rfl

theorem run_append (server : Server) (life : Life) (first second : List Happening) :
    run server life (first ++ second) = run server (run server life first) second :=
  List.foldl_append

/-- The condition holds of everything that happens and the life that it happens to. -/
def Along (condition : Life → Happening → Prop) (server : Server) (life : Life)
    (history : List Happening) : Prop :=
  ∀ before happening after, history = before ++ happening :: after →
    condition (run server life before) happening

section Along

variable {condition : Life → Happening → Prop} {server : Server} {life : Life}
  {history : List Happening}

theorem Along.init {happening : Happening}
    (along : Along condition server life (history ++ [happening])) :
    Along condition server life history := by
  intro before other after same
  refine along before other (after ++ [happening]) ?_
  rw [same, List.append_assoc, List.cons_append]

theorem Along.last {happening : Happening}
    (along : Along condition server life (history ++ [happening])) :
    condition (run server life history) happening :=
  along history happening [] rfl

theorem Along.front {later : List Happening}
    (along : Along condition server life (history ++ later)) :
    Along condition server life history := by
  intro before other after same
  refine along before other (after ++ later) ?_
  rw [same, List.append_assoc, List.cons_append]

theorem along_nil : Along condition server life [] := by
  intro before happening after same
  cases before <;> cases same

theorem along_cons {happening : Happening} (first : condition life happening)
    (along : Along condition server (life.next server happening) history) :
    Along condition server life (happening :: history) := by
  intro before other after same
  cases before with
  | nil =>
      cases same
      exact first
  | cons former before =>
      cases same
      exact along before other after rfl

theorem Along.concat {happening : Happening} (along : Along condition server life history)
    (last : condition (run server life history) happening) :
    Along condition server life (history ++ [happening]) := by
  intro before other after same
  rcases List.eq_nil_or_concat after with empty | ⟨rest, final, split⟩
  · subst empty
    obtain ⟨first, second⟩ := List.append_inj' same rfl
    cases second
    exact first ▸ last
  · subst split
    rw [List.concat_eq_append, ← List.cons_append, ← List.append_assoc] at same
    obtain ⟨first, second⟩ := List.append_inj' same rfl
    exact along before other rest first

end Along

/-- An authenticator answers once, and only a question. -/
def Answers (life : Life) : Happening → Prop
  | .answer _ =>
      (∃ request, .asked request ∈ life.reports) ∧
        ∀ attempt since, life.connection.stage = .authenticating attempt since →
          attempt.verdict = none
  | _ => True

/-- No answer comes unasked. -/
abbrev Lawful := Along Answers

theorem lawful_of_silence {server : Server} {life : Life} (history : List Happening)
    (silent : ∀ verdict, .answer verdict ∉ history) : Lawful server life history := by
  intro before happening after same
  cases happening with
  | answer verdict =>
      refine absurd ?_ (silent verdict)
      rw [same]
      exact List.mem_append_right before List.mem_cons_self
  | deliver bytes => trivial
  | finish => trivial
  | disturb call => trivial
  | move seconds registry picks => trivial

end Life

end GameServer
