/- A scanner takes a value off the front of a text. -/

namespace GameServer.Json

/-- A text is not the wanted value for one of these causes. -/
inductive Fault where
  /-- The text ends too early. -/
  | ended
  /-- The text is not JSON. -/
  | illFormed
  /-- The text is JSON so far, and the value is not of the wanted shape. -/
  | unfit
deriving DecidableEq

/-- A scanner leaves no more text than it was given. -/
structure Scanner (α : Type) where
  run (text : List Char) : Except Fault (α × List Char)
  shrinks : ∀ text value rest, run text = .ok (value, rest) → rest.length ≤ text.length

namespace Scanner

variable {α β σ : Type}

/-- This scanner takes nothing. -/
def done (value : α) : Scanner α where
  run text := .ok (value, text)
  shrinks text found rest same := by
    cases same
    exact Nat.le_refl _

/-- The second scanner goes on where the first stopped. -/
def andThen (first : Scanner α) (second : α → Scanner β) : Scanner β where
  run text :=
    match first.run text with
    | .error fault => .error fault
    | .ok (value, rest) => (second value).run rest
  shrinks text found rest same := by
    split at same
    · cases same
    · next value middle taken =>
        exact Nat.le_trans ((second value).shrinks middle found rest same)
          (first.shrinks text value middle taken)

instance : Monad Scanner where
  pure := done
  bind := andThen

/-- This scanner never succeeds. -/
def fail (fault : Fault) : Scanner α where
  run _ := .error fault
  shrinks _ _ _ same := by cases same

/-- The next character stays in place. -/
def peek : Scanner (Option Char) where
  run text := .ok (text.head?, text)
  shrinks text found rest same := by
    cases same
    exact Nat.le_refl _

/-- The next character is taken. -/
def next : Scanner (Option Char) where
  run text := .ok (text.head?, text.tail)
  shrinks text found rest same := by
    cases same
    simp

/-- All characters in front that pass the test are taken. -/
def takeWhile (test : Char → Bool) : Scanner (List Char) where
  run text := .ok (text.takeWhile test, text.dropWhile test)
  shrinks text found rest same := by
    cases same
    exact (List.dropWhile_sublist test).length_le

/-- The rounds of a loop go on until one yields a result, and the end of the text is a fault. -/
def rounds (round : σ → Char → Scanner (σ ⊕ α)) (state : σ) :
    List Char → Except Fault (α × List Char)
  | [] => .error .ended
  | character :: text =>
      match _same : (round state character).run text with
      | .error fault => .error fault
      | .ok (.inr value, rest) => .ok (value, rest)
      | .ok (.inl after, rest) => rounds round after rest
termination_by text => text.length
decreasing_by
  have fewer := (round state character).shrinks text _ rest _same
  simp only [List.length_cons]
  omega

theorem length_rounds (round : σ → Char → Scanner (σ ⊕ α)) (state : σ) (text : List Char)
    (value : α) (rest : List Char) (same : rounds round state text = .ok (value, rest)) :
    rest.length ≤ text.length := by
  fun_induction rounds round state text with
  | case1 => cases same
  | case2 => cases same
  | case3 state character text found left taken =>
      cases same
      have fewer := (round state character).shrinks text _ rest taken
      simp only [List.length_cons]
      omega
  | case4 state character text again left taken ih =>
      have fewer := (round state character).shrinks text _ left taken
      have later := ih same
      simp only [List.length_cons]
      omega

/-- Every round of a loop takes at least one character. -/
def loop (round : σ → Char → Scanner (σ ⊕ α)) (state : σ) : Scanner α :=
  ⟨rounds round state, length_rounds round state⟩

end Scanner

end GameServer.Json
