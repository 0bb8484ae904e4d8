/- This file says which characters are white space. -/

namespace GameServer.Text

/-- The white space characters are the blanks, the line ends and the spaces of all widths. -/
def isBlank (character : Char) : Bool :=
  let point := character.toNat
  (9 ≤ point && point ≤ 13) || point == 0x20 || point == 0x85 || point == 0xa0 ||
    point == 0x1680 || (0x2000 ≤ point && point ≤ 0x200a) || point == 0x2028 ||
    point == 0x2029 || point == 0x202f || point == 0x205f || point == 0x3000

theorem isBlank_of_isWhitespace (character : Char) (blank : character.isWhitespace = true) :
    isBlank character = true := by
  simp only [Char.isWhitespace, Bool.or_eq_true, decide_eq_true_eq] at blank
  rcases blank with ((same | same) | same) | same <;> subst same <;> decide

/-- White space is dropped from both ends. -/
def trimChars (characters : List Char) : List Char :=
  ((characters.dropWhile isBlank).reverse.dropWhile isBlank).reverse

theorem isBlank_head_dropWhile (characters : List Char) (character : Char)
    (first : (characters.dropWhile isBlank).head? = some character) :
    isBlank character = false := by
  have found := List.head?_dropWhile_not isBlank characters
  rw [first] at found
  exact found

theorem isBlank_last_trimChars (characters : List Char) (character : Char)
    (last : (trimChars characters).getLast? = some character) : isBlank character = false := by
  rw [trimChars, List.getLast?_reverse] at last
  exact isBlank_head_dropWhile _ _ last

theorem isBlank_head_trimChars (characters : List Char) (character : Char)
    (first : (trimChars characters).head? = some character) : isBlank character = false := by
  have front : trimChars characters <+: characters.dropWhile isBlank := by
    rw [trimChars, ← List.reverse_suffix, List.reverse_reverse]
    exact List.dropWhile_suffix isBlank
  obtain ⟨dropped, whole⟩ := front
  refine isBlank_head_dropWhile characters character ?_
  rw [← whole, List.head?_append, first]
  rfl

/-- The text without the white space at its ends. -/
def trim (text : String) : String :=
  String.ofList (trimChars text.toList)

/-- A word in progress is kept reversed in front of the words that follow it. -/
def wordsFrom (current : List Char) : List Char → List (List Char)
  | [] => if current.isEmpty then [] else [current.reverse]
  | character :: rest =>
      if isBlank character then
        if current.isEmpty then wordsFrom [] rest else current.reverse :: wordsFrom [] rest
      else
        wordsFrom (character :: current) rest

/-- The words are the longest pieces without white space, and none is empty. -/
def words (text : String) : List String :=
  (wordsFrom [] text.toList).map String.ofList

theorem wordsFrom_ne_nil (current characters word : List Char)
    (member : word ∈ wordsFrom current characters) : word ≠ [] := by
  induction characters generalizing current with
  | nil =>
      rw [wordsFrom] at member
      split at member
      · simp at member
      · next full =>
          rw [List.mem_singleton] at member
          simpa [member] using full
  | cons character rest ih =>
      rw [wordsFrom] at member
      split at member
      · split at member
        · exact ih [] member
        · next full =>
            rcases List.mem_cons.mp member with same | later
            · simpa [same] using full
            · exact ih [] later
      · exact ih (character :: current) member

end GameServer.Text
