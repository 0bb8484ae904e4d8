import GameServer.Json.Scalar

/- This file scans objects, lists and records with defaults. -/

namespace GameServer.Json

open Scanner

/-- An object or a list that is not closed yet. -/
inductive Opened where
  | list
  | object
deriving DecidableEq

/-- What may come next while values are passed over. -/
inductive Expected where
  | value
  /-- A value or the end of the list. -/
  | firstItem
  | key
  /-- A key or the end of the object. -/
  | firstKey
  /-- A comma or the end of what is open. -/
  | afterValue
deriving DecidableEq

/-- After a value, the innermost open list or object goes on. -/
def closed (opened : List Opened) : (List Opened × Expected) ⊕ Unit :=
  if opened.isEmpty then .inr () else .inl (opened, .afterValue)

/-- A key and its colon are passed over. -/
def colon : Scanner Unit := do
  skipSpace
  match ← next with
  | some ':' => pure ()
  | some _ => fail .illFormed
  | none => fail .ended

/-- A value begins with this character. -/
def skipBegun (opened : List Opened) (character : Char) :
    Scanner ((List Opened × Expected) ⊕ Unit) := do
  match character with
  | '[' => return .inl (.list :: opened, .firstItem)
  | '\x7b' => return .inl (.object :: opened, .firstKey)
  | '"' =>
      skipQuoted
      return closed opened
  | 'n' =>
      word ['u', 'l', 'l']
      return closed opened
  | 't' =>
      word ['r', 'u', 'e']
      return closed opened
  | 'f' =>
      word ['a', 'l', 's', 'e']
      return closed opened
  | '-' =>
      skipNumber []
      return closed opened
  | _ =>
      if character.isDigit then
        skipNumber [character]
        return closed opened
      else fail .illFormed

/-- A round passes over one part of a value, however deep it is. -/
def valueRound (state : List Opened × Expected) (character : Char) :
    Scanner ((List Opened × Expected) ⊕ Unit) := do
  let (opened, expected) := state
  if isSpace character then
    return .inl state
  else
    match expected, character, opened with
    | .firstItem, ']', _ :: outer => return closed outer
    | .firstKey, '\x7d', _ :: outer => return closed outer
    | .afterValue, ']', .list :: outer => return closed outer
    | .afterValue, '\x7d', .object :: outer => return closed outer
    | .afterValue, ',', .list :: _ => return .inl (opened, .value)
    | .afterValue, ',', .object :: _ => return .inl (opened, .key)
    | .afterValue, _, _ => fail .illFormed
    | .key, '"', _ | .firstKey, '"', _ =>
        skipQuoted
        colon
        return .inl (opened, .value)
    | .key, _, _ | .firstKey, _, _ => fail .illFormed
    | .value, _, _ | .firstItem, _, _ => skipBegun opened character

/-- One value is passed over. -/
def skipValue : Scanner Unit := loop valueRound ([], .value)

variable {σ : Type}

/-- A round of an object takes one member or the closing brace. -/
def memberRound (member : σ → String → Scanner σ) (state : σ × Expected) (character : Char) :
    Scanner ((σ × Expected) ⊕ σ) := do
  let (value, expected) := state
  if isSpace character then
    return .inl state
  else
    match expected, character with
    | .firstKey, '\x7d' | .afterValue, '\x7d' => return .inr value
    | .afterValue, ',' => return .inl (value, .key)
    | .firstKey, '"' | .key, '"' => return .inl (← member value (← quoted), .afterValue)
    | _, _ => fail .illFormed

/-- The members behind the opening brace change a value one after the other. -/
def members (member : σ → String → Scanner σ) (value : σ) : Scanner σ :=
  loop (memberRound member) (value, .firstKey)

/-- A field of a record has a name and changes the record by its value. -/
structure RecordField (σ : Type) where
  name : String
  update : Scanner (σ → σ)

/-- A field must not be given twice, and a member that is no field is passed over. -/
def fieldMember (fields : List (RecordField σ)) (state : σ × List String) (key : String) :
    Scanner (σ × List String) := do
  match fields.find? fun field => field.name == key with
  | some field =>
      if state.2.contains key then fail .unfit
      else
        colon
        return ((← field.update) state.1, key :: state.2)
  | none =>
      colon
      skipValue
      return state

/-- Nothing but the closing bracket may follow the last field of a list. -/
def closeList : Scanner Unit := do
  skipSpace
  match ← next with
  | some ']' => pure ()
  | some _ => fail .illFormed
  | none => fail .ended

/-- A list may end before its last field, and a comma stands between two fields. -/
def fieldItems (value : σ) (first : Bool) : List (RecordField σ) → Scanner σ
  | [] => do
      closeList
      return value
  | field :: fields => do
      skipSpace
      match ← peek with
      | none => fail .ended
      | some ']' =>
          closeList
          return value
      | some character =>
          if !first then
            if character = ',' then
              let _ ← next
              skipSpace
              if (← peek) = some ']' then fail .illFormed
            else fail .illFormed
          fieldItems ((← field.update) value) false fields

/-- A record is an object of its fields, or a list of them in order. -/
def record (fields : List (RecordField σ)) (defaults : σ) : Scanner σ := do
  skipSpace
  match ← peek with
  | some '\x7b' =>
      let _ ← next
      return (← members (fieldMember fields) (defaults, [])).1
  | some '[' =>
      let _ ← next
      fieldItems defaults true fields
  | _ => misfit

/-- A later member of a dictionary takes the place of an earlier one of the same key. -/
def dictionary : Scanner (List (String × String)) := do
  skipSpace
  match ← peek with
  | some '\x7b' =>
      let _ ← next
      members (fun entries key => do
        colon
        let value ← textValue
        return entries.filter (fun entry => entry.1 != key) ++ [(key, value)]) []
  | _ => misfit

/-- A document is one value with white space around it. -/
def document (value : Scanner σ) (text : String) : Except Fault σ :=
  match (do let found ← value; skipSpace; return found : Scanner σ).run text.toList with
  | .error fault => .error fault
  | .ok (found, []) => .ok found
  | .ok (_, _ :: _) => .error .illFormed

end GameServer.Json
