import GameServer.Text.Escaped

/- This file writes records, cases, lists and quoted text for diagnostics. -/

namespace GameServer.Diagnostic

/-- A text of hexadecimal digits without leading zeros. -/
def hex (value : Nat) : String :=
  String.ofList (Nat.toDigits 16 value)

/-- Some characters of quoted text have an escape of their own. -/
def quotedChar (character : Char) : String :=
  match character with
  | '\t' => "\\t"
  | '\r' => "\\r"
  | '\n' => "\\n"
  | '"' => "\\\""
  | '\\' => "\\\\"
  | character =>
      if character.toNat = 0 then "\\0"
      else if Text.isEscaped character then
        "\\u\x7b" ++ hex character.toNat ++ "\x7d"
      else String.singleton character

/-- A text stands in double quotes. -/
def quoted (text : String) : String :=
  "\"" ++ String.join (text.toList.map quotedChar) ++ "\""

/-- The items of a list stand in brackets. -/
def list (items : List String) : String :=
  "[" ++ ", ".intercalate items ++ "]"

/-- A field is written with its name. -/
def field (name value : String) : String :=
  name ++ ": " ++ value

/-- All fields of a record stand in braces. -/
def record (name : String) (fields : List (String × String)) : String :=
  name ++ " \x7b " ++ ", ".intercalate (fields.map fun entry => field entry.1 entry.2) ++ " \x7d"

/-- Two dots stand for the fields that are not shown. -/
def partialRecord (name : String) (fields : List (String × String)) : String :=
  name ++ " \x7b " ++ ", ".intercalate ((fields.map fun entry => field entry.1 entry.2) ++ [".."]) ++
    " \x7d"

/-- A case carries its argument in parentheses. -/
def applied (name argument : String) : String :=
  name ++ "(" ++ argument ++ ")"

/-- A value may be absent. -/
def optional (value : Option String) : String :=
  match value with
  | some text => applied "Some" text
  | none => "None"

/-- A truth value. -/
def bool (value : Bool) : String :=
  if value then "true" else "false"

/-- A pair stands in parentheses. -/
def pair (first second : String) : String :=
  "(" ++ first ++ ", " ++ second ++ ")"

/-- A secret is replaced by this text. -/
def redacted : String := quoted "<redacted>"

end GameServer.Diagnostic
