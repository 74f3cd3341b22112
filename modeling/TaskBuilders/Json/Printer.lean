import TaskBuilders.Json.Basic
import TaskBuilders.Text.Affix
import TaskBuilders.Text.Quoted

/-!
# Writing JSON

Two layouts: one line without blanks, and two blanks of indentation a level. Strings escape quotes,
backslashes and control characters, and the characters `<`, `>`, `&`, U+2028 and U+2029, which the
surroundings of a script would misread.
-/

namespace TaskBuilders.Json

open Text

/-- One character inside a string. -/
def escapeChar (c : Char) : List Char :=
  if c = '"' || c = '\\' then ['\\', c]
  else
    match c.toNat with
    | 0x08 => ['\\', 'b']
    | 0x0C => ['\\', 'f']
    | 0x0A => ['\\', 'n']
    | 0x0D => ['\\', 'r']
    | 0x09 => ['\\', 't']
    | n =>
      if n < 0x20 || c = '<' || c = '>' || c = '&' || n = 0x2028 || n = 0x2029 then
        '\\' :: 'u' :: hexDigits n 4
      else [c]

/-- A string literal. -/
def writeString (s : String) : List Char := '"' :: s.toList.flatMap escapeChar ++ ['"']

/-- A new line, indented by two blanks a level. -/
def newline (level : Nat) : List Char := '\n' :: List.replicate (2 * level) ' '

mutual

/-- A value on lines that are indented by `level`. -/
def writeIndented (level : Nat) : Json → List Char
  | null => "null".toList
  | bool b => (if b then "true" else "false").toList
  | number text => text.toList
  | string s => writeString s
  | array [] => ['[', ']']
  | array (v :: vs) =>
    '[' :: newline (level + 1) ++ writeIndented (level + 1) v ++ writeItems (level + 1) vs
      ++ newline level ++ [']']
  | object [] => ['{', '}']
  | object ((k, v) :: ms) =>
    '{' :: newline (level + 1) ++ writeString k ++ [':', ' '] ++ writeIndented (level + 1) v
      ++ writeMembers (level + 1) ms ++ newline level ++ ['}']

/-- The items of an array behind the first. -/
def writeItems (level : Nat) : List Json → List Char
  | [] => []
  | v :: vs => ',' :: newline level ++ writeIndented level v ++ writeItems level vs

/-- The members of an object behind the first. -/
def writeMembers (level : Nat) : List (String × Json) → List Char
  | [] => []
  | (k, v) :: ms =>
    ',' :: newline level ++ writeString k ++ [':', ' '] ++ writeIndented level v
      ++ writeMembers level ms

end

/-- A value as an indented document with a final line break. -/
def document (j : Json) : String := String.ofList (writeIndented 0 j ++ ['\n'])

mutual

/-- A value on one line. -/
def writeCompact : Json → String
  | null => "null"
  | bool b => if b then "true" else "false"
  | number text => text
  | string s => String.ofList (writeString s)
  | array vs => "[" ++ join "," (compactItems vs) ++ "]"
  | object ms => "\x7b" ++ join "," (compactMembers ms) ++ "\x7d"

/-- The items of an array on one line. -/
def compactItems : List Json → List String
  | [] => []
  | v :: vs => writeCompact v :: compactItems vs

/-- The members of an object on one line. -/
def compactMembers : List (String × Json) → List String
  | [] => []
  | (k, v) :: ms => (String.ofList (writeString k) ++ ":" ++ writeCompact v) :: compactMembers ms

end

end TaskBuilders.Json
