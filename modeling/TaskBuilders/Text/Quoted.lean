import TaskBuilders.Text.PrintTable

/-!
# Quoted texts

A text between double quotes in which quotes, backslashes and everything that cannot be printed are
escaped, so that it reads back as a string literal.
-/

namespace TaskBuilders.Text

/-- Letters, marks, numbers, punctuation, symbols and the ASCII space. -/
def isPrintable (c : Char) : Bool :=
  if c.toNat < 0x80 then 0x20 ≤ c.toNat && c.toNat ≤ 0x7E else onRuns printTable c

/-- A hexadecimal digit in lower case. -/
def hexDigit (n : Nat) : Char :=
  if n % 16 < 10 then Char.ofNat (0x30 + n % 16) else Char.ofNat (0x57 + n % 16)

/-- The last `width` hexadecimal digits of a number. -/
def hexDigits (n : Nat) : (width : Nat) → List Char
  | 0 => []
  | w + 1 => hexDigits (n / 16) w ++ [hexDigit n]

namespace Quoted

/-- The escapes that have a letter of their own. -/
def letterEscape? (c : Char) : Option Char :=
  match c.toNat with
  | 0x07 => some 'a'
  | 0x08 => some 'b'
  | 0x0C => some 'f'
  | 0x0A => some 'n'
  | 0x0D => some 'r'
  | 0x09 => some 't'
  | 0x0B => some 'v'
  | _ => none

/-- The escape of a character that has neither a letter nor a printed form. -/
def numericEscape (c : Char) : List Char :=
  if c.toNat < 0x20 || c.toNat == 0x7F then '\\' :: 'x' :: hexDigits c.toNat 2
  else if c.toNat < 0x10000 then '\\' :: 'u' :: hexDigits c.toNat 4
  else '\\' :: 'U' :: hexDigits c.toNat 8

/-- One character between quotes `q`. -/
def encodeBetween (q c : Char) : List Char :=
  if c = q || c = '\\' then ['\\', c]
  else if isPrintable c then [c]
  else
    match letterEscape? c with
    | some l => ['\\', l]
    | none => numericEscape c

/-- One character between double quotes. -/
def encodeChar (c : Char) : List Char := encodeBetween '"' c

end Quoted

/-- A character as a literal between single quotes. -/
def quoteChar (c : Char) : String :=
  String.ofList ('\'' :: Quoted.encodeBetween '\'' c ++ ['\''])

/-- A text as a double-quoted literal. -/
def quote (s : String) : String :=
  String.ofList ('"' :: s.toList.flatMap Quoted.encodeChar ++ ['"'])

end TaskBuilders.Text
