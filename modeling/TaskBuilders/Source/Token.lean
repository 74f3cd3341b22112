import TaskBuilders.Naming.Identifier

/-!
# Tokens of generated source

The scanner is one fold over the characters of a file: a state takes a character and gives the next
state. A line break ends a statement when the last token before it can end one.
-/

namespace TaskBuilders.Source

open Naming

/-- A token; comments leave none. -/
inductive Token where
  | ident (s : String)
  | keyword (s : String)
  | number (s : String)
  | char (s : String)
  /-- An interpreted string, with the text between its quotes. -/
  | string (s : String)
  | rawString
  | op (s : String)
deriving Repr, DecidableEq

namespace Token

/-- Operators and punctuation. -/
def operators : List String :=
  ["+", "-", "*", "/", "%", "&", "|", "^", "<<", ">>", "&^", "+=", "-=", "*=", "/=", "%=", "&=",
   "|=", "^=", "<<=", ">>=", "&^=", "&&", "||", "<-", "++", "--", "==", "<", ">", "=", "!", "~",
   "!=", "<=", ">=", ":=", "...", "(", "[", "\x7b", ",", ".", ")", "]", "\x7d", ";", ":"]

/-- Whether a line break behind the token ends a statement. -/
def endsStatement : Token → Bool
  | .keyword s => ["break", "continue", "fallthrough", "return"].contains s
  | .op s => ["++", "--", ")", "]", "\x7d"].contains s
  | _ => true

end Token

/-! ## Literals -/

/-- Whether a character is a digit of a base up to sixteen. -/
def isDigitOf (base : Nat) (c : Char) : Bool :=
  let n := c.toNat
  if 0x30 ≤ n && n ≤ 0x39 then n - 0x30 < base
  else if 0x61 ≤ n && n ≤ 0x66 then n - 0x57 < base
  else if 0x41 ≤ n && n ≤ 0x46 then n - 0x37 < base
  else false

/-- Digits of a base; an underscore may stand between two digits, and before the first one behind a
base mark. -/
def areDigits (base : Nat) (marked : Bool) : List Char → Bool
  | [] => true
  | ['_'] => false
  | '_' :: c :: cs => marked && isDigitOf base c && areDigits base true cs
  | c :: cs => isDigitOf base c && areDigits base true cs

/-- Whether the characters are a decimal number with a fraction or an exponent. -/
def isDecimal (cs : List Char) : Bool :=
  let mantissa := cs.takeWhile (fun c => c != 'e' && c != 'E')
  let exponent := cs.drop mantissa.length
  let whole := mantissa.takeWhile (· != '.')
  let fraction := (mantissa.drop whole.length).drop 1
  let exponentOk := match exponent with
    | [] => true
    | _ :: rest =>
      let digits := match rest with
        | '+' :: ds => ds
        | '-' :: ds => ds
        | ds => ds
      !digits.isEmpty && areDigits 10 false digits
  areDigits 10 false whole && areDigits 10 false fraction && (!whole.isEmpty || !fraction.isEmpty)
    && exponentOk

/-- Whether the characters are a number. -/
def isNumberLiteral (cs : List Char) : Bool :=
  let cs := match cs.getLast? with
    | some 'i' => cs.dropLast
    | _ => cs
  match cs with
  | '0' :: x :: rest =>
    if x = 'x' || x = 'X' then !rest.isEmpty && areDigits 16 true rest
    else if x = 'b' || x = 'B' then !rest.isEmpty && areDigits 2 true rest
    else if x = 'o' || x = 'O' then !rest.isEmpty && areDigits 8 true rest
    else if (x :: rest).all (fun c => c.isDigit || c == '_') then areDigits 8 true (x :: rest)
    else isDecimal cs
  | _ => isDecimal cs

/-- The number that digits of a base write. -/
def digitsValue (base : Nat) (cs : List Char) : Nat :=
  cs.foldl (fun n c =>
    let d := if c.toNat ≤ 0x39 then c.toNat - 0x30 else c.toUpper.toNat - 0x37
    n * base + d) 0

/-- How many digits of which base follow a numeric escape, and the least number that is none. -/
def escapeForm? : Char → Option (Nat × Nat × Nat)
  | 'x' => some (2, 16, 256)
  | 'u' => some (4, 16, 0x110000)
  | 'U' => some (8, 16, 0x110000)
  | _ => none

/-- The characters of a quoted literal, counting each escape as one; none when an escape is
malformed. -/
def countQuoted (quote : Char) : List Char → Option Nat
  | [] => some 0
  | '\\' :: e :: rest =>
    if ['a', 'b', 'f', 'n', 'r', 't', 'v', '\\', quote].contains e then
      (countQuoted quote rest).map (· + 1)
    else
      match escapeForm? e with
      | some (count, base, bound) =>
        let digits := rest.take count
        let value := digitsValue base digits
        if digits.length = count && digits.all (isDigitOf base) && value < bound &&
            !(e != 'x' && 0xD800 ≤ value && value < 0xE000) then
          (countQuoted quote (rest.drop count)).map (· + 1)
        else none
      | none =>
        let digits := e :: rest.take 2
        if digits.length = 3 && digits.all (isDigitOf 8) && digitsValue 8 digits < 256 then
          (countQuoted quote (rest.drop 2)).map (· + 1)
        else none
  | ['\\'] => none
  | _ :: rest => (countQuoted quote rest).map (· + 1)
termination_by cs => cs.length
decreasing_by
  all_goals simp_wf
  all_goals omega

/-! ## The scanner -/

/-- What the scanner is inside of, with the characters read so far, last first. -/
inductive ScanMode where
  | plain
  | word (back : List Char)
  | number (back : List Char)
  | op (back : List Char)
  | string (back : List Char) (escaped : Bool)
  | char (back : List Char) (escaped : Bool)
  | raw
  | lineComment
  | blockComment (star : Bool) (broken : Bool)
deriving Repr, DecidableEq

/-- The state of the scanner. -/
structure Scan where
  mode : ScanMode := .plain
  /-- The tokens so far, last first. -/
  back : List Token := []
  /-- Whether something was met that is no token. -/
  failed : Bool := false

namespace Scan

/-- Adds a token. -/
def push (s : Scan) (t : Token) : Scan := { s with mode := .plain, back := t :: s.back }

/-- Gives up. -/
def fail (s : Scan) : Scan := { s with mode := .plain, failed := true }

/-- Ends the statement when the last token can end one. -/
def lineBreak (s : Scan) : Scan :=
  match s.back with
  | t :: _ => if t.endsStatement then s.push (.op ";") else { s with mode := .plain }
  | [] => { s with mode := .plain }

/-- Ends the token that is being read. -/
def finish (s : Scan) : Scan :=
  match s.mode with
  | .word back =>
    let w := String.ofList back.reverse
    s.push (if keywords.contains w then .keyword w else .ident w)
  | .number back =>
    if isNumberLiteral back.reverse then s.push (.number (String.ofList back.reverse)) else s.fail
  | .op back =>
    if back = ['.', '.'] then (s.push (.op ".")).push (.op ".")
    else s.push (.op (String.ofList back.reverse))
  | .string _ _ => s.fail
  | .char _ _ => s.fail
  | .raw => s.fail
  | .blockComment _ _ => s.fail
  | .lineComment => { s with mode := .plain }
  | .plain => s

/-- Begins a token, outside of any other. -/
def start (s : Scan) (c : Char) : Scan :=
  if c = '\n' then s.lineBreak
  else if c = ' ' || c = '\t' || c = '\r' then s
  else if isIdentStart c then { s with mode := .word [c] }
  else if c.isDigit then { s with mode := .number [c] }
  else if c = '"' then { s with mode := .string [] false }
  else if c = '\'' then { s with mode := .char [] false }
  else if c.toNat = 0x60 then { s with mode := .raw }
  else if Token.operators.contains (String.ofList [c]) then { s with mode := .op [c] }
  else s.fail

/-- Whether operator characters, last first, begin an operator. -/
def beginsOperator (back : List Char) : Bool :=
  back = ['.', '.'] || Token.operators.contains (String.ofList back.reverse)

/-- Reads a character. -/
def step (s : Scan) (c : Char) : Scan :=
  if c.toNat = 0 || c.toNat = 0xFEFF then s.fail
  else
    match s.mode with
    | .plain => s.start c
    | .word back => if isIdentPart c then { s with mode := .word (c :: back) } else s.finish.start c
    | .number back =>
      let inExponent := (c == '+' || c == '-') && match back with
        | e :: _ => (e == 'e' || e == 'E') &&
            !(back.getLast? == some '0' && (back.contains 'x' || back.contains 'X'))
        | [] => false
      if isIdentPart c || c = '.' || inExponent then { s with mode := .number (c :: back) }
      else s.finish.start c
    | .op back =>
      if back = ['/'] && c = '/' then { s with mode := .lineComment }
      else if back = ['/'] && c = '*' then { s with mode := .blockComment false false }
      else if back = ['.'] && c.isDigit then { s with mode := .number [c, '.'] }
      else if beginsOperator (c :: back) then { s with mode := .op (c :: back) }
      else s.finish.start c
    | .string back escaped =>
      if c = '\n' then s.fail
      else if escaped then { s with mode := .string (c :: back) false }
      else if c = '"' then
        if (countQuoted '"' back.reverse).isSome then s.push (.string (String.ofList back.reverse))
        else s.fail
      else { s with mode := .string (c :: back) (c = '\\') }
    | .char back escaped =>
      if c = '\n' then s.fail
      else if escaped then { s with mode := .char (c :: back) false }
      else if c = '\'' then
        if countQuoted '\'' back.reverse = some 1 then s.push (.char (String.ofList back.reverse))
        else s.fail
      else { s with mode := .char (c :: back) (c = '\\') }
    | .raw => if c.toNat = 0x60 then s.push .rawString else s
    | .lineComment => if c = '\n' then s.lineBreak else s
    | .blockComment star broken =>
      if star && c = '/' then (if broken then s.lineBreak else { s with mode := .plain })
      else { s with mode := .blockComment (c = '*') (broken || c = '\n') }

end Scan

/-- The tokens of a file, ended by a statement's end, unless something in it is no token. -/
def scan (text : String) : Option (List Token) :=
  let s := (text.toList.foldl Scan.step ({} : Scan)).finish.lineBreak
  if s.failed then none else some s.back.reverse

end TaskBuilders.Source
