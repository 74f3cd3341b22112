import TaskBuilders.Json.Basic

/-!
# Reading JSON

A text is read token by token. What is open around the reading position is a stack of frames, so
the reader is one loop over the text; a token takes at least one character, which bounds it. Reading
stops behind the first complete value and returns what is left.
-/

namespace TaskBuilders.Json

/-- Nesting beyond this depth is refused. -/
def maxDepth : Nat := 10000

/-- A token. Scalars are tokens of their own. -/
inductive Token where
  | openBrace
  | closeBrace
  | openBracket
  | closeBracket
  | colon
  | comma
  | scalar (v : Json)

/-! ## Strings -/

/-- The value of a hexadecimal digit. -/
def hexValue? (c : Char) : Option Nat :=
  let n := c.toNat
  if 0x30 ≤ n && n ≤ 0x39 then some (n - 0x30)
  else if 0x61 ≤ n && n ≤ 0x66 then some (n - 0x57)
  else if 0x41 ≤ n && n ≤ 0x46 then some (n - 0x37)
  else none

/-- The number written by four hexadecimal digits. -/
def hexUnit? (a b c d : Char) : Option Nat := do
  let a ← hexValue? a
  let b ← hexValue? b
  let c ← hexValue? c
  let d ← hexValue? d
  some (((a * 16 + b) * 16 + c) * 16 + d)

/-- The character of an escape with a letter of its own. -/
def unescape? (c : Char) : Option Char :=
  match c with
  | '"' => some '"'
  | '\\' => some '\\'
  | '/' => some '/'
  | 'b' => some (Char.ofNat 0x08)
  | 'f' => some (Char.ofNat 0x0C)
  | 'n' => some '\n'
  | 'r' => some '\r'
  | 't' => some '\t'
  | _ => none

/-- The code units of a string literal up to its closing quote, and what follows the quote. A
character stands for itself, an escape may write half of a surrogate pair. -/
def stringUnits : List Char → Option (List Nat × List Char)
  | [] => none
  | '"' :: rest => some ([], rest)
  | '\\' :: 'u' :: a :: b :: c :: d :: rest => do
    let u ← hexUnit? a b c d
    let (us, rest') ← stringUnits rest
    some (u :: us, rest')
  | '\\' :: e :: rest => do
    let c ← unescape? e
    let (us, rest') ← stringUnits rest
    some (c.toNat :: us, rest')
  | c :: rest =>
    if c.toNat < 0x20 || c = '\\' then none
    else do
      let (us, rest') ← stringUnits rest
      some (c.toNat :: us, rest')

/-- Reading a string literal takes at least its closing quote. -/
theorem length_stringUnits {cs rest : List Char} {us : List Nat}
    (h : stringUnits cs = some (us, rest)) : rest.length < cs.length := by
  fun_induction stringUnits cs generalizing us rest with
  | case1 => simp at h
  | case2 r => simp_all
  | case3 a b c d r ih =>
    simp only [Option.bind_eq_bind, Option.bind_eq_some_iff] at h
    obtain ⟨u, _, ⟨us', r'⟩, h2, h3⟩ := h
    have := ih h2
    simp_all
    omega
  | case4 e r _ ih =>
    simp only [Option.bind_eq_bind, Option.bind_eq_some_iff] at h
    obtain ⟨u, _, ⟨us', r'⟩, h2, h3⟩ := h
    have := ih h2
    simp_all
    omega
  | case5 => simp at h
  | case6 c r _ _ _ _ ih =>
    simp only [Option.bind_eq_bind, Option.bind_eq_some_iff] at h
    obtain ⟨⟨us', r'⟩, h2, h3⟩ := h
    have := ih h2
    simp_all
    omega

/-- Whether a unit is the first half of a surrogate pair. -/
def isHighHalf (u : Nat) : Bool := 0xD800 ≤ u && u < 0xDC00

/-- Whether a unit is the second half of a surrogate pair. -/
def isLowHalf (u : Nat) : Bool := 0xDC00 ≤ u && u < 0xE000

/-- The characters of code units. Halves that make no pair become U+FFFD. -/
def joinHalves : List Nat → List Char
  | [] => []
  | [u] => [if isHighHalf u || isLowHalf u then '\uFFFD' else Char.ofNat u]
  | u :: w :: us =>
    if isHighHalf u then
      if isLowHalf w then
        Char.ofNat (0x10000 + (u - 0xD800) * 0x400 + (w - 0xDC00)) :: joinHalves us
      else '\uFFFD' :: joinHalves (w :: us)
    else if isLowHalf u then '\uFFFD' :: joinHalves (w :: us)
    else Char.ofNat u :: joinHalves (w :: us)
termination_by us => us.length

/-- The text of a string literal behind its opening quote, and what follows it. -/
def readString (cs : List Char) : Option (String × List Char) :=
  (stringUnits cs).map fun (us, rest) => (String.ofList (joinHalves us), rest)

/-! ## Numbers -/

/-- Whether a character occurs in numbers. -/
def isNumberChar (c : Char) : Bool :=
  c.isDigit || c == '-' || c == '+' || c == '.' || c == 'e' || c == 'E'

/-- What follows a sign `-`, when there is one. -/
def afterSign : List Char → List Char
  | '-' :: rest => rest
  | cs => cs

/-- What follows digits, of which there must be one. -/
def afterDigits? (cs : List Char) : Option (List Char) :=
  if (cs.takeWhile Char.isDigit).isEmpty then none else some (cs.dropWhile Char.isDigit)

/-- What follows the integer part: no zero stands in front of another digit. -/
def afterInteger? : List Char → Option (List Char)
  | '0' :: rest => some rest
  | cs => afterDigits? cs

/-- What follows the fraction, when there is one. -/
def afterFraction? : List Char → Option (List Char)
  | '.' :: rest => afterDigits? rest
  | cs => some cs

/-- What follows the exponent, when there is one. -/
def afterExponent? : List Char → Option (List Char)
  | [] => some []
  | e :: rest =>
    if e = 'e' || e = 'E' then
      match rest with
      | '+' :: digits => afterDigits? digits
      | '-' :: digits => afterDigits? digits
      | digits => afterDigits? digits
    else some (e :: rest)

/-- Whether the characters are a number. -/
def isNumber (cs : List Char) : Bool :=
  (afterInteger? (afterSign cs) >>= afterFraction? >>= afterExponent?) == some []

/-- The number at the beginning of a text, and what follows it. -/
def readNumber (cs : List Char) : Option (String × List Char) :=
  if isNumber (cs.takeWhile isNumberChar) then
    some (String.ofList (cs.takeWhile isNumberChar), cs.dropWhile isNumberChar)
  else none

/-- A number takes at least one character. -/
theorem length_readNumber {cs rest : List Char} {n : String}
    (h : readNumber cs = some (n, rest)) : rest.length < cs.length := by
  unfold readNumber at h
  split at h
  · rename_i hn
    have hne : cs.takeWhile isNumberChar ≠ [] := by
      intro he
      rw [he] at hn
      simp [isNumber, afterSign, afterInteger?, afterDigits?] at hn
    have hlen := congrArg List.length
      (List.takeWhile_append_dropWhile (p := isNumberChar) (l := cs))
    have hpos := List.length_pos_iff.2 hne
    simp only [List.length_append] at hlen
    simp only [Option.some.injEq, Prod.mk.injEq] at h
    rw [← h.2]
    omega
  · simp at h

/-! ## Tokens -/

/-- White space between tokens. -/
def isSpace (c : Char) : Bool := c == ' ' || c == '\t' || c == '\r' || c == '\n'

/-- The token at the beginning of a text, and what follows it. -/
def readToken : List Char → Option (Token × List Char)
  | '{' :: rest => some (.openBrace, rest)
  | '}' :: rest => some (.closeBrace, rest)
  | '[' :: rest => some (.openBracket, rest)
  | ']' :: rest => some (.closeBracket, rest)
  | ':' :: rest => some (.colon, rest)
  | ',' :: rest => some (.comma, rest)
  | '"' :: rest => (readString rest).map fun (s, r) => (.scalar (.string s), r)
  | 't' :: 'r' :: 'u' :: 'e' :: rest => some (.scalar (.bool true), rest)
  | 'f' :: 'a' :: 'l' :: 's' :: 'e' :: rest => some (.scalar (.bool false), rest)
  | 'n' :: 'u' :: 'l' :: 'l' :: rest => some (.scalar .null, rest)
  | cs => (readNumber cs).map fun (n, r) => (.scalar (.number n), r)

theorem length_readString {cs rest : List Char} {s : String}
    (h : readString cs = some (s, rest)) : rest.length < cs.length := by
  simp only [readString, Option.map_eq_some_iff] at h
  obtain ⟨⟨us, r⟩, h1, h2⟩ := h
  have := length_stringUnits h1
  simp_all

/-- A token takes at least one character. -/
theorem length_readToken {cs rest : List Char} {t : Token}
    (h : readToken cs = some (t, rest)) : rest.length < cs.length := by
  unfold readToken at h
  split at h
  · simp_all
  · simp_all
  · simp_all
  · simp_all
  · simp_all
  · simp_all
  · rename_i r
    simp only [Option.map_eq_some_iff] at h
    obtain ⟨⟨s, r'⟩, h1, h2⟩ := h
    have := length_readString h1
    simp_all
    omega
  · simp_all
    omega
  · simp_all
    omega
  · simp_all
    omega
  · simp only [Option.map_eq_some_iff] at h
    obtain ⟨⟨s, r'⟩, h1, h2⟩ := h
    have := length_readNumber h1
    simp_all

/-! ## The machine -/

/-- What is open around the reading position, with the parts read so far, last first. -/
inductive Frame where
  | array (done : List Json)
  | object (done : List (String × Json)) (key : String)

/-- What may come next. -/
inductive Expect where
  | value
  /-- The first item of an array, or its end. -/
  | firstItem
  /-- The first key of an object, or its end. -/
  | firstKey
  | key
  | colon (key : String)
  /-- Behind a value inside an array or object. -/
  | separator

/-- The state of the reader: what may come next, the members of the object whose key is being read,
and the open frames, innermost first. -/
structure Machine where
  expect : Expect
  members : List (String × Json) := []
  stack : List Frame

/-- Hands a complete value to the innermost frame; without a frame it is the result. -/
def complete (v : Json) : List Frame → Machine ⊕ Json
  | [] => .inr v
  | .array done :: stack => .inl { expect := .separator, stack := .array (v :: done) :: stack }
  | .object done key :: stack =>
    .inl { expect := .separator, stack := .object ((key, v) :: done) key :: stack }

/-- Opens a frame, unless the text is nested too deeply. -/
def openFrame (expect : Expect) (frames stack : List Frame) : Option (Machine ⊕ Json) :=
  if stack.length ≥ maxDepth then none else some (.inl { expect, stack := frames ++ stack })

/-- Begins a value with a token. -/
def beginValue (t : Token) (stack : List Frame) : Option (Machine ⊕ Json) :=
  match t with
  | .scalar v => some (complete v stack)
  | .openBracket => openFrame .firstItem [.array []] stack
  | .openBrace => openFrame .firstKey [] stack
  | _ => none

/-- One step of the reader. -/
def Machine.step (m : Machine) (t : Token) : Option (Machine ⊕ Json) :=
  match m.expect, t, m.stack with
  | .value, t, stack => beginValue t stack
  | .firstItem, .closeBracket, .array done :: stack => some (complete (.array done.reverse) stack)
  | .firstItem, t, stack => beginValue t stack
  | .firstKey, .closeBrace, stack => some (complete (.object []) stack)
  | .firstKey, .scalar (.string k), stack => some (.inl { expect := .colon k, stack })
  | .key, .scalar (.string k), stack =>
    some (.inl { expect := .colon k, members := m.members, stack })
  | .colon k, .colon, stack =>
    some (.inl { expect := .value, stack := .object m.members k :: stack })
  | .separator, .comma, .array done :: stack =>
    some (.inl { expect := .value, stack := .array done :: stack })
  | .separator, .closeBracket, .array done :: stack =>
    some (complete (.array done.reverse) stack)
  | .separator, .comma, .object done _ :: stack =>
    some (.inl { expect := .key, members := done, stack })
  | .separator, .closeBrace, .object done _ :: stack =>
    some (complete (.object done.reverse) stack)
  | _, _, _ => none

/-- Runs the reader over a text. -/
def Machine.run (m : Machine) (cs : List Char) : Option (Json × List Char) :=
  match _h : readToken (cs.dropWhile isSpace) with
  | none => none
  | some (t, rest) =>
    match m.step t with
    | none => none
    | some (.inr v) => some (v, rest)
    | some (.inl m') => m'.run rest
termination_by cs.length
decreasing_by
  exact Nat.lt_of_lt_of_le (length_readToken _h) (List.dropWhile_sublist _).length_le

/-- The first JSON value of a text, and what follows it. -/
def parseFirst (s : String) : Option (Json × List Char) :=
  Machine.run { expect := .value, stack := [] } s.toList

/-- The JSON value that a text consists of. -/
def parse (s : String) : Option Json :=
  match parseFirst s with
  | some (v, rest) => if rest.all isSpace then some v else none
  | none => none

end TaskBuilders.Json
