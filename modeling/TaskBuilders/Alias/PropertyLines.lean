import TaskBuilders.Number.Reading
import TaskBuilders.Text.Affix

/-!
# Property lists

A list of lines `key = value`. Blanks around the first `=` or `:` do not count, a blank alone also
separates, and lines that begin with `#` or `!` are comments. A backslash takes the special meaning
from the next character, writes a control character or a code unit, and at the end of a value's line
continues the value.
-/

namespace TaskBuilders.PropertyLines

/-- A blank inside a line. -/
def isBlank (c : Char) : Bool := c == ' ' || c == '\t' || c.toNat == 0x0C

/-- The end of a line. -/
def isLineEnd (c : Char) : Bool := c == '\n' || c == '\r'

/-- What separates a key from its value. -/
def isSeparator (c : Char) : Bool := isBlank c || isLineEnd c || c == ':' || c == '='

/-- The character that an escape with a letter writes. Other characters stand for themselves. -/
def escaped (c : Char) : Char :=
  match c with
  | 'f' => Char.ofNat 0x0C
  | 'n' => '\n'
  | 'r' => '\r'
  | 't' => '\t'
  | c => c

/-- The character of a code unit; half of a surrogate pair becomes the replacement character. -/
def charOfUnit (n : Nat) : Char := if n.isValidChar then Char.ofNat n else Char.ofNat 0xFFFD

/-- What follows a backslash: the written character and the rest. -/
def escape? : List Char → Option (Char × List Char)
  | [] => none
  | 'u' :: rest =>
    let ds := rest.take 4
    if ds.length = 4 && ds.all (fun c => (Number.digitValue? c).isSome) then
      some (charOfUnit (Number.ofDigits 16 ds), rest.drop 4)
    else none
  | c :: rest => some (escaped c, rest)

theorem length_escape? {cs rest : List Char} {c : Char} (h : escape? cs = some (c, rest)) :
    rest.length < cs.length := by
  unfold escape? at h
  split at h
  · simp at h
  · rename_i r
    simp only at h
    split at h
    · simp only [Option.some.injEq, Prod.mk.injEq] at h
      rw [← h.2]
      simp only [List.length_drop, List.length_cons]
      omega
    · simp at h
  · simp only [Option.some.injEq, Prod.mk.injEq] at h
    rw [← h.2]
    simp

/-- Reads a key up to its separator. -/
def key? (cs : List Char) : Option (List Char × List Char) :=
  match cs with
  | [] => some ([], [])
  | '\\' :: rest =>
    match _h : escape? rest with
    | none => none
    | some (c, rest') => (key? rest').map fun (k, r) => (c :: k, r)
  | c :: rest =>
    if isSeparator c then some ([], c :: rest) else (key? rest).map fun (k, r) => (c :: k, r)
termination_by cs.length
decreasing_by
  · have := length_escape? _h; simp only [List.length_cons]; omega
  · simp

/-- Reads a value to the end of its line. -/
def value? (cs : List Char) : Option (List Char × List Char) :=
  match cs with
  | [] => some ([], [])
  | '\\' :: e :: rest =>
    if isLineEnd e then value? (rest.dropWhile isBlank)
    else
      match _h : escape? (e :: rest) with
      | none => none
      | some (c, rest') => (value? rest').map fun (v, r) => (c :: v, r)
  | c :: rest =>
    if c = '\\' then none
    else if isLineEnd c then some ([], rest)
    else (value? rest).map fun (v, r) => (c :: v, r)
termination_by cs.length
decreasing_by
  · have := (List.dropWhile_sublist isBlank (l := rest)).length_le
    simp only [List.length_cons]; omega
  · have := length_escape? _h; simp only [List.length_cons] at *; omega
  · simp

/-- Drops what separates a key from its value. -/
def dropSeparator (cs : List Char) : List Char :=
  match cs.dropWhile isBlank with
  | c :: rest => if c = ':' || c = '=' then rest.dropWhile isBlank else c :: rest
  | [] => []

/-- The pairs of a text in the order of its lines. Each pair uses up one unit of `fuel`. A line
without a key is a fault. -/
def pairs? : (fuel : Nat) → List Char → Option (List (String × String))
  | 0, _ => some []
  | fuel + 1, cs =>
    match cs.dropWhile (fun c => isBlank c || isLineEnd c) with
    | [] => some []
    | c :: rest =>
      if c = '#' || c = '!' then pairs? fuel (rest.dropWhile (!isLineEnd ·))
      else do
        let (k, rest) ← key? (c :: rest)
        if k.isEmpty then none
        let (v, rest) ← value? (dropSeparator rest)
        (pairs? fuel rest).map ((String.ofList k, String.ofList v) :: ·)

/-- Gives a key its value: in the place where the key stands already, else at the end. -/
def put (ps : List (String × String)) (p : String × String) : List (String × String) :=
  if ps.any (·.1 == p.1) then ps.map fun q => if q.1 == p.1 then p else q else ps ++ [p]

/-- The keys of a text in the order of their first lines, each with its last value. -/
def parse? (s : String) : Option (List (String × String)) :=
  (pairs? (s.toList.length + 1) s.toList).map (·.foldl put [])

end TaskBuilders.PropertyLines
