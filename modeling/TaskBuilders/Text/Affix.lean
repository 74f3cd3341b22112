/-!
# Beginnings, endings and pieces of texts

Each operation is stated on the characters of a text.
-/

namespace TaskBuilders.Text

/-- The rest of a list after a given beginning. -/
def afterLeading? : (lead cs : List Char) → Option (List Char)
  | [], cs => some cs
  | _ :: _, [] => none
  | l :: ls, c :: cs => if l = c then afterLeading? ls cs else none

/-- Whether `s` begins with `lead`. -/
def hasLeading (lead s : String) : Bool := lead.toList.isPrefixOf s.toList

/-- Whether `s` ends with `trail`. -/
def hasTrailing (trail s : String) : Bool := trail.toList.isSuffixOf s.toList

/-- Drops `lead` from the beginning of `s` when it is there. -/
def dropLeading (lead s : String) : String :=
  match afterLeading? lead.toList s.toList with
  | some rest => String.ofList rest
  | none => s

/-- Drops `trail` from the end of `s` when it is there. -/
def dropTrailing (trail s : String) : String :=
  match afterLeading? trail.toList.reverse s.toList.reverse with
  | some rest => String.ofList rest.reverse
  | none => s

/-- The pieces of a list between the characters that satisfy `p`, empty ones included. -/
def piecesWhere (p : Char → Bool) : List Char → List (List Char)
  | [] => [[]]
  | c :: cs =>
    if p c then [] :: piecesWhere p cs
    else
      match piecesWhere p cs with
      | [] => [[c]]
      | piece :: more => (c :: piece) :: more

/-- The pieces of a text between the characters `sep`, empty ones included. -/
def splitAtChar (sep : Char) (s : String) : List String :=
  (piecesWhere (· == sep) s.toList).map String.ofList

/-- Cuts a text at the first character `sep`. -/
def cutAtChar (sep : Char) (s : String) : String × Option String :=
  match s.toList.dropWhile (· != sep) with
  | [] => (s, none)
  | _ :: rest => (String.ofList (s.toList.takeWhile (· != sep)), some (String.ofList rest))

/-- Joins texts with `sep` between them. -/
def join (sep : String) (parts : List String) : String := String.intercalate sep parts

/-- Whether `part` occurs somewhere in `cs`. -/
def occursIn (part : List Char) : List Char → Bool
  | [] => part.isEmpty
  | c :: cs => part.isPrefixOf (c :: cs) || occursIn part cs

/-- Whether `part` occurs somewhere in `s`. -/
def containsText (part s : String) : Bool := occursIn part.toList s.toList

/-- The number of bytes of the UTF-8 form of a text. -/
def byteLength (s : String) : Nat := s.toList.foldl (fun n c => n + c.utf8Size) 0

end TaskBuilders.Text
