import TaskBuilders.Xml.Markup

/-!
# Children of a document's root

The tags of a document have to match. Reading ends with the root element, so what follows it is not
looked at.
-/

namespace TaskBuilders.Xml

/-- An element without its content. -/
structure Element where
  name : Name
  attributes : List (Name × String)
deriving Repr

/-- The value of an attribute of any namespace; of several the last. -/
def Element.attribute? (e : Element) (ident : String) : Option String :=
  (e.attributes.reverse.find? (·.1.ident == ident)).map (·.2)

/-- The elements directly inside the root; `opened` holds the names of the open elements, innermost
first. Each piece of the text uses up one unit of `fuel`. -/
def childrenFrom? : (fuel : Nat) → (opened : List Name) → List Char → Option (List Element)
  | 0, _, _ => none
  | _ + 1, _, [] => none
  | fuel + 1, opened, c :: cs => do
    let (m, rest) ← next? (c :: cs)
    match m with
    | .text _ | .aside => childrenFrom? fuel opened rest
    | .close n =>
      match opened with
      | [] => none
      | [root] => if n = root then some [] else none
      | inner :: outer => if n = inner then childrenFrom? fuel outer rest else none
    | .open n as closed =>
      let found := if opened.length = 1 then [Element.mk n as] else []
      let more ←
        if closed then (if opened.isEmpty then some [] else childrenFrom? fuel opened rest)
        else childrenFrom? fuel (n :: opened) rest
      some (found ++ more)

/-- The elements directly inside the root of a document; nothing if the document is faulty. -/
def children? (s : String) : Option (List Element) :=
  childrenFrom? (s.toList.length + 1) [] s.toList

end TaskBuilders.Xml
