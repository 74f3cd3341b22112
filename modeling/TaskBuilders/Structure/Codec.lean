import TaskBuilders.Json.Parser
import TaskBuilders.Json.Printer
import TaskBuilders.Structure.Basic

/-!
# Stored structures

A structure is stored as an indented JSON document with sorted keys. Reading a document matches keys
without regard to case, skips members that a structure does not have, drops entries that are `null`
and gives unnamed classes the name they are stored under.
-/

namespace TaskBuilders.Structure

open Json

/-- Where the structure is stored, below the root of the output. -/
def fileName : String := "resources/structure.json"

/-! ## Writing -/

/-- A member that is left out when its text is empty. -/
def optionalMember (key value : String) : List (String × Json) :=
  if value = "" then [] else [(key, .string value)]

/-- The stored form of a parameter. -/
def attributeJson (a : AttributeDescriptor) : Json :=
  .object [("name", .string a.name), ("kind", .string a.kind.text), ("type", .string a.type)]

/-- The stored form of a table of parameters; `null` stands for none. -/
def attributesJson : Option (Dict AttributeDescriptor) → Json
  | none => .null
  | some d => .object (d.entries.map fun e => (e.1, attributeJson e.2))

/-- The stored form of a builder. -/
def functionJson (f : BuilderFunction) : Json :=
  .object (("name", .string f.name) :: optionalMember "builder" f.builder ++
    [("package", .string f.package),
     ("attributes", attributesJson f.attributes),
     ("initReceiver", .string f.initReceiver)])

/-- The stored form of a class. -/
def classJson (c : StructureClass) : Json :=
  .object (("name", .string c.name) :: optionalMember "source" c.source ++
    optionalMember "capability" c.capability ++
    [("traits", .array (c.traits.map .string)),
     ("functions", .object (c.functions.entries.map fun e => (e.1, functionJson e.2)))])

/-- The stored form of a structure. -/
def toJson (s : Structure) : Json :=
  .object (optionalMember "runtime" s.runtime ++
    [("classes", .object (s.classes.entries.map fun e => (e.1, classJson e.2)))])

/-- The document that stores a structure. -/
def encode (s : Structure) : String := s.toJson.document

/-! ## Reading -/

/-- A character of a key without regard to case; the long s and the Kelvin sign fold to letters. -/
def foldKeyChar (c : Char) : Char :=
  if c = '\u017F' then 'S' else if c = '\u212A' then 'K' else c.toUpper

/-- Whether a key of a document names a member. -/
def keyMatches (key member : String) : Bool :=
  key.toList.map foldKeyChar == member.toList.map foldKeyChar

/-- Reads a text; `null` leaves what was read before. -/
def readText (before : String) : Json → Option String
  | .string s => some s
  | .null => some before
  | _ => none

/-- Reads a list of texts over the list `before` that an earlier member gave; a `null` item leaves
what stood in its place. -/
def readTexts : (before : List String) → List Json → Option (List String)
  | _, [] => some []
  | before, j :: js => do
    let s ← readText (before.head?.getD "") j
    let rest ← readTexts before.tail js
    some (s :: rest)

/-- Reads the entries of a table on top of those that an earlier member gave. -/
def readEntries {α : Type} (read : Json → Option α) (before : Dict α) :
    List (String × Json) → Option (Dict α)
  | [] => some before
  | (k, j) :: ms => do
    let a ← read j
    readEntries read (before.insert k a) ms

/-- Reads a parameter. -/
def readAttribute : Json → Option AttributeDescriptor
  | .null => some ⟨"", ⟨""⟩, ""⟩
  | .object ms => ms.foldlM (fun a (k, j) =>
      if keyMatches k "name" then (readText a.name j).map ({ a with name := · })
      else if keyMatches k "kind" then (readText a.kind.text j).map ({ a with kind := ⟨·⟩ })
      else if keyMatches k "type" then (readText a.type j).map ({ a with type := · })
      else some a) ⟨"", ⟨""⟩, ""⟩
  | _ => none

/-- Reads one member of a builder. -/
def readFunctionMember (f : BuilderFunction) (k : String) (j : Json) : Option BuilderFunction :=
  if keyMatches k "name" then (readText f.name j).map ({ f with name := · })
  else if keyMatches k "builder" then (readText f.builder j).map ({ f with builder := · })
  else if keyMatches k "package" then (readText f.package j).map ({ f with package := · })
  else if keyMatches k "initReceiver" then
    (readText f.initReceiver j).map ({ f with initReceiver := · })
  else if keyMatches k "attributes" then
    match j with
    | .null => some { f with attributes := none }
    | .object ms =>
      (readEntries readAttribute (f.attributes.getD ∅) ms).map ({ f with attributes := some · })
    | _ => none
  else some f

/-- Reads a builder; `null` stands for none. -/
def readFunction : Json → Option (Option BuilderFunction)
  | .null => some none
  | .object ms =>
    (ms.foldlM (fun f (k, j) => readFunctionMember f k j)
      (⟨"", "", "", none, ""⟩ : BuilderFunction)).map some
  | _ => none

/-- A class as it is read, before missing parts are filled in. -/
structure ClassDraft where
  name : String := ""
  source : String := ""
  capability : String := ""
  traits : List String := []
  functions : Dict (Option BuilderFunction) := ∅

/-- Reads one member of a class. -/
def readClassMember (c : ClassDraft) (k : String) (j : Json) : Option ClassDraft :=
  if keyMatches k "name" then (readText c.name j).map ({ c with name := · })
  else if keyMatches k "source" then (readText c.source j).map ({ c with source := · })
  else if keyMatches k "capability" then (readText c.capability j).map ({ c with capability := · })
  else if keyMatches k "traits" then
    match j with
    | .null => some { c with traits := [] }
    | .array js => (readTexts c.traits js).map ({ c with traits := · })
    | _ => none
  else if keyMatches k "functions" then
    match j with
    | .null => some { c with functions := ∅ }
    | .object ms => (readEntries readFunction c.functions ms).map ({ c with functions := · })
    | _ => none
  else some c

/-- Reads a class; `null` stands for none. -/
def readClass : Json → Option (Option ClassDraft)
  | .null => some none
  | .object ms =>
    (ms.foldlM (fun c (k, j) => readClassMember c k j) ({} : ClassDraft)).map some
  | _ => none

/-- A structure as it is read, before missing parts are filled in. -/
structure Draft where
  runtime : String := ""
  classes : Dict (Option ClassDraft) := ∅

/-- Reads one member of a structure. -/
def readMember (d : Draft) (k : String) (j : Json) : Option Draft :=
  if keyMatches k "runtime" then (readText d.runtime j).map ({ d with runtime := · })
  else if keyMatches k "classes" then
    match j with
    | .null => some { d with classes := ∅ }
    | .object ms => (readEntries readClass d.classes ms).map ({ d with classes := · })
    | _ => none
  else some d

/-- Reads a structure; `null` is the structure without classes. -/
def readDraft : Json → Option Draft
  | .null => some {}
  | .object ms => ms.foldlM (fun d (k, j) => readMember d k j) ({} : Draft)
  | _ => none

/-- The entries of a table that are there. -/
def presentEntries {α : Type} (d : Dict (Option α)) : Dict α :=
  Dict.ofList (d.entries.filterMap fun e => e.2.map (e.1, ·))

/-- The class of a draft that is stored under a key. -/
def ClassDraft.toClass (key : String) (c : ClassDraft) : StructureClass where
  name := key
  source := c.source
  capability := c.capability
  traits := c.traits
  functions := presentEntries c.functions

/-- Whether a draft may be stored under a key: it has that name, or none. -/
def ClassDraft.fits (key : String) (c : ClassDraft) : Bool := c.name == "" || c.name == key

/-- The structure of a draft, unless a class is stored under a name that is not its own. -/
def ofDraft (d : Draft) : Except StructureError Structure :=
  let classes := presentEntries d.classes
  match classes.entries.find? (fun e => !e.2.fits e.1) with
  | some e => .error (.misplacedClass e.2.name e.1)
  | none => .ok { runtime := d.runtime, classes := classes.map ClassDraft.toClass }

/-- Reads the structure that a text begins with. -/
def decode (text : String) : Except StructureError Structure :=
  match parseFirst text with
  | none => .error .unreadable
  | some (j, _) =>
    match readDraft j with
    | none => .error .unreadable
    | some d => ofDraft d

end TaskBuilders.Structure
