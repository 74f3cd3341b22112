import TaskBuilders.Bundle.EntryName
import TaskBuilders.Cue.Document
import TaskBuilders.Cue.Evaluation
import TaskBuilders.Definition.Basic

/-!
# Descriptors of task definitions

A descriptor is a document with a list of tasks. Each task needs a type; its attributes, nested elements,
capabilities and flags are optional, and there are no other fields. Types, names and tags are never
empty.

A missing text is reported only when nothing else is wrong.
-/

namespace TaskBuilders.Descriptor

open Cue (Value Label)

/-- What is wrong with a value in a descriptor. -/
inductive Fault where
  | notAllowed
  | missing
  | emptyText
  /-- A scalar, or a kind of scalars, where a text belongs. -/
  | mismatch (value kind : String)
  /-- A value that fits none of the forms that its place admits. -/
  | unfit
deriving Repr, DecidableEq

/-- A fault and the way to it. -/
structure Violation where
  path : List String
  fault : Fault
deriving Repr, DecidableEq

/-- The reasons to refuse a descriptor. -/
inductive Refusal where
  | tooLarge (size : Nat)
  /-- The text cannot be read, or contradicts itself. -/
  | malformed
  | invalid (violations : List Violation)
deriving Repr, DecidableEq

/-- The number of bytes that a descriptor may have. -/
def maxSize : Nat := 5 * 1024 * 1024

/-! ## Wording -/

/-- The wording of a fault; faults of alternatives have none. -/
def Fault.message? : Fault → Option String
  | notAllowed => some "field not allowed"
  | missing => some "incomplete value !=\"\""
  | emptyText => some "invalid value \"\" (out of bound !=\"\")"
  | mismatch v k => some s!"conflicting values {v} and string (mismatched types {k} and string)"
  | unfit => none

/-- The text that all refusals begin with. -/
def refused : String := "bundle: invalid descriptor"

/-- The wording of a refusal of the descriptor `name`: of its size, or of its only violation. -/
def Refusal.message? (name : String) : Refusal → Option String
  | tooLarge size =>
    some s!"{refused}: {name}: {size} bytes exceeds limit of {maxSize}"
  | invalid [v] => do
    let wording ← v.fault.message?
    let text := refused ++ ": " ++ name ++ ": " ++ Text.join "." v.path ++ ": " ++ wording
    if text.contains ';' then none else some text
  | _ => none

/-! ## Checks -/

/-- A value read from a descriptor, or its violations. -/
structure Checked (α : Type) where
  value : α
  violations : List Violation := []

namespace Checked

/-- A value with one fault. -/
def fault {α : Type} (default : α) (path : List String) (f : Fault) : Checked α :=
  ⟨default, [⟨path, f⟩]⟩

/-- Values read one after the other. -/
def all {α : Type} (xs : List (Checked α)) : Checked (List α) :=
  ⟨xs.map (·.value), xs.flatMap (·.violations)⟩

/-- Changes the value. -/
def map {α β : Type} (f : α → β) (c : Checked α) : Checked β := ⟨f c.value, c.violations⟩

/-- The same value with other violations, in which only missing texts keep their places: whatever else
is wrong inside an alternative is one fault of the whole. -/
def alternative {α : Type} (path : List String) (c : Checked α) : Checked α :=
  if c.violations.all (·.fault = .missing) then c else ⟨c.value, [⟨path, .unfit⟩]⟩

end Checked

/-- The value of a field; everything is allowed where it is absent. -/
def field (name : String) (fields : List (Label × Value)) : Value :=
  match fields.find? (·.1 = Label.regular name) with
  | some (_, v) => v
  | none => .kind .top

/-- A label as a step of a path, quoted unless it is a name by itself. -/
def step : Label → String
  | .regular name =>
    let bare := !name.isEmpty && Cue.nameLength name.toList = name.length &&
      Label.ofName name = .regular name
    if bare then name else Cue.quoted '"' name
  | .hidden name | .definition name => name

/-- The violations of fields that are not among the allowed ones. Hidden fields are always allowed. -/
def extraFields (allowed : List String) (path : List String) (fields : List (Label × Value)) :
    List Violation :=
  fields.filterMap fun (l, _) =>
    match l with
    | .hidden _ => none
    | .regular name => if allowed.contains name then none else some ⟨path ++ [step l], .notAllowed⟩
    | .definition _ => some ⟨path ++ [step l], .notAllowed⟩

/-- A text that is not empty. -/
def text (path : List String) (v : Value) : Checked String :=
  match v with
  | .text s => if s.isEmpty then .fault "" path .emptyText else ⟨s, []⟩
  | .kind .text | .kind .top => .fault "" path .missing
  | .unknown | .list _ | .struct _ => .fault "" path .unfit
  | v =>
    match v.written? with
    | some (s, k) => .fault "" path (.mismatch s k)
    | none => .fault "" path .unfit

/-- A flag, which is off when nothing is said about it. -/
def flag (path : List String) (v : Value) : Checked Bool :=
  match v with
  | .bool b => ⟨b, []⟩
  | .kind .bool | .kind .top => ⟨false, []⟩
  | _ => .fault false path .unfit

/-- The fields of a struct; the struct of which nothing is said has none. -/
def fieldsOf? : Value → Option (List (Label × Value))
  | .struct fields => some fields
  | .kind .top => some []
  | _ => none

/-- The items of an optional list. -/
def items? : Value → Option (List Value)
  | .list items => some items
  | .kind .top => some []
  | _ => none

/-- The step of a path to an item. -/
def itemPath (path : List String) (i : Nat) : List String := path ++ [Number.intText i]

/-- Checks the items of an optional list of alternatives. -/
def optionalItems {α : Type} (path : List String) (check : List String → Value → Checked α)
    (v : Value) : Checked (List α) :=
  match items? v with
  | none => .fault [] path .unfit
  | some items => (Checked.all (items.mapIdx fun i x => check (itemPath path i) x)).alternative path

/-- Two texts of a struct that has no other fields. -/
def pairOf {α : Type} (make : String → String → α) (first second : String) (path : List String)
    (v : Value) : Checked α :=
  match fieldsOf? v with
  | none => .fault (make "" "") path .unfit
  | some fields =>
    let a := text (path ++ [first]) (field first fields)
    let b := text (path ++ [second]) (field second fields)
    ⟨make a.value b.value, extraFields [first, second] path fields ++ a.violations ++ b.violations⟩

/-- The fields of a task. -/
def taskFields : List String :=
  ["type", "attributes", "nested", "capabilities", "executable", "container", "textContainer",
   "condition", "reference"]

/-- A task. -/
def task (path : List String) (v : Value) : Checked TaskDefinition :=
  match fieldsOf? v with
  | none => .fault { id := "" } path .unfit
  | some fields =>
    let way (name : String) : List String := path ++ [name]
    let value (name : String) : Value := field name fields
    let id := text (way "type") (value "type")
    let attributes := optionalItems (way "attributes") (pairOf Attribute.mk "name" "type")
      (value "attributes")
    let nested := optionalItems (way "nested") (pairOf NestedElement.mk "tag" "type") (value "nested")
    let capabilities := optionalItems (way "capabilities") text (value "capabilities")
    let flagOf (name : String) : Checked Bool := flag (way name) (value name)
    let executable := flagOf "executable"
    let container := flagOf "container"
    let textContainer := flagOf "textContainer"
    let condition := flagOf "condition"
    let reference := flagOf "reference"
    { value :=
        { id := id.value, attributes := attributes.value, nested := nested.value,
          capabilities := capabilities.value, executable := executable.value,
          container := container.value, textContainer := textContainer.value,
          condition := condition.value, reference := reference.value }
      violations :=
        extraFields taskFields path fields ++ id.violations ++ attributes.violations ++
          nested.violations ++ capabilities.violations ++ executable.violations ++
          container.violations ++ textContainer.violations ++ condition.violations ++
          reference.violations }

/-- The tasks of a document. A fault outside of the tasks has no wording. -/
def tasks (v : Value) : Checked (List TaskDefinition) :=
  let top := ["#Descriptor"]
  match fieldsOf? v with
  | none => .fault [] top .unfit
  | some fields =>
    let extra := (extraFields ["tasks"] top fields).map fun v => { v with fault := .unfit }
    let path := top ++ ["tasks"]
    match items? (field "tasks" fields) with
    | none => ⟨[], extra ++ [⟨path, .unfit⟩]⟩
    | some items =>
      let found := Checked.all (items.mapIdx fun i x => task (itemPath path i) x)
      ⟨found.value, extra ++ found.violations⟩

/-- The value that the text of a descriptor declares. -/
def documentValue? (name data : String) : Option Value :=
  (if Bundle.isYamlName name then Cue.parseYaml? data else Cue.parse? data).bind Cue.Expr.value?

/-- Reads the task definitions of a descriptor; the ending of its name tells the format. -/
def read (name data : String) : Except Refusal (List TaskDefinition) :=
  let size := Text.byteLength data
  if maxSize < size then .error (.tooLarge size)
  else
    match documentValue? name data with
    | none => .error .malformed
    | some v =>
      let found := tasks v
      let wrong := found.violations.filter (·.fault ≠ .missing)
      if !wrong.isEmpty then .error (.invalid wrong)
      else if !found.violations.isEmpty then .error (.invalid found.violations)
      else .ok found.value

end TaskBuilders.Descriptor
