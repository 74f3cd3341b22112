import TaskBuilders.Script.Run

/-!
# Build scripts

A script is a list of statements over nodes that it gives names to. Each statement that has run leaves
an observation; those of a body come before that of the statement that runs the body.
-/

namespace TaskBuilders.Script

open Number

/-- A value in a statement: a plain one, or a reference that the script has named. -/
inductive Operand where
  | value (v : AttributeValue)
  | reference (name : String)

/-- A typed property with an optional value to store first. -/
inductive PropertyUse where
  | text (p : Property String) (stored : Option String)
  | bool (p : Property Bool) (stored : Option Bool)
  | int (p : Property Int) (stored : Option Int)
  | float (p : Property Binary64) (stored : Option Binary64)

/-- A statement of a script. Nodes are named by texts, and the project is named `project`. -/
inductive Statement where
  | node (id parent typeId tag : String) (outermost : Bool)
  | set (node name : String) (v : Operand)
  | get (node name : String)
  | typed (node name : String) (kind : ValueKind)
  | text (node text : String)
  | configure (node : String)
  | execute (node : String)
  | eval (node : String)
  | describe (node : String)
  | render (node : String)
  | reference (node id : String)
  | container (node id : String) (body : Option (List Statement))
  | target (id name : String) (depends : List String) (body : Option (List Statement))
  | setDefault (name : String)
  | run (names : List String)
  | failures
  | setProperty (name raw : String)
  | lookup (name : String)
  | initProperties
  | property (p : PropertyUse)
deriving Inhabited

/-- The body of a target, with the name under which it sees its target. -/
structure Body where
  self : String
  statements : List Statement

/-- What can be seen of a node. -/
structure NodeSummary where
  typeId : String
  tag : String
  outermost : Bool
  attributes : List String
  text : String
  children : Nat
  parent : Option String
  target : String

/-- What a property reads as. -/
inductive PropertyReading where
  | text (s : String)
  | bool (b : Bool)

/-- What a statement shows. -/
inductive Observation where
  | nothing
  | node (d : NodeSummary)
  | names (ns : List String)
  | value (text : String) (found : Bool)
  | text (s : String)
  | count (n : Nat)
  | flag (b : Bool)
  | reference (id : String)
  | entered (target : String)
  | stopped (e : RunError)
  | failed (text : String)
  | succeeded
  | property (reading : PropertyReading) (isSet : Bool) (raw : Option String)
  | directory (isWorkingDirectory found : Bool)

/-- A running script. -/
structure Machine where
  project : Project Body
  executor : Option (Executor Body)
  workingDir : String
  nodes : Dict NodeId
  references : Dict String := ∅
  observations : List Observation := []

namespace Machine

/-- The node of a name; a name that is not known names no node. -/
def nodeId (m : Machine) (name : String) : NodeId :=
  (m.nodes.get? name).getD m.project.nodes.length

/-- Names a node. -/
def bind (m : Machine) (name : String) (n : NodeId) : Machine :=
  { m with nodes := m.nodes.insert name n }

/-- Adds an observation. -/
def observe (m : Machine) (o : Observation) : Machine :=
  { m with observations := m.observations ++ [o] }

/-- The summary of a node. -/
def summary? (m : Machine) (n : NodeId) : Option NodeSummary :=
  (m.project.nodes[n]?).map fun d => {
    typeId := d.typeId, tag := d.tag, outermost := d.outermost, attributes := d.attributes.keys
    text := d.text, children := d.children.length
    parent := (d.parent.bind (m.project.nodes[·]?)).map (·.tag)
    target := (m.project.targets[d.target]?).elim "" (·.name) }

/-- Shows a node. -/
def describe (m : Machine) (n : NodeId) : Machine :=
  m.observe ((m.summary? n).elim .nothing .node)

/-- The names of a node's attributes. -/
def attributeNames (m : Machine) (n : NodeId) : List String :=
  (m.project.nodes[n]?).elim [] (·.attributes.keys)

/-- The plain value of an operand. -/
def operand (m : Machine) : Operand → AttributeValue
  | .value v => v
  | .reference name => (m.references.get? name).elim .nothing .reference

/-- The text of a value with its kind: references are marked. -/
def valueText : AttributeValue → String
  | .reference id => "ref:" ++ id
  | v => v.display

/-- Stores a value, if one is given, and reads a property. -/
def useProperty {α : Type} (m : Machine) (p : Property α) (stored : Option α)
    (show_ : α → PropertyReading) : Machine :=
  let ps := stored.elim m.project.properties (p.set · m.project.properties)
  { m with project := { m.project with properties := ps } }.observe
    (.property (show_ (p.get ps)) (p.isSet ps) (ps.get? p.name))

/-- How a machine finds its targets and runs their bodies; `inner` runs the statements of a body. -/
def runner (inner : List Statement → Machine → Machine) : TargetRunner Body Machine where
  find m name := m.project.target? name
  enter t m :=
    match t.body with
    | none => m
    | some b => inner b.statements ((m.bind b.self t.node).observe (.entered t.name))

/-- How long a chain of dependencies may be: all targets, and `depth` more that bodies may declare. -/
def chainLimit (depth : Nat) (m : Machine) : Nat := depth + m.project.targets.length + 1

/-- Runs the targets of several names, or the default target. -/
def runTargets (depth : Nat) (inner : List Statement → Machine → Machine) (names : List String)
    (m : Machine) : Machine × Option RunError :=
  (runner inner).run (m.chainLimit depth) (m.project.requested names) m

/-- Runs one statement; `inner` runs the statements of a body and `depth` bounds chains of
dependencies. -/
def step (depth : Nat) (inner : List Statement → Machine → Machine) (m : Machine) :
    Statement → Machine
  | .node id parent typeId tag outermost =>
    let (p, n) := m.project.addNode (m.nodeId parent) typeId tag outermost
    ({ m with project := p }.bind id n).describe n
  | .set node name v =>
    let n := m.nodeId node
    let m := { m with project := m.project.setAttribute n name (m.operand v) }
    m.observe (.names (m.attributeNames n))
  | .get node name =>
    match m.project.attribute? (m.nodeId node) name with
    | some v => m.observe (.value (valueText v) true)
    | none => m.observe (.value (valueText .nothing) false)
  | .typed node name kind =>
    match (m.project.attribute? (m.nodeId node) name).filter (·.hasKind kind) with
    | some v => m.observe (.value v.display true)
    | none => m.observe (.value (AttributeValue.zero kind).display false)
  | .text node s =>
    let n := m.nodeId node
    let m := { m with project := m.project.addText n s }
    m.observe (.text ((m.project.nodes[n]?).elim "" (·.text)))
  | .configure node =>
    let n := m.nodeId node
    { m with project := m.project.configure n }.describe n
  | .execute node =>
    let p := m.project.execute m.executor (m.nodeId node)
    { m with project := p }.observe (.count (p.calls.length - m.project.calls.length))
  | .eval node =>
    let (p, b) := m.project.eval m.executor (m.nodeId node)
    { m with project := p }.observe (.flag b)
  | .describe node => m.describe (m.nodeId node)
  | .render node => m.observe (.text (m.project.render (m.nodeId node)))
  | .reference node name =>
    let (p, id) := m.project.takeReference (m.nodeId node)
    { m with project := p, references := m.references.insert name id }.observe (.reference id)
  | .container _ _ none => m.observe .nothing
  | .container node id (some body) =>
    let n := m.nodeId node
    let m := inner body ({ m with project := m.project.collect n }.bind id n)
    m.observe (.count ((m.project.nodes[n]?).elim 0 (·.children.length)))
  | .target id name depends body =>
    let n := m.project.nodes.length
    let (p, _) := m.project.declare name depends (body.map (⟨id, ·⟩))
    ({ m with project := p }.bind id n).observe (.count p.declared.length)
  | .setDefault name =>
    { m with project := { m.project with defaultTarget := name } }.observe .nothing
  | .run names =>
    match m.runTargets depth inner names with
    | (m, some e) => m.observe (.stopped e)
    | (m, none) => m.observe (m.project.failureText?.elim .succeeded .failed)
  | .failures => m.observe (m.project.failureText?.elim .nothing .failed)
  | .setProperty name raw =>
    { m with project := { m.project with properties := m.project.properties.insert name raw } }.observe
      .nothing
  | .lookup name =>
    let v := m.project.properties.get? name
    m.observe (.value (v.getD "") v.isSome)
  | .initProperties =>
    let ps := m.project.properties.insert "basedir" m.workingDir
    let v := ps.get? "basedir"
    { m with project := { m.project with properties := ps } }.observe
      (.directory (v == some m.workingDir) v.isSome)
  | .property (.text p v) => m.useProperty p v .text
  | .property (.bool p v) => m.useProperty p v .bool
  | .property (.int p v) => m.useProperty p v (.text ∘ intText)
  | .property (.float p v) => m.useProperty p v (.text ∘ Binary64.text)

/-- Runs statements in order; bodies may nest `depth` deep. -/
def exec : (depth : Nat) → List Statement → Machine → Machine
  | 0, _, m => m
  | depth + 1, statements, m => statements.foldl (step depth (exec depth)) m

/-- A machine whose project is new. -/
def start (name workingDir : String) (executor : Option (Executor Body)) : Machine where
  project := .new name
  executor := executor
  workingDir := workingDir
  nodes := Dict.ofList [("project", Project.rootNode)]

/-- Bodies may nest this deep. -/
def depthLimit : Nat := 2000

/-- Runs a whole script. -/
def runScript (m : Machine) (statements : List Statement) : Machine := exec depthLimit statements m

end Machine

end TaskBuilders.Script
