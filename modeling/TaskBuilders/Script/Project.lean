import TaskBuilders.Script.Property
import TaskBuilders.Text.Letter
import TaskBuilders.Text.Quoted

/-!
# Projects of build scripts

A project holds the nodes and targets that a script has made. A node is known by its place in the
list of nodes and a target by its place in the list of targets, so both lists only ever grow. The
first node is the project itself and the first target the unnamed one of the tasks that are built
directly on the project.

Outermost nodes have no parent; they belong to a target and run on their own. All other nodes are
children of the node that they were built under, which always comes before them in the list of nodes.
-/

namespace TaskBuilders.Script

/-- The place of a node in its project. -/
abbrev NodeId := Nat

/-- The place of a target in its project. -/
abbrev TargetId := Nat

/-- What a script builds. -/
structure Node where
  typeId : String
  tag : String
  target : TargetId
  parent : Option NodeId := none
  attributes : Dict AttributeValue := ∅
  text : String := ""
  children : List NodeId := []
  outermost : Bool := false
  collecting : Bool := false
  configured : Bool := false
  executed : Bool := false

/-- A named group of tasks with the body that builds them. -/
structure Target (β : Type) where
  name : String
  node : NodeId
  depends : List String := []
  body : Option β := none
  tasks : List NodeId := []

/-- A failure of a task, with the tag of its node. -/
structure Failure where
  tag : String
  cause : String
deriving Repr, DecidableEq

/-- The text of a failure. -/
def Failure.message (f : Failure) : String := f.tag ++ ": " ++ f.cause

/-- A call of the executor. -/
inductive Call where
  | execute (node : NodeId)
  | eval (node : NodeId)
deriving Repr, DecidableEq

/-- A build script's project; `β` is the type of target bodies. -/
structure Project (β : Type) where
  name : String
  nodes : List Node
  targets : List (Target β)
  defaultTarget : String := ""
  properties : Properties := ∅
  failures : List Failure := []
  assignedReferences : Nat := 0
  calls : List Call := []

/-- Runs and evaluates nodes. It may act on the project while it does so. -/
structure Executor (β : Type) where
  execute : NodeId → Project β → Project β × Option String
  eval : NodeId → Project β → Project β × Except String Bool

namespace Project

variable {β : Type}

/-- The node of the project itself. -/
def rootNode : NodeId := 0

/-- The unnamed target. -/
def unnamedTarget : TargetId := 0

/-- A project in which nothing has been built. -/
def new (name : String) : Project β where
  name := name
  nodes := [{ typeId := "project", tag := "project", target := unnamedTarget },
    { typeId := "target", tag := "target", target := unnamedTarget }]
  targets := [{ name := "", node := 1 }]

/-- Changes one node. -/
def modifyNode (p : Project β) (n : NodeId) (f : Node → Node) : Project β :=
  { p with nodes := p.nodes.modify n f }

/-- Changes one target. -/
def modifyTarget (p : Project β) (t : TargetId) (f : Target β → Target β) : Project β :=
  { p with targets := p.targets.modify t f }

/-! ## Nodes -/

/-- Builds a node under `parent`. An outermost node runs on its own, unless `parent` collects its
tasks as a container. -/
def addNode (p : Project β) (parent : NodeId) (typeId tag : String) (outermost : Bool) :
    Project β × NodeId :=
  match p.nodes[parent]? with
  | none => (p, p.nodes.length)
  | some above =>
    let alone := outermost && !above.collecting
    let node : Node := { typeId, tag, target := above.target, outermost := alone,
                         parent := if alone then none else some parent }
    ({ p with nodes := p.nodes ++ [node] }, p.nodes.length)

/-- Assigns an attribute; names are kept in lower case. -/
def setAttribute (p : Project β) (n : NodeId) (name : String) (v : AttributeValue) : Project β :=
  p.modifyNode n fun d => { d with attributes := d.attributes.insert (Text.lowercase name) v }

/-- The value of an attribute. -/
def attribute? (p : Project β) (n : NodeId) (name : String) : Option AttributeValue :=
  (p.nodes[n]?).bind (·.attributes.get? (Text.lowercase name))

/-- Appends character data. -/
def addText (p : Project β) (n : NodeId) (s : String) : Project β :=
  p.modifyNode n fun d => { d with text := d.text ++ s }

/-- Attaches a node to its parent, or to its target when it has none. A second time changes
nothing. -/
def configure (p : Project β) (n : NodeId) : Project β :=
  match p.nodes[n]? with
  | none => p
  | some node =>
    if node.configured then p
    else
      let p := p.modifyNode n ({ · with configured := true })
      match node.parent with
      | some m => p.modifyNode m fun d => { d with children := d.children ++ [n] }
      | none => p.modifyTarget node.target fun t => { t with tasks := t.tasks ++ [n] }

/-- Makes a node collect the tasks that are built under it. -/
def collect (p : Project β) (n : NodeId) : Project β :=
  p.modifyNode n ({ · with collecting := true })

/-- Records a failure. -/
def fail (p : Project β) (tag cause : String) : Project β :=
  { p with failures := p.failures ++ [⟨tag, cause⟩] }

/-- Runs an outermost node once. -/
def execute (ex : Option (Executor β)) (p : Project β) (n : NodeId) : Project β :=
  match p.nodes[n]? with
  | none => p
  | some node =>
    if !node.outermost || node.executed then p
    else
      let p := p.modifyNode n ({ · with executed := true })
      match ex with
      | none => p
      | some ex =>
        match ex.execute n { p with calls := p.calls ++ [.execute n] } with
        | (p, some cause) => p.fail node.tag cause
        | (p, none) => p

/-- Evaluates a condition; a failure counts as false. -/
def eval (ex : Option (Executor β)) (p : Project β) (n : NodeId) : Project β × Bool :=
  match p.nodes[n]?, ex with
  | some node, some ex =>
    match ex.eval n { p with calls := p.calls ++ [.eval n] } with
    | (p, .error cause) => (p.fail node.tag cause, false)
    | (p, .ok b) => (p, b)
  | _, _ => (p, false)

/-! ## Targets, references and failures -/

/-- Declares a target. -/
def declare (p : Project β) (name : String) (depends : List String) (body : Option β) :
    Project β × TargetId :=
  let node : Node := { typeId := "target", tag := "target", target := p.targets.length }
  ({ p with
      nodes := p.nodes ++ [node]
      targets := p.targets ++ [{ name, node := p.nodes.length, depends, body }] },
    p.targets.length)

/-- The declared targets, in the order of their declarations. -/
def declared (p : Project β) : List (Target β) := p.targets.drop 1

/-- The target of a name that was declared last. -/
def target? (p : Project β) (name : String) : Option (Target β) :=
  p.declared.reverse.find? (·.name == name)

/-- The tasks that are built directly on the project. -/
def tasks (p : Project β) : List NodeId := (p.targets[unnamedTarget]?).elim [] (·.tasks)

/-- Takes a reference to a node. Its id is the attribute `id` where that is a text, and otherwise the
next free number, which the attribute then holds. -/
def takeReference (p : Project β) (n : NodeId) : Project β × String :=
  let assigned : Project β × String :=
    let k := p.assignedReferences + 1
    let id := "ref" ++ toString k
    ({ p with assignedReferences := k }.setAttribute n "id" (.text id), id)
  match p.attribute? n "id" with
  | some (.text id) => if id = "" then assigned else (p, id)
  | _ => assigned

/-- The text of all recorded failures. -/
def failureText? (p : Project β) : Option String :=
  if p.failures.isEmpty then none else some (Text.join "\n" (p.failures.map Failure.message))

/-! ## Element trees -/

/-- The attributes of a node as they stand in its start tag. -/
def attributesText (node : Node) : String :=
  String.join (node.attributes.entries.map fun (k, v) => " " ++ k ++ "=" ++ Text.quote v.display)

/-- A node and its children as an element tree. Children come after their parent in the list of
nodes, so the recursion ends. -/
def renderNode (p : Project β) (depth : Nat) (n : NodeId) : String :=
  match p.nodes[n]? with
  | none => ""
  | some node =>
    let margin := String.join (List.replicate depth "  ")
    let start := margin ++ "<" ++ node.tag ++ attributesText node
    if node.children.isEmpty && node.text.isEmpty then start ++ "/>\n"
    else
      let inner := String.join (node.children.map fun c =>
        if h : n < c ∧ c < p.nodes.length then renderNode p (depth + 1) c else "")
      start ++ ">" ++ node.text ++
        (if node.children.isEmpty then "" else "\n" ++ inner ++ margin) ++
        "</" ++ node.tag ++ ">\n"
termination_by p.nodes.length - n
decreasing_by exact Nat.sub_lt_sub_left (Nat.lt_trans h.1 h.2) h.1

/-- A node and its children as an element tree. -/
def render (p : Project β) (n : NodeId) : String := p.renderNode 0 n

end Project

end TaskBuilders.Script
