import TaskBuilders.Builder.Plan
import TaskBuilders.Proofs.Script.Placement

/-!
# Calls of builders

A script calls builders on its project, on targets and, inside the block of another call, on what the
block is handed. The body of a builder is the plan of its immediate form, step by step; the calls of its
block run where the plan runs the block.

* `BuilderCall` — a call with the calls of its block
* `BuilderCall.fits` — each builder is called on a receiver of its own kind
* `BuilderCall.run` — what a call does to a project, with the invocations of the executor
* `BuilderCall.records` — the calls of a tree in the order in which they come to their end
* `ScriptItem.runAll`, `ScriptItem.recordsFrom` — the same for a script
-/

namespace TaskBuilders.Script

variable {β : Type}

/-! ## Trees of calls -/

/-- What a builder is called on. -/
inductive Receiver where
  | project
  | target (t : TargetId)
  /-- What is handed to the block in which the call stands. -/
  | handed
deriving Repr, DecidableEq

/-- A builder with the arguments of a call, its block apart. -/
structure BuilderUse where
  definition : TaskDefinition
  parent : Parent
  tag : String
  element : String
  rootContainer : String
  params : List AttributeDescriptor
  /-- The attributes that are given, in the order of the parameters. -/
  values : List (Option AttributeValue)
  hasBlock : Bool

/-- What the builder does. -/
def BuilderUse.plan (b : BuilderUse) : BuilderDecl :=
  planImmediate b.definition b.parent b.tag b.element b.rootContainer b.params

/-- A call of a builder. The calls of its block are made in their order. -/
inductive BuilderCall where
  | call (builder : BuilderUse) (on : Receiver) (block : List BuilderCall)

def BuilderCall.on : BuilderCall → Receiver
  | call _ on _ => on

/-- Where a call stands: in the script itself, in the block of a container, which is handed a view of
it, or in the block of another element, which is handed the element. -/
inductive Site where
  | script
  | container
  | element
deriving Repr, DecidableEq

/-- Where the calls of a builder's block stand. -/
def BuilderUse.site (b : BuilderUse) : Site :=
  if b.definition.container then .container else .element

/-- Whether a builder of a kind can be called on a receiver. Root builders take projects, targets and
views of containers, all others take elements. -/
def Receiver.admits (targets : Nat) (site : Site) (kind : ParentKind) : Receiver → Bool
  | project => kind == .root
  | target t => kind == .root && decide (t < targets)
  | handed =>
    match site with
    | .script => false
    | .container => kind == .root
    | .element => kind != .root

mutual

/-- Whether a call and those of its block are called on receivers that admit them. -/
def BuilderCall.fits (targets : Nat) (site : Site) : BuilderCall → Bool
  | .call b on block =>
    on.admits targets site b.parent.kind && (b.hasBlock || block.isEmpty) &&
      allFit targets b.site block

/-- Whether calls and those of their blocks are called on receivers that admit them. -/
def allFit (targets : Nat) (site : Site) : List BuilderCall → Bool
  | [] => true
  | c :: rest => c.fits targets site && allFit targets site rest

end

/-! ## What calls do -/

/-- The node of a call of the executor. -/
def Call.node : Call → NodeId
  | execute n => n
  | eval n => n

/-- A call of the executor with the children that its node had then. -/
structure Invocation where
  call : Call
  children : List NodeId
deriving Repr, DecidableEq

/-- The node of a target. -/
def Project.site? (p : Project β) (t : TargetId) : Option NodeId := (p.targets[t]?).map Target.node

/-- The node that a receiver stands for. -/
def Receiver.node (p : Project β) (handed : NodeId) : Receiver → NodeId
  | project => Project.rootNode
  | target t => (p.site? t).getD p.nodes.length
  | .handed => handed

/-- A project while builders are called on it. -/
structure Session (β : Type) where
  project : Project β
  /-- What the executor was called for. -/
  invocations : List Invocation := []
  /-- The calls that came to their end, with the nodes that they built. -/
  completed : List (BuilderUse × NodeId) := []

/-- A statement has been run; the calls of the executor that it made are noted. -/
def Session.become (s : Session β) (p : Project β) : Session β :=
  { s with
    project := p
    invocations := s.invocations ++ (p.calls.drop s.project.calls.length).map
      fun c => ⟨c, s.project.listAt (.under c.node)⟩ }

namespace BuilderUse

/-- Copies the given attributes onto a node. -/
def assign (b : BuilderUse) (n : NodeId) (p : Project β) : Project β :=
  (b.plan.params.zip b.values).foldl (fun p a => a.2.elim p (p.setAttribute n a.1.name ·)) p

/-- Runs a statement that follows the construction of node `n`; `block` runs the calls of the block on
the node that it is handed. -/
def act (ex : Option (Executor β)) (b : BuilderUse) (block : NodeId → Session β → Session β)
    (n : NodeId) (s : Session β) : BuilderStep → Session β
  | .construct | .forward => s
  | .assignAttributes => s.become (b.assign n s.project)
  | .runInit => if b.hasBlock then block n s else s
  | .obtainReference => s.become (s.project.takeReference n).1
  | .configure => s.become (s.project.configure n)
  | .runContainer => if b.hasBlock then block n (s.become (s.project.collect n)) else s
  | .execute => s.become (s.project.execute ex n)
  | .return => if b.plan.returns = .bool then s.become (s.project.eval ex n).1 else s

/-- Runs a statement of a builder's body; the second component is the node that it is about. -/
def step (ex : Option (Executor β)) (b : BuilderUse) (receiver : NodeId)
    (block : NodeId → Session β → Session β) : Session β × NodeId → BuilderStep → Session β × NodeId
  | (s, _), .construct =>
    let (p, n) := s.project.addNode receiver b.plan.source b.plan.tag b.plan.parent.outermost
    (s.become p, n)
  | (s, n), st => (b.act ex block n s st, n)

/-- Runs the body of a builder. -/
def run (ex : Option (Executor β)) (b : BuilderUse) (receiver : NodeId)
    (block : NodeId → Session β → Session β) (s : Session β) : Session β :=
  let (s, n) := b.plan.steps.foldl (b.step ex receiver block) (s, receiver)
  { s with completed := s.completed ++ [(b, n)] }

end BuilderUse

mutual

/-- Makes a call; `handed` is what the block in which it stands is handed. -/
def BuilderCall.run (ex : Option (Executor β)) (handed : NodeId) : BuilderCall → Session β → Session β
  | .call b on block, s =>
    b.run ex (on.node s.project handed) (fun n s => BuilderCall.runAll ex n block s) s

/-- Makes calls in their order. -/
def BuilderCall.runAll (ex : Option (Executor β)) (handed : NodeId) :
    List BuilderCall → Session β → Session β
  | [], s => s
  | c :: rest, s => BuilderCall.runAll ex handed rest (c.run ex handed s)

end

/-! ## What calls should do -/

mutual

/-- How many nodes a call builds. -/
def BuilderCall.size : BuilderCall → Nat
  | .call _ _ block => sizeAll block + 1

/-- How many nodes calls build. -/
def sizeAll : List BuilderCall → Nat
  | [] => 0
  | c :: rest => c.size + sizeAll rest

end

/-- The nodes of the calls that are made on what a block is handed; `next` is the next free node. -/
def childNodes (next : NodeId) : List BuilderCall → List NodeId
  | [] => []
  | c :: rest => (if c.on = .handed then [next] else []) ++ childNodes (next + c.size) rest

/-- Where what is built on a receiver is attached. -/
def Receiver.place (handed : NodeId) : Receiver → Place
  | project => .inTarget Project.unnamedTarget
  | target t => .inTarget t
  | .handed => .under handed

/-- A call that came to its end. -/
structure CallRecord where
  builder : BuilderUse
  on : Receiver
  node : NodeId
  place : Place
  /-- The nodes of the calls of its block on what the block was handed. -/
  children : List NodeId

/-- What the executor is to be called for: conditions are evaluated, and what else is built directly on
a project or a target is run. -/
def CallRecord.invocations (r : CallRecord) : List Invocation :=
  if r.builder.definition.condition then [⟨.eval r.node, r.children⟩]
  else if r.on = .handed then []
  else [⟨.execute r.node, r.children⟩]

mutual

/-- A call and those of its block in the order in which they come to their end. A node is built at the
beginning of its call, and `next` is the next free one. -/
def BuilderCall.records (next handed : NodeId) : BuilderCall → List CallRecord
  | .call b on block => recordsAll (next + 1) next block ++
      [⟨b, on, next, on.place handed, childNodes (next + 1) block⟩]

/-- Calls and those of their blocks in the order in which they come to their end. -/
def recordsAll (next handed : NodeId) : List BuilderCall → List CallRecord
  | [] => []
  | c :: rest => c.records next handed ++ recordsAll (next + c.size) handed rest

end

/-! ## Scripts -/

/-- What a script does to a project. -/
inductive ScriptItem (β : Type) where
  | target (name : String) (depends : List String) (body : Option β)
  | call (c : BuilderCall)

namespace ScriptItem

/-- Runs one item. -/
def run (ex : Option (Executor β)) (s : Session β) : ScriptItem β → Session β
  | target name depends body => s.become (s.project.declare name depends body).1
  | call c => c.run ex Project.rootNode s

/-- Runs a script on a new project. -/
def runAll (ex : Option (Executor β)) (name : String) (items : List (ScriptItem β)) : Session β :=
  items.foldl (run ex) { project := .new name }

/-- Whether the calls of a script are made on receivers that admit them, where `targets` targets have
been declared before. -/
def allFit (targets : Nat) : List (ScriptItem β) → Bool
  | [] => true
  | target _ _ _ :: rest => allFit (targets + 1) rest
  | call c :: rest => c.fits targets .script && allFit targets rest

/-- The calls of a script in the order in which they come to their end. -/
def recordsFrom (next : NodeId) : List (ScriptItem β) → List CallRecord
  | [] => []
  | target _ _ _ :: rest => recordsFrom (next + 1) rest
  | call c :: rest => c.records next Project.rootNode ++ recordsFrom (next + c.size) rest

end ScriptItem

/-! ## Nodes of calls -/

mutual

/-- The calls of a tree build the nodes from the next free one on, each of them one. -/
theorem BuilderCall.perm_records (c : BuilderCall) (next handed : NodeId) :
    ((c.records next handed).map CallRecord.node).Perm (List.range' next c.size) := by
  match c with
  | .call b on block =>
    rw [BuilderCall.records, List.map_append, BuilderCall.size, List.range'_succ]
    refine List.perm_append_comm.trans ?_
    exact (perm_recordsAll block (next + 1) next).cons next

theorem perm_recordsAll (calls : List BuilderCall) (next handed : NodeId) :
    ((recordsAll next handed calls).map CallRecord.node).Perm (List.range' next (sizeAll calls)) := by
  match calls with
  | [] => rw [recordsAll, sizeAll]; exact .refl _
  | c :: rest =>
    rw [recordsAll, sizeAll, List.map_append, ← List.range'_append_1]
    exact (c.perm_records next handed).append (perm_recordsAll rest (next + c.size) handed)

end

end TaskBuilders.Script
