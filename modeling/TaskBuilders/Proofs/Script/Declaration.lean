import TaskBuilders.Script.Statement

/-!
# Declarations of targets

What a request to run targets reads of a project is how its targets were declared: their names, their
dependencies and their bodies. Tasks come and go without touching that, and so does every statement
that neither declares nor runs targets.

* `Project.declarations` — the targets as they were declared
* `Project.declaration_target?` — a target is found by the declarations alone
* `Machine.SameTargets` — two states of a machine with the same declarations
* `Machine.sameTargets_exec` — quiet statements lead to such a state
-/

namespace TaskBuilders.Script

variable {β : Type}

/-- A target as it was declared, without the tasks that were built for it since. -/
def Target.declaration (t : Target β) : Target β := { t with tasks := [] }

namespace Project

variable {p p' : Project β} {name : String} {t : Target β}

/-- The targets as they were declared. -/
def declarations (p : Project β) : List (Target β) := p.declared.map Target.declaration

/-- What the target of a name depends on. -/
def dependsOf? (p : Project β) (name : String) : Option (List String) :=
  (p.target? name).map (·.depends)

/-- **A target is found by the declarations alone.** -/
theorem declaration_target? (p : Project β) (name : String) :
    (p.target? name).map Target.declaration = p.declarations.reverse.find? (·.name == name) := by
  rw [declarations, ← List.map_reverse, List.find?_map]
  rfl

/-- Projects with the same declarations find the same targets. -/
theorem target?_of_declarations (h : p'.declarations = p.declarations) (ht : p'.target? name = some t) :
    ∃ t₀, p.target? name = some t₀ ∧ t₀.declaration = t.declaration := by
  have hname := p'.declaration_target? name
  rw [h, ← p.declaration_target? name, ht] at hname
  exact Option.map_eq_some_iff.1 hname.symm

theorem dependsOf?_eq (p : Project β) (name : String) :
    p.dependsOf? name = (p.declarations.reverse.find? (·.name == name)).map (·.depends) := by
  rw [← declaration_target?, Option.map_map]
  rfl

theorem name_of_target? (h : p.target? name = some t) : t.name = name := by
  simpa using List.find?_some h

theorem mem_declared_of_target? (h : p.target? name = some t) : t ∈ p.declared :=
  List.mem_reverse.1 (List.mem_of_find?_eq_some h)

/-! ## What keeps the declarations -/

theorem declarations_modifyTarget (p : Project β) (i : TargetId) (tasks : Target β → List NodeId) :
    (p.modifyTarget i fun t => { t with tasks := tasks t }).declarations = p.declarations := by
  have hmap : (p.targets.modify i fun t => { t with tasks := tasks t }).map Target.declaration =
      p.targets.map Target.declaration := by
    refine List.ext_getElem? fun j => ?_
    rw [List.getElem?_map, List.getElem?_map, List.getElem?_modify]
    cases p.targets[j]? with
    | none => rfl
    | some t => by_cases hj : i = j <;> simp [hj, Target.declaration]
  simp only [declarations, declared, modifyTarget, List.map_drop, hmap]

theorem declarations_configure (p : Project β) (n : NodeId) :
    (p.configure n).declarations = p.declarations := by
  unfold configure
  split
  · rfl
  · split
    · rfl
    · split
      · rfl
      · exact declarations_modifyTarget _ _ _

theorem declarations_addNode (p : Project β) (parent : NodeId) (typeId tag : String)
    (outermost : Bool) : (p.addNode parent typeId tag outermost).1.declarations = p.declarations := by
  unfold addNode
  split <;> rfl

theorem declarations_takeReference (p : Project β) (n : NodeId) :
    (p.takeReference n).1.declarations = p.declarations := by
  unfold takeReference
  split
  · split <;> rfl
  · rfl

end Project

/-- Running and evaluating nodes declares no targets. -/
structure Executor.Quiet (ex : Executor β) : Prop where
  execute : ∀ n p, (ex.execute n p).1.declarations = p.declarations
  eval : ∀ n p, (ex.eval n p).1.declarations = p.declarations

namespace Project

variable {ex : Option (Executor β)}

theorem declarations_execute (hex : ∀ x ∈ ex, x.Quiet) (p : Project β) (n : NodeId) :
    (p.execute ex n).declarations = p.declarations := by
  unfold execute
  split
  · rfl
  · split
    · rfl
    · split
      · rfl
      next x =>
        have hx := (hex x rfl).execute
        dsimp only
        split
        next heq => exact (congrArg (·.1.declarations) heq).symm.trans (hx n _)
        next heq => exact (congrArg (·.1.declarations) heq).symm.trans (hx n _)

theorem declarations_eval (hex : ∀ x ∈ ex, x.Quiet) (p : Project β) (n : NodeId) :
    (p.eval ex n).1.declarations = p.declarations := by
  unfold eval
  split
  next x _ =>
    have hx := (hex x rfl).eval
    split
    next heq => exact (congrArg (·.1.declarations) heq).symm.trans (hx n _)
    next heq => exact (congrArg (·.1.declarations) heq).symm.trans (hx n _)
  next => rfl

end Project

/-! ## Quiet statements -/

/-- Statements that touch no targets: they neither declare nor run any, and run no body. -/
def Statement.plain : Statement → Bool
  | .container .. | .target .. | .run .. => false
  | _ => true

/-- Statements that neither declare targets nor run any, also in their bodies. -/
inductive Statement.Quiet : Statement → Prop where
  | plain {s : Statement} (plain : s.plain) : Quiet s
  | empty {node id : String} : Quiet (.container node id none)
  | container {node id : String} {body : List Statement} (each : ∀ s ∈ body, Quiet s) :
      Quiet (.container node id (some body))

namespace Machine

variable {m m' m'' : Machine}

/-- Two states of a machine with the same declarations. -/
structure SameTargets (m m' : Machine) : Prop where
  executor : m'.executor = m.executor
  declarations : m'.project.declarations = m.project.declarations

theorem SameTargets.refl (m : Machine) : SameTargets m m := ⟨rfl, rfl⟩

theorem SameTargets.trans (h : SameTargets m m') (h' : SameTargets m' m'') : SameTargets m m'' :=
  ⟨h'.executor.trans h.executor, h'.declarations.trans h.declarations⟩

/-- A plain statement keeps the declarations. -/
theorem sameTargets_step {inner : List Statement → Machine → Machine} {s : Statement} {depth : Nat}
    (hex : ∀ x ∈ m.executor, x.Quiet) (hs : s.plain) : SameTargets m (step depth inner m s) := by
  cases s with
  | node id parent typeId tag outermost => exact ⟨rfl, Project.declarations_addNode _ _ _ _ _⟩
  | set => exact ⟨rfl, rfl⟩
  | get node name =>
    simp only [step]
    split <;> exact ⟨rfl, rfl⟩
  | typed node name kind =>
    simp only [step]
    split <;> exact ⟨rfl, rfl⟩
  | text => exact ⟨rfl, rfl⟩
  | configure node => exact ⟨rfl, Project.declarations_configure _ _⟩
  | execute node => exact ⟨rfl, Project.declarations_execute hex _ _⟩
  | eval node => exact ⟨rfl, Project.declarations_eval hex _ _⟩
  | describe => exact ⟨rfl, rfl⟩
  | render => exact ⟨rfl, rfl⟩
  | reference node id => exact ⟨rfl, Project.declarations_takeReference _ _⟩
  | container => cases hs
  | target => cases hs
  | setDefault => exact ⟨rfl, rfl⟩
  | run => cases hs
  | failures => exact ⟨rfl, rfl⟩
  | setProperty => exact ⟨rfl, rfl⟩
  | lookup => exact ⟨rfl, rfl⟩
  | initProperties => exact ⟨rfl, rfl⟩
  | property p => cases p <;> exact ⟨rfl, rfl⟩

/-- **Quiet statements keep the declarations.** -/
theorem sameTargets_exec (hex : ∀ x ∈ m.executor, x.Quiet) (depth : Nat) {statements : List Statement}
    (hquiet : ∀ s ∈ statements, s.Quiet) : SameTargets m (exec depth statements m) := by
  induction depth generalizing m statements with
  | zero => exact .refl m
  | succ depth ih =>
    show SameTargets m (statements.foldl (step depth (exec depth)) m)
    induction statements generalizing m with
    | nil => exact .refl m
    | cons s rest ihrest =>
      have hstep : SameTargets m (step depth (exec depth) m s) := by
        cases hquiet s List.mem_cons_self with
        | plain hs => exact sameTargets_step hex hs
        | empty => exact ⟨rfl, rfl⟩
        | @container node id body each =>
          -- the body runs in a state that differs in one node and one name
          have hbody := ih (m := { m with project := m.project.collect (m.nodeId node) }.bind id
            (m.nodeId node)) hex each
          exact ⟨hbody.executor, hbody.declarations⟩
      refine hstep.trans (ihrest ?_ fun x hx => hquiet x (List.mem_cons_of_mem s hx))
      rwa [hstep.executor]

end Machine

end TaskBuilders.Script
