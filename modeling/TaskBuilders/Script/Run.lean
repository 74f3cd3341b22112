import TaskBuilders.Script.Project

/-!
# Running targets

A target runs after the targets that it depends on, and at most once for one request. The walk is
depth-first in the written order of the requested names and of the dependencies. It is stated over any
state that can look a target up and run its body, because a body may itself declare targets.
-/

namespace TaskBuilders.Script

/-- Why a request to run targets stops. -/
inductive RunError where
  | unknownTarget (name : String)
  | circular (name : String)
  | tooDeep (name : String)
deriving Repr, DecidableEq

/-- The text of an error. -/
def RunError.message : RunError → String
  | unknownTarget name => "dsl: unknown target: " ++ name
  | circular name => "dsl: circular dependency on target " ++ name
  | tooDeep name => "dsl: dependencies nested too deeply at target " ++ name

/-- How targets are found and run in a state. -/
structure TargetRunner (β σ : Type) where
  find : σ → String → Option (Target β)
  enter : Target β → σ → σ

/-- The state of a request, with the names of the targets that are done. -/
structure Progress (σ : Type) where
  state : σ
  done : List String := []

namespace TargetRunner

variable {β σ : Type}

/-- Visits names in order until one fails. -/
def visitEach (visit : String → Progress σ → Progress σ × Option RunError) :
    List String → Progress σ → Progress σ × Option RunError
  | [], g => (g, none)
  | name :: rest, g =>
    match visit name g with
    | (g, some e) => (g, some e)
    | (g, none) => visitEach visit rest g

/-- Runs the target of a name after its dependencies. `visiting` holds the targets whose dependencies
are being run; `depth` bounds how many there may be. -/
def visit (r : TargetRunner β σ) : (depth : Nat) → (visiting : List String) → String → Progress σ →
    Progress σ × Option RunError
  | 0, _, name, g => (g, some (.tooDeep name))
  | depth + 1, visiting, name, g =>
    if g.done.contains name then (g, none)
    else
      match r.find g.state name with
      | none => (g, some (.unknownTarget name))
      | some t =>
        if visiting.contains name then (g, some (.circular name))
        else
          match visitEach (visit r depth (name :: visiting)) t.depends g with
          | (g, some e) => (g, some e)
          | (g, none) => (⟨r.enter t g.state, name :: g.done⟩, none)

/-- Runs the targets of several names. -/
def run (r : TargetRunner β σ) (depth : Nat) (names : List String) (s : σ) : σ × Option RunError :=
  let (g, e) := visitEach (r.visit depth []) names ⟨s, []⟩
  (g.state, e)

end TargetRunner

/-- The names that a request runs: the default target when none are given. -/
def Project.requested {β : Type} (p : Project β) (names : List String) : List String :=
  if names.isEmpty && p.defaultTarget != "" then [p.defaultTarget] else names

end TaskBuilders.Script
