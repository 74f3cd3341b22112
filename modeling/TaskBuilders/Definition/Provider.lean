import TaskBuilders.Definition.Basic
import TaskBuilders.Dict
import TaskBuilders.Text.Affix

/-!
# Providers of definitions

A provider is asked for the definition of a type identifier. It answers with a definition, with
nothing, or with a failure, and asking it may crash. `Provider.safe` turns everything but a
definition into a failure that means "not found", and `Provider.chain` asks several providers in
turn.
-/

namespace TaskBuilders

/-- What a failed question says about the identifier. -/
inductive FailureKind where
  /-- The provider does not know the identifier. -/
  | notFound
  /-- Looking into a registered type failed; this too counts as not found. -/
  | registryCrash
  /-- Anything else. -/
  | other
deriving Repr, DecidableEq

/-- Why a question has no definition for an answer. -/
structure ProviderFailure where
  kind : FailureKind
  message : String
deriving Repr, DecidableEq

/-- Whether a failure means that the identifier is unknown. -/
def ProviderFailure.isNotFound (f : ProviderFailure) : Bool := f.kind != .other

/-- The answer to a question. -/
inductive Answer where
  | found (d : TaskDefinition)
  /-- Neither a definition nor a failure. -/
  | nothing
  | failed (f : ProviderFailure)
  /-- Asking crashed with this message. -/
  | crashed (message : String)
deriving Repr, DecidableEq

/-- What providers remember of earlier questions: each question with the number of the provider
that it was put to. -/
abbrev Memory := List (Nat × String)

/-- A source of definitions. -/
structure Provider where
  /-- The identifiers that may be answered with a definition. -/
  known : List String
  /-- How many nested elements the definitions have. -/
  elements : Nat
  /-- Answers a question. -/
  ask : String → Memory → Answer × Memory

/-- The text of every failure that means "not found". -/
def notFoundText : String := "taskdef: definition not found"

/-- An unknown identifier. -/
def notFound (id : String) : ProviderFailure := ⟨.notFound, notFoundText ++ ": " ++ id⟩

/-- An unknown identifier, with the reason. -/
def notFoundBecause (id reason : String) : ProviderFailure :=
  ⟨.notFound, notFoundText ++ ": " ++ id ++ ": " ++ reason⟩

namespace Provider

/-- How many nested elements the definition in an answer has. -/
def elementsOf : Answer → Nat
  | .found d => d.nested.length
  | _ => 0

/-- A provider that remembers nothing. -/
def stateless (known : List String) (answer : String → Answer) : Provider where
  known := known
  elements := known.foldl (fun n id => n + elementsOf (answer id)) 0
  ask := fun id m => (answer id, m)

/-- A table of answers; an entry may be empty. -/
def table (entries : Dict (Option TaskDefinition)) : Provider :=
  stateless entries.keys fun id =>
    match entries.get? id with
    | some (some d) => .found d
    | some none => .nothing
    | none => .failed (notFound id)

/-- A fixed set of definitions; of two with one identifier the later counts. -/
def static (defs : List TaskDefinition) : Provider :=
  table (Dict.ofList (defs.map fun d => (d.id, some d)))

instance : Inhabited Provider := ⟨static []⟩

/-- Always the same answer. -/
def constant (a : Answer) : Provider := stateless [] fun _ => a

/-- Hands the first question for an identifier on to `p` and fails the later ones. `number` tells
such providers apart. -/
def once (number : Nat) (p : Provider) : Provider where
  known := p.known
  elements := p.elements
  ask := fun id m =>
    if m.contains (number, id) then (.failed ⟨.other, "asked twice"⟩, m)
    else p.ask id ((number, id) :: m)

/-- The answer of a safe provider: a definition, or a failure that means "not found". -/
def safeAnswer (id : String) : Answer → Answer
  | .found d => .found d
  | .nothing => .failed (notFound id)
  | .failed f => if f.isNotFound then .failed f else .failed (notFoundBecause id f.message)
  | .crashed message => .failed (notFoundBecause id ("panic: " ++ message))

/-- Answers every question with a definition or with a failure that means "not found". -/
def safe (p : Provider) : Provider where
  known := p.known
  elements := p.elements
  ask := fun id m =>
    let (a, m') := p.ask id m
    (safeAnswer id a, m')

/-- Asks providers in turn. `reasons` are the failures so far that do not mean "not found". -/
def askInTurn (id : String) : List Provider → List String → Memory → Answer × Memory
  | [], [], m => (.failed (notFound id), m)
  | [], reasons, m => (.failed (notFoundBecause id (Text.join "\n" reasons)), m)
  | p :: ps, reasons, m =>
    match p.ask id m with
    | (.found d, m') => (.found d, m')
    | (.crashed message, m') => (.crashed message, m')
    | (.nothing, m') => askInTurn id ps reasons m'
    | (.failed f, m') =>
      askInTurn id ps (if f.isNotFound then reasons else reasons ++ [f.message]) m'

/-- Asks each provider in turn and returns the first definition. -/
def chain (ps : List Provider) : Provider where
  known := ps.flatMap (·.known)
  elements := ps.foldl (fun n p => n + p.elements) 0
  ask := fun id m => askInTurn id ps [] m

end Provider

end TaskBuilders
