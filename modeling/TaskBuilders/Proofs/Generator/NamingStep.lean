import TaskBuilders.Proofs.Generator.Names
import TaskBuilders.Proofs.Generator.Step

/-!
# Names along a run

What a run does to names is simple, whatever its provider answers: it names and opens containers,
and it enters types under the names that they have. Everything else leaves all names alone. So what
these steps keep holds after every sequence of requests, also over a provider that answers with
definitions of other identifiers.

* `NamingStep` — what a run does to names at once
* `namingSteps_serveAll` — requests are served by such steps, over any provider
* `Named.namingStep` — the tables of a run follow its namer, whatever the provider answers
* `get?_names_namingStep` — no name is taken back
-/

namespace TaskBuilders

open Naming

/-- What a class is besides its builders: its name, its type and its capability. -/
def StructureClass.heading (c : StructureClass) : String × String × String :=
  (c.name, c.source, c.capability)

/-- Two structures with the same classes, but for their builders. -/
def Structure.SameHeadings (s s' : Structure) : Prop :=
  ∀ name, (s'.class? name).map StructureClass.heading = (s.class? name).map StructureClass.heading

namespace Generator

variable {g g' : Generator}

/-! ## Naming steps -/

/-- Everything that has to do with names is the same. -/
structure SameNames (g g' : Generator) : Prop where
  options : g'.options = g.options
  namer : g'.namer = g.namer
  containerNames : g'.containerNames = g.containerNames
  resolved : ∀ id t', g'.resolved.get? id = some t' →
    ∃ t, g.resolved.get? id = some t ∧ t'.className = t.className
  headings : Structure.SameHeadings g.library g'.library

/-- What a run does to names at once. -/
inductive NamingStep : Generator → Generator → Prop where
  | none {g g' : Generator} (same : SameNames g g') : NamingStep g g'
  | nameContainer (g : Generator) (id : String) : NamingStep g (g.containerName id).2
  | openContainer {g : Generator} {id name : String}
      (named : g.containerNames.get? id = some name) : NamingStep g (g.openContainer id name)
  | openTarget (g : Generator) (d : TaskDefinition) : NamingStep g (g.openTarget d).2

/-- A sequence of naming steps. -/
abbrev NamingSteps : Generator → Generator → Prop := Relation.ReflTransGen NamingStep

/-- What every naming step keeps, every run keeps. -/
theorem NamingSteps.keeps {I : Generator → Prop} (step : ∀ g g', NamingStep g g' → I g → I g')
    (h : NamingSteps g g') (hg : I g) : I g' := by
  induction h with
  | refl => exact hg
  | tail _ hm ih => exact step _ _ hm ih

/-! ## Runs are made of naming steps -/

/-- A step that keeps the options, the namer, the containers and the library changes no names. -/
theorem NamingStep.of_same (hoptions : g'.options = g.options) (hnamer : g'.namer = g.namer)
    (hnames : g'.containerNames = g.containerNames) (hlibrary : g'.library = g.library)
    (hresolved : ∀ id t', g'.resolved.get? id = some t' →
      ∃ t, g.resolved.get? id = some t ∧ t'.className = t.className) : NamingStep g g' :=
  .none ⟨hoptions, hnamer, hnames, hresolved, fun _ => by rw [hlibrary]⟩

/-- Every step is a naming step. -/
theorem Step.namingStep (h : Step g g') : NamingStep g g' := by
  cases h with
  | note memory log missing => exact .of_same rfl rfl rfl rfl fun _ t ht => ⟨t, ht, rfl⟩
  | nameContainer id => exact .nameContainer g id
  | openContainer named => exact .openContainer named
  | openTarget _ => exact .openTarget g _
  | @define _ t ht d =>
    exact .of_same rfl rfl rfl rfl
      (className_of_insert (u := { t with definition := some d }) ht rfl rfl)
  | @place _ t ht =>
    exact .of_same rfl rfl rfl rfl
      (className_of_insert (u := { t with file := some (g.targetPath t) }) ht rfl rfl)
  | build path parent tag d className =>
    have hs := sameBeyondBuilders_build g path parent tag d className
    exact .none ⟨hs.options, hs.namer, hs.containerNames,
      fun _ t ht => ⟨t, hs.resolved ▸ ht, rfl⟩,
      map_class?_build (fun _ _ => rfl) g path parent tag d className⟩

/-- **Requests are served by naming steps, over any provider.** -/
theorem namingSteps_serveAll (g : Generator) (rs : List Request) : NamingSteps g (g.serveAll rs) :=
  Relation.ReflTransGen.mono (fun _ _ h => h.namingStep) _ _ (g.steps_serveAll rs)

/-! ## What naming steps keep -/

theorem options_namingStep (hm : NamingStep g g') : g'.options = g.options := by
  cases hm with
  | none hs => exact hs.options
  | nameContainer id => exact (sameBeyondNames_containerName g id).options
  | openContainer _ => rfl
  | openTarget d => exact (g.openTarget_names d).1

/-- The tables of a run follow its namer, whatever the provider answers. -/
theorem Named.namingStep (h : Named g) (hm : NamingStep g g') : Named g' := by
  cases hm with
  | none hs =>
    refine ⟨by rw [hs.namer, hs.options, h.package], hs.namer ▸ h.owned, ?_, ?_⟩
    · intro id t' ht'
      obtain ⟨t, ht, hclass⟩ := hs.resolved id t' ht'
      rw [hs.namer, hs.options, hclass]
      exact h.types id t ht
    · rw [hs.containerNames, hs.namer, hs.options]
      exact h.containers
  | nameContainer id => exact h.containerName id
  | openContainer _ => exact h.of_same rfl rfl rfl rfl
  | openTarget d =>
    obtain ⟨hnamed, ident, hident, hname⟩ := h.nameTarget d
    rw [openTarget_eq, hname, ← (sameBeyondNames_nameTarget g d).options]
    exact hnamed.enterTarget hident _

/-- No name is taken back. -/
theorem get?_names_namingStep {key ident : String} (h : g.namer.names.get? key = some ident)
    (hm : NamingStep g g') : g'.namer.names.get? key = some ident := by
  cases hm with
  | none hs => rwa [hs.namer]
  | nameContainer id => exact names_containerName_of_some id h
  | openContainer _ => exact h
  | openTarget d =>
    rw [(g.openTarget_names d).2]
    exact nameTarget_keeps (I := fun g => g.namer.names.get? key = some ident)
      (Namer.get?_names_mint_of_some _ _ _ h) fun _ id hg => names_containerName_of_some id hg

end Generator

end TaskBuilders
