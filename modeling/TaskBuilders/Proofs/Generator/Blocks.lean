import TaskBuilders.Generator.Basic
import TaskBuilders.Proofs.Dict.Lookup
import TaskBuilders.Proofs.Source.Emission

/-!
# What a run has written

All blocks of all files, and the wrappers, containers and builders among them. Files are looked at
as a whole: which block stands in which file is not said here, so that writing a block adds it to
the others up to their order.

* `Generator.blocks_ensureFile` — creating a file writes nothing
* `Generator.blocks_emit` — writing to a file that exists adds one block
* `Generator.subset_blocks_emit` — nothing that was written goes away
-/

namespace TaskBuilders

namespace Source.Block

/-- The wrapper that a block is. -/
def wrapper? : Block → Option WrapperBlock
  | .wrapper w => some w
  | _ => none

/-- The container that a block is. -/
def container? : Block → Option ContainerBlock
  | .container c => some c
  | _ => none

/-- The builder that a block is. -/
def builder? : Block → Option BuilderBlock
  | .builder b => some b
  | _ => none

end Source.Block

namespace Generator

open Naming Source

/-- The blocks of all files. -/
def blocks (g : Generator) : List Block := g.files.values.flatMap (·.blocks)

/-- The wrappers that were written. -/
def wrappers (g : Generator) : List WrapperBlock := g.blocks.filterMap Block.wrapper?

/-- The containers that were written. -/
def containers (g : Generator) : List ContainerBlock := g.blocks.filterMap Block.container?

/-- The builders that were written. -/
def builders (g : Generator) : List BuilderBlock := g.blocks.filterMap Block.builder?

theorem wrapper_mem_blocks {g : Generator} {w : WrapperBlock} (h : w ∈ g.wrappers) :
    Block.wrapper w ∈ g.blocks := by
  obtain ⟨b, hb, hw⟩ := List.mem_filterMap.1 h
  cases b with
  | wrapper w' =>
    obtain rfl := Option.some.inj hw
    exact hb
  | _ => cases hw

theorem container_mem_blocks {g : Generator} {c : ContainerBlock} (h : c ∈ g.containers) :
    Block.container c ∈ g.blocks := by
  obtain ⟨b, hb, hc⟩ := List.mem_filterMap.1 h
  cases b with
  | container c' =>
    obtain rfl := Option.some.inj hc
    exact hb
  | _ => cases hc

theorem builder_mem_blocks {g : Generator} {b : BuilderBlock} (h : b ∈ g.builders) :
    Block.builder b ∈ g.blocks := by
  obtain ⟨block, hblock, hb⟩ := List.mem_filterMap.1 h
  cases block with
  | builder b' =>
    obtain rfl := Option.some.inj hb
    exact hblock
  | _ => cases hb

/-! ## Files -/

/-- Whether a file exists. -/
def HasFile (g : Generator) (path : String) : Prop := ∃ f, g.files.get? path = some f

theorem hasFile_ensureFile (g : Generator) (path source : String) :
    (g.ensureFile path source).HasFile path := by
  show ∃ f, (g.files.insertNew path _).get? path = some f
  rw [Dict.get?_insertNew, if_pos rfl]
  exact ⟨_, rfl⟩

theorem HasFile.ensureFile {g : Generator} {path : String} (h : g.HasFile path)
    (path' source : String) : (g.ensureFile path' source).HasFile path := by
  obtain ⟨f, hf⟩ := h
  exact ⟨f, Dict.get?_insertNew_of_some path' _ hf⟩

theorem HasFile.editFile {g : Generator} {path : String} (h : g.HasFile path) (path' : String)
    (change : SourceFile → SourceFile) : (g.editFile path' change).HasFile path := by
  obtain ⟨f, hf⟩ := h
  show ∃ f', (g.files.modify path' change).get? path = some f'
  rw [Dict.get?_modify]
  by_cases hp : path = path'
  · exact ⟨change f, by rw [if_pos hp, ← hp, hf, Option.map_some]⟩
  · exact ⟨f, by rw [if_neg hp, hf]⟩

/-- Every file satisfies `P`, together with its path. -/
def EachFile (P : String → SourceFile → Prop) (g : Generator) : Prop :=
  ∀ path f, g.files.get? path = some f → P path f

theorem EachFile.ensureFile {P : String → SourceFile → Prop} {g : Generator} (h : g.EachFile P)
    {path source : String} (hnew : P path (.new path g.options.package g.options.importPath source)) :
    (g.ensureFile path source).EachFile P := by
  intro path' f hf
  have hf : (g.files.insertNew path _).get? path' = some f := hf
  rw [Dict.get?_insertNew] at hf
  by_cases hp : path' = path
  · rw [if_pos hp, Option.some.injEq] at hf
    cases hold : g.files.get? path with
    | none =>
      rw [hold, Option.getD_none] at hf
      rw [← hf, hp]
      exact hnew
    | some f' =>
      rw [hold, Option.getD_some] at hf
      rw [← hf, hp]
      exact h path f' hold
  · rw [if_neg hp] at hf
    exact h path' f hf

theorem EachFile.editFile {P : String → SourceFile → Prop} {g : Generator} (h : g.EachFile P)
    {path : String} {change : SourceFile → SourceFile}
    (hchange : ∀ f, P path f → P path (change f)) : (g.editFile path change).EachFile P := by
  intro path' f hf
  have hf : (g.files.modify path change).get? path' = some f := hf
  rw [Dict.get?_modify] at hf
  by_cases hp : path' = path
  · rw [if_pos hp] at hf
    obtain ⟨f', hf', rfl⟩ := Option.map_eq_some_iff.1 hf
    rw [hp]
    exact hchange f' (h path f' hf')
  · rw [if_neg hp] at hf
    exact h path' f hf

/-! ## Blocks -/

/-- Creating a file writes nothing. -/
theorem blocks_ensureFile (g : Generator) (path source : String) :
    (g.ensureFile path source).blocks.Perm g.blocks :=
  Dict.flatMap_values_insertNew g.files path rfl

/-- Writing to a file that exists adds one block. -/
theorem blocks_emit {g : Generator} {path : String} {make : StateM ImportTable Block}
    {P : Block → Prop} (hfile : g.HasFile path) (hmake : Emitter.Yields make P) :
    ∃ b, P b ∧ (g.editFile path (·.emit make)).blocks.Perm (b :: g.blocks) := by
  obtain ⟨f, hf⟩ := hfile
  refine ⟨(make f.imports).1, hmake f.imports, ?_⟩
  have happend : (f.emit make).blocks.Perm ([(make f.imports).1] ++ f.blocks) :=
    List.perm_append_comm
  exact Dict.flatMap_values_modify (·.emit make) hf happend

/-- Nothing that was written goes away when a file is created. -/
theorem subset_blocks_ensureFile (g : Generator) (path source : String) :
    g.blocks ⊆ (g.ensureFile path source).blocks := (g.blocks_ensureFile path source).symm.subset

/-- Nothing that was written goes away when a block is added. -/
theorem subset_blocks_emit (g : Generator) (path : String) (make : StateM ImportTable Block) :
    g.blocks ⊆ (g.editFile path (·.emit make)).blocks := by
  cases hf : g.files.get? path with
  | none =>
    have hsame : g.files.modify path (·.emit make) = g.files := by rw [Dict.modify, hf]
    rw [editFile, hsame]
    exact fun _ hb => hb
  | some f =>
    obtain ⟨b, _, hperm⟩ := blocks_emit (P := fun _ => True) ⟨f, hf⟩ fun t => trivial
    exact fun _ hb => hperm.symm.subset (List.mem_cons_of_mem b hb)

theorem subset_wrappers {g g' : Generator} (h : g.blocks ⊆ g'.blocks) :
    g.wrappers ⊆ g'.wrappers := by
  intro w hw
  exact List.mem_filterMap.2 ⟨.wrapper w, h (wrapper_mem_blocks hw), rfl⟩

end Generator

end TaskBuilders
