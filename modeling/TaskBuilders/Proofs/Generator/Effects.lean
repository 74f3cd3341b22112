import TaskBuilders.Generator.Resolve
import TaskBuilders.Proofs.Generator.Blocks
import TaskBuilders.Proofs.Structure.Functions

/-!
# What the parts of a run change

Naming containers changes names only, and what naming one container keeps, naming several keeps.
Asking for a definition has four outcomes. Rendering a builder does nothing of note, or it builds,
and building changes nothing that builders do not belong to.
-/

namespace TaskBuilders.Generator

open Naming Source

/-! ## Naming containers -/

theorem containerName_of_some {g : Generator} {id name : String}
    (h : g.containerNames.get? id = some name) : g.containerName id = (name, g) := by
  rw [containerName, h]

theorem containerName_of_none {g : Generator} {id : String} (h : g.containerNames.get? id = none) :
    g.containerName id = ((g.namer.containerName id).1,
      { g with
        namer := (g.namer.containerName id).2
        containerNames := g.containerNames.insert id (g.namer.containerName id).1 }) := by
  rw [containerName, h]

/-- The container has its name afterwards. -/
theorem get?_containerName_self (g : Generator) (id : String) :
    (g.containerName id).2.containerNames.get? id = some (g.containerName id).1 := by
  cases h : g.containerNames.get? id with
  | some name => rw [containerName_of_some h]; exact h
  | none => rw [containerName_of_none h]; exact Dict.get?_insert_self _ _ _

/-- A container keeps its name. -/
theorem get?_containerName_of_some {g : Generator} {c name : String} (id : String)
    (h : g.containerNames.get? c = some name) :
    (g.containerName id).2.containerNames.get? c = some name := by
  cases hid : g.containerNames.get? id with
  | some _ => rw [containerName_of_some hid]; exact h
  | none =>
    rw [containerName_of_none hid]
    have hne : c ≠ id := by
      rintro rfl
      rw [h] at hid
      cases hid
    exact (Dict.get?_insert_of_ne _ _ hne).trans h

/-- What naming one container keeps, naming several keeps. -/
theorem containerNamesOf_keeps {I : Generator → Prop}
    (h : ∀ g id, I g → I (g.containerName id).2) :
    ∀ (ids : List String) (g : Generator), I g → I (containerNamesOf ids g).2
  | [], _, hg => hg
  | id :: ids, g, hg => containerNamesOf_keeps h ids (g.containerName id).2 (h g id hg)

/-- Opening a target names its type, then containers, and then enters the definition. -/
theorem openTarget_eq (g : Generator) (d : TaskDefinition) :
    g.openTarget d = (g.nameTarget d).2.2.enterTarget d (g.nameTarget d).1 (g.nameTarget d).2.1 :=
  rfl

theorem nameTarget_fst (g : Generator) (d : TaskDefinition) :
    (g.nameTarget d).1 = (g.namer.resultName d.id).1 := rfl

/-- What naming the type and naming a container keep, naming a target keeps. -/
theorem nameTarget_keeps {I : Generator → Prop} {g : Generator} {d : TaskDefinition}
    (hg : I { g with namer := (g.namer.resultName d.id).2 })
    (h : ∀ g id, I g → I (g.containerName id).2) : I (g.nameTarget d).2.2 :=
  containerNamesOf_keeps h _ _ hg

/-- Everything but the names. -/
structure SameBeyondNames (g g' : Generator) : Prop where
  options : g'.options = g.options
  provider : g'.provider = g.provider
  emitter : g'.emitter = g.emitter
  library : g'.library = g.library
  resolved : g'.resolved = g.resolved
  missing : g'.missing = g.missing
  files : g'.files = g.files
  functions : g'.functions = g.functions
  containersDone : g'.containersDone = g.containersDone
  errors : g'.errors = g.errors

theorem SameBeyondNames.containerName {g g' : Generator} (h : SameBeyondNames g g') (id : String) :
    SameBeyondNames g (g'.containerName id).2 := by
  cases hid : g'.containerNames.get? id with
  | some name => rw [containerName_of_some hid]; exact h
  | none =>
    rw [containerName_of_none hid]
    exact ⟨h.options, h.provider, h.emitter, h.library, h.resolved, h.missing, h.files,
      h.functions, h.containersDone, h.errors⟩

/-- Naming a container changes names only. -/
theorem sameBeyondNames_containerName (g : Generator) (id : String) :
    SameBeyondNames g (g.containerName id).2 :=
  SameBeyondNames.containerName ⟨rfl, rfl, rfl, rfl, rfl, rfl, rfl, rfl, rfl, rfl⟩ id

/-- Naming a target changes names only. -/
theorem sameBeyondNames_nameTarget (g : Generator) (d : TaskDefinition) :
    SameBeyondNames g (g.nameTarget d).2.2 :=
  nameTarget_keeps ⟨rfl, rfl, rfl, rfl, rfl, rfl, rfl, rfl, rfl, rfl⟩
    fun _ id hg => hg.containerName id

/-! ## Opening a target -/

theorem enterTarget_frame (g : Generator) (d : TaskDefinition) (name : String)
    (containers : List String) :
    let g' := (g.enterTarget d name containers).2
    g'.functions = g.functions ∧ g'.errors = g.errors ∧ g'.missing = g.missing ∧
      g'.containersDone = g.containersDone :=
  ⟨rfl, rfl, rfl, rfl⟩

theorem openTarget_frame (g : Generator) (d : TaskDefinition) :
    let g' := (g.openTarget d).2
    g'.functions = g.functions ∧ g'.errors = g.errors ∧ g'.missing = g.missing ∧
      g'.containersDone = g.containersDone := by
  obtain ⟨hfunctions, herrors, hmissing, hdone⟩ :=
    (g.nameTarget d).2.2.enterTarget_frame d (g.nameTarget d).1 (g.nameTarget d).2.1
  have hs := sameBeyondNames_nameTarget g d
  rw [openTarget_eq]
  exact ⟨hfunctions.trans hs.functions, herrors.trans hs.errors, hmissing.trans hs.missing,
    hdone.trans hs.containersDone⟩

theorem provider_enterTarget (g : Generator) (d : TaskDefinition) (name : String)
    (containers : List String) : (g.enterTarget d name containers).2.provider = g.provider := rfl

theorem containerNames_enterTarget (g : Generator) (d : TaskDefinition) (name : String)
    (containers : List String) :
    (g.enterTarget d name containers).2.containerNames = g.containerNames := rfl

@[simp] theorem provider_openTarget (g : Generator) (d : TaskDefinition) :
    (g.openTarget d).2.provider = g.provider := by
  rw [openTarget_eq, provider_enterTarget]
  exact (sameBeyondNames_nameTarget g d).provider

/-- Entering a target gives no names and registers a class under the name it is given. -/
theorem enterTarget_names (g : Generator) (d : TaskDefinition) (name : String)
    (containers : List String) :
    let g' := (g.enterTarget d name containers).2
    g'.options = g.options ∧ g'.namer = g.namer ∧
      g'.library = g.library.register { name, source := d.id, traits := containers } :=
  ⟨rfl, rfl, rfl⟩

/-- Opening a target gives the names that naming it gives. -/
theorem openTarget_names (g : Generator) (d : TaskDefinition) :
    let g' := (g.openTarget d).2
    g'.options = g.options ∧ g'.namer = (g.nameTarget d).2.2.namer := by
  obtain ⟨hoptions, hnamer, _⟩ :=
    (g.nameTarget d).2.2.enterTarget_names d (g.nameTarget d).1 (g.nameTarget d).2.1
  rw [openTarget_eq]
  exact ⟨hoptions.trans (sameBeyondNames_nameTarget g d).options, hnamer⟩

/-- The class of an opened target has the type's name and no builders. -/
theorem library_openTarget (g : Generator) (d : TaskDefinition) :
    ∃ traits, (g.openTarget d).2.library =
      g.library.register { name := (g.namer.resultName d.id).1, source := d.id, traits } :=
  ⟨(g.nameTarget d).2.1, by
    rw [openTarget_eq, enterTarget, (sameBeyondNames_nameTarget g d).library]
    rfl⟩

/-- An opened target has its definition and the type's name. -/
theorem resolved_openTarget (g : Generator) (d : TaskDefinition) :
    ∃ path, (g.openTarget d).2.resolved =
      g.resolved.insert d.id ⟨d.id, some d, (g.namer.resultName d.id).1, some path⟩ :=
  ⟨_, by
    rw [openTarget_eq, enterTarget, (sameBeyondNames_nameTarget g d).resolved]
    rfl⟩

/-- Entering a definition writes its wrapper. -/
theorem blocks_enterTarget (g : Generator) (d : TaskDefinition) (name : String)
    (containers : List String) :
    ∃ w : WrapperBlock, (w.source = d.id ∧ w.ident = identOf name ∧
        w.fields.length = (d.descriptors name g.framework).length ∧
        w.markers = containers.map identOf) ∧
      (g.enterTarget d name containers).2.blocks.Perm (.wrapper w :: g.blocks) := by
  let wrapper : Emitter.Wrapper := {
    type := name
    source := d.id
    attributes := d.descriptors name g.framework
    textContainer := d.textContainer
    condition := d.condition
    containers }
  have hfile := hasFile_ensureFile g
    (g.filePath (snakeCase (identOf name) ++ ".gen.go")) d.id
  have hmake : Emitter.Yields (Block.wrapper <$> g.emitter.wrapperBlock wrapper) fun b =>
      ∃ w, b = .wrapper w ∧ w.source = d.id ∧ w.ident = identOf name ∧
        w.fields.length = (d.descriptors name g.framework).length ∧
        w.markers = containers.map identOf :=
    Emitter.Yields.map fun t => ⟨_, rfl, g.emitter.yields_wrapperBlock wrapper t⟩
  obtain ⟨b, ⟨w, rfl, hw⟩, hperm⟩ := blocks_emit hfile hmake
  exact ⟨w, hw, hperm.trans ((g.blocks_ensureFile _ _).cons _)⟩

/-- Opening a target writes its wrapper. -/
theorem blocks_openTarget (g : Generator) (d : TaskDefinition) :
    ∃ w : WrapperBlock, (w.source = d.id ∧ w.ident = identOf (g.namer.resultName d.id).1 ∧
        w.markers = (g.nameTarget d).2.1.map identOf) ∧
      (g.openTarget d).2.blocks.Perm (.wrapper w :: g.blocks) := by
  obtain ⟨w, ⟨hsource, hident, _, hmarkers⟩, hperm⟩ :=
    (g.nameTarget d).2.2.blocks_enterTarget d (g.nameTarget d).1 (g.nameTarget d).2.1
  have hblocks : (g.nameTarget d).2.2.blocks = g.blocks := by
    rw [blocks, blocks, (sameBeyondNames_nameTarget g d).files]
  rw [hblocks, ← openTarget_eq] at hperm
  exact ⟨w, ⟨hsource, hident, hmarkers⟩, hperm⟩

/-! ## Asking for a definition -/

/-- The definition of an identifier comes from the table or from the provider, which may not know
it; what it does not know is remembered. -/
theorem lookup_cases (g : Generator) (id : String) :
    (∃ t d, g.resolved.get? id = some t ∧ t.definition = some d ∧ g.lookup id = (some d, g)) ∨
    (id ∈ g.missing ∧ g.lookup id = (none, g)) ∨
    (∃ d memory, (g.provider.ask id g.memory).1 = .found d ∧
      g.lookup id = (some d, { g with memory })) ∨
    (∃ memory log, (∀ d, (g.provider.ask id g.memory).1 ≠ .found d) ∧
      g.lookup id = (none, { g with memory, log, missing := id :: g.missing })) := by
  unfold lookup
  split
  · next d hd =>
    obtain ⟨t, ht, hdef⟩ := Option.bind_eq_some_iff.1 hd
    exact Or.inl ⟨t, d, ht, hdef, rfl⟩
  · split
    · next hmem => exact Or.inr (Or.inl ⟨List.contains_iff_mem.1 hmem, rfl⟩)
    · split
      · next d memory hask =>
        exact Or.inr (Or.inr (Or.inl ⟨d, memory, by rw [hask], rfl⟩))
      · next f memory hask =>
        refine Or.inr (Or.inr (Or.inr ⟨memory, _, ?_, rfl⟩))
        intro d
        rw [hask]
        nofun
      · next a memory hfound _ hask =>
        refine Or.inr (Or.inr (Or.inr ⟨memory, g.log, ?_, rfl⟩))
        intro d hd
        rw [hask] at hd
        exact hfound d hd

/-! ## Rendering a builder -/

/-- Rendering does nothing, or logs that a name is taken, or builds a builder that is new. -/
theorem render_cases (g : Generator) (path : String) (parent : Parent) (tag : String)
    (d : TaskDefinition) (className : String) :
    g.render path parent tag d className = g ∨
    (∃ log, g.render path parent tag d className = { g with log }) ∨
    (g.library.containsFunction parent.type tag = false ∧
      (∀ b ∈ g.plan parent tag d className, functionScope parent ++ b.funcName ∉ g.functions) ∧
      g.render path parent tag d className = g.build path parent tag d className) := by
  unfold render
  split
  · exact Or.inl rfl
  · next hnew =>
    split
    · exact Or.inr (Or.inl ⟨_, rfl⟩)
    · next hfree =>
      refine Or.inr (Or.inr ⟨by simpa using hnew, ?_, rfl⟩)
      intro b hb
      simpa using List.find?_eq_none.1 hfree b hb

/-- A builder whose place and whose names are free is built. -/
theorem render_of_free {g : Generator} {parent : Parent} {tag className : String} {d : TaskDefinition}
    (hnew : g.library.containsFunction parent.type tag = false)
    (hfree : ∀ b ∈ g.plan parent tag d className, functionScope parent ++ b.funcName ∉ g.functions)
    (path : String) : g.render path parent tag d className = g.build path parent tag d className := by
  have hfind : (g.plan parent tag d className).find?
      (fun b => g.functions.contains (functionScope parent ++ b.funcName)) = none :=
    List.find?_eq_none.2 fun b hb => by simpa using hfree b hb
  rw [render, hnew, hfind]
  rfl

/-- With a definition in the entry of its type an element is rendered like any builder. -/
theorem renderElement_of_entry {g : Generator} {e : NestedElement} {t : Target} {d : TaskDefinition}
    (ht : g.resolved.get? e.type = some t) (hd : t.definition = some d) (owner : Target) :
    renderElement owner e g =
      (none, g.render (g.targetPath owner) ⟨.owner, owner.className⟩ e.tag d t.className) := by
  unfold renderElement
  split
  · next hc => rw [render, if_pos hc]
  · rw [ht]
    dsimp only
    rw [hd]

/-- Rendering an element does nothing when its owner has a builder for the tag. Otherwise its type has a
definition, or the run breaks down. -/
theorem renderElement_cases (owner : Target) (e : NestedElement) (g : Generator) :
    (g.library.containsFunction owner.className e.tag = true ∧ renderElement owner e g = (none, g)) ∨
    (∃ t d, g.resolved.get? e.type = some t ∧ t.definition = some d ∧ renderElement owner e g =
      (none, g.render (g.targetPath owner) ⟨.owner, owner.className⟩ e.tag d t.className)) ∨
    renderElement owner e g = (some .missingTarget, g) := by
  cases hentry : (g.resolved.get? e.type).bind (·.definition) with
  | some d =>
    obtain ⟨t, ht, hd⟩ := Option.bind_eq_some_iff.1 hentry
    exact Or.inr (Or.inl ⟨t, d, ht, hd, renderElement_of_entry ht hd owner⟩)
  | none =>
    unfold renderElement
    by_cases hc : g.library.containsFunction owner.className e.tag = true
    · exact Or.inl ⟨hc, if_pos hc⟩
    · rw [if_neg hc]
      cases ht : g.resolved.get? e.type with
      | none => exact Or.inr (Or.inr rfl)
      | some t =>
        rw [ht, Option.bind_some] at hentry
        dsimp only
        rw [hentry]
        exact Or.inr (Or.inr rfl)

/-! ## Building -/

/-- The immediate form of the builder for a definition whose generated type is `className`. -/
def immediate (g : Generator) (parent : Parent) (tag : String) (d : TaskDefinition)
    (className : String) : BuilderDecl :=
  planImmediate d parent tag className g.rootContainer (d.descriptors className g.framework)

theorem plan_eq (g : Generator) (parent : Parent) (tag : String) (d : TaskDefinition)
    (className : String) : g.plan parent tag d className =
      [g.immediate parent tag d className, (g.immediate parent tag d className).toDeferred] := rfl

/-- Writes both forms of a builder, the immediate one first. -/
def writeForms (g : Generator) (path : String) (b : BuilderDecl) : Generator :=
  writeBuilder path (writeBuilder path g b) b.toDeferred

theorem build_eq (g : Generator) (path : String) (parent : Parent) (tag : String)
    (d : TaskDefinition) (className : String) : g.build path parent tag d className =
      (g.writeForms path (g.immediate parent tag d className)).declare parent tag
        (d.descriptors className g.framework) className := rfl

/-- A builder is declared, or the reason against that is kept. -/
theorem declare_cases (g : Generator) (parent : Parent) (tag : String)
    (attrs : List AttributeDescriptor) (className : String) :
    (∃ library, g.library.addFunction parent.type tag (builderName parent tag) g.options.importPath
        attrs className = .ok library ∧
      g.declare parent tag attrs className = { g with library }) ∨
    (∃ e, g.library.addFunction parent.type tag (builderName parent tag) g.options.importPath
        attrs className = .error e ∧
      g.declare parent tag attrs className = { g with errors := g.errors ++ [e] }) := by
  unfold declare
  split
  · next library h => exact Or.inl ⟨library, h, rfl⟩
  · next e h => exact Or.inr ⟨e, h, rfl⟩

/-- Everything but the builders. -/
structure SameBeyondBuilders (g g' : Generator) : Prop where
  options : g'.options = g.options
  provider : g'.provider = g.provider
  emitter : g'.emitter = g.emitter
  namer : g'.namer = g.namer
  resolved : g'.resolved = g.resolved
  missing : g'.missing = g.missing
  containerNames : g'.containerNames = g.containerNames
  containersDone : g'.containersDone = g.containersDone
  hasFile : ∀ path, g.HasFile path → g'.HasFile path
  blocks : g.blocks ⊆ g'.blocks

/-- Building changes builders only. -/
theorem sameBeyondBuilders_build (g : Generator) (path : String) (parent : Parent) (tag : String)
    (d : TaskDefinition) (className : String) :
    SameBeyondBuilders g (g.build path parent tag d className) := by
  have hfile : ∀ p, g.HasFile p →
      (g.writeForms path (g.immediate parent tag d className)).HasFile p := fun p hp =>
    HasFile.editFile (g := { writeBuilder path g _ with functions := _ })
      (HasFile.editFile (g := { g with functions := _ }) hp path _) path _
  have hblocks : g.blocks ⊆ (g.writeForms path (g.immediate parent tag d className)).blocks :=
    List.Subset.trans (subset_blocks_emit { g with functions := _ } path _)
      (subset_blocks_emit { writeBuilder path g _ with functions := _ } path _)
  rw [build_eq]
  rcases declare_cases (g.writeForms path (g.immediate parent tag d className)) parent tag
      (d.descriptors className g.framework) className with ⟨_, _, h⟩ | ⟨_, _, h⟩
  all_goals
    rw [h]
    exact ⟨rfl, rfl, rfl, rfl, rfl, rfl, rfl, rfl, hfile, hblocks⟩

/-- Building changes nothing about a class but its builders. -/
theorem map_class?_build {β : Type} {f : StructureClass → β}
    (hf : ∀ c functions, f { c with functions } = f c) (g : Generator) (path : String)
    (parent : Parent) (tag : String) (d : TaskDefinition) (className name : String) :
    ((g.build path parent tag d className).library.class? name).map f =
      (g.library.class? name).map f := by
  rw [build_eq]
  rcases declare_cases (g.writeForms path (g.immediate parent tag d className)) parent tag
      (d.descriptors className g.framework) className with ⟨_, hadd, h⟩ | ⟨_, _, h⟩
  · rw [h]
    exact Structure.map_class?_addFunction hf hadd name
  · rw [h]
    rfl

end TaskBuilders.Generator
