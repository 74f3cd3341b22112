import TaskBuilders.Proofs.Generator.Move
import TaskBuilders.Proofs.Structure.Functions

/-!
# What moves write

Three moves write: opening a container writes its interface, opening a target its wrapper
(`blocks_openTarget`), and building both forms of a builder. All others leave what is written.

* `blocks_openContainer`, `blocks_build` — what opening a container and building add
* `declare_of_new` — declaring a builder that is new on a known class
* `Move.writes` — wrappers and containers are written where there are none
* `Move.builds` — a move writes no builder, or builds one where there is none
-/

namespace TaskBuilders.Generator

open Naming Source

/-- What the written builders declare. -/
def decls (g : Generator) : List BuilderDecl := g.builders.map (·.decl)

/-! ## The moves that write -/

/-- Opening a container writes its interface. -/
theorem blocks_openContainer (g : Generator) (id name : String) :
    ∃ c : ContainerBlock, (c.source = id ∧ c.ident = identOf name) ∧
      (g.openContainer id name).blocks.Perm (.container c :: g.blocks) := by
  have hfile := hasFile_ensureFile g (g.filePath containersFile) "capability containers"
  have hmake : Emitter.Yields (Block.container <$> g.emitter.containerBlock name id) fun b =>
      ∃ c, b = .container c ∧ c.source = id ∧ c.ident = identOf name :=
    Emitter.Yields.map fun t => ⟨_, rfl, g.emitter.yields_containerBlock name id t⟩
  obtain ⟨b, ⟨c, rfl, hc⟩, hperm⟩ := blocks_emit hfile hmake
  exact ⟨c, hc, hperm.trans ((g.blocks_ensureFile _ _).cons _)⟩

/-- A block of a builder knows what it declares, and only the builders of nested elements are
methods. -/
def IsBlockOf (b : BuilderBlock) (d : BuilderDecl) : Prop :=
  b.decl = d ∧ (b.receiver.isNone = true ↔ d.parent.kind ≠ .owner)

/-- Writing one form of a builder adds its block. -/
theorem blocks_writeBuilder {g : Generator} {path : String} (hfile : g.HasFile path)
    (d : BuilderDecl) : ∃ b : BuilderBlock, IsBlockOf b d ∧
      (writeBuilder path g d).blocks.Perm (.builder b :: g.blocks) := by
  have hmake : Emitter.Yields (Block.builder <$> g.emitter.builderBlock d) fun b =>
      ∃ c, b = .builder c ∧ IsBlockOf c d :=
    Emitter.Yields.map fun t => ⟨_, rfl, g.emitter.yields_builderBlock d t⟩
  obtain ⟨b, ⟨c, rfl, hc⟩, hperm⟩ := blocks_emit (g := { g with functions := _ }) hfile hmake
  exact ⟨c, hc, hperm⟩

@[simp] theorem blocks_declare (g : Generator) (parent : Parent) (tag : String)
    (attrs : List AttributeDescriptor) (className : String) :
    (g.declare parent tag attrs className).blocks = g.blocks := by
  rcases g.declare_cases parent tag attrs className with ⟨_, _, h⟩ | ⟨_, _, h⟩ <;> rw [h] <;> rfl

@[simp] theorem functions_declare (g : Generator) (parent : Parent) (tag : String)
    (attrs : List AttributeDescriptor) (className : String) :
    (g.declare parent tag attrs className).functions = g.functions := by
  rcases g.declare_cases parent tag attrs className with ⟨_, _, h⟩ | ⟨_, _, h⟩ <;> rw [h]

/-- Building writes both forms. -/
theorem blocks_build {g : Generator} {path : String} (hfile : g.HasFile path) (parent : Parent)
    (tag : String) (d : TaskDefinition) (className : String) :
    ∃ i f : BuilderBlock, IsBlockOf i (g.immediate parent tag d className) ∧
      IsBlockOf f (g.immediate parent tag d className).toDeferred ∧
      (g.build path parent tag d className).blocks.Perm (.builder f :: .builder i :: g.blocks) := by
  obtain ⟨i, hi, hpi⟩ := blocks_writeBuilder hfile (g.immediate parent tag d className)
  have hfile' : (writeBuilder path g (g.immediate parent tag d className)).HasFile path :=
    HasFile.editFile (g := { g with functions := _ }) hfile path _
  obtain ⟨f, hf, hpf⟩ := blocks_writeBuilder hfile' (g.immediate parent tag d className).toDeferred
  rw [build_eq, blocks_declare]
  exact ⟨i, f, hi, hf, hpf.trans (hpi.cons _)⟩

/-- The name of a builder in the table of functions. -/
def functionKey (d : BuilderDecl) : String := functionScope d.parent ++ d.funcName

theorem functions_build (g : Generator) (path : String) (parent : Parent) (tag : String)
    (d : TaskDefinition) (className : String) :
    (g.build path parent tag d className).functions =
      functionKey (g.immediate parent tag d className).toDeferred ::
        functionKey (g.immediate parent tag d className) :: g.functions := by
  rw [build_eq, functions_declare]
  rfl

/-- Declaring a builder that is new on a known class succeeds. -/
theorem declare_of_new {g : Generator} {parent : Parent} {tag : String}
    (hclass : g.library.resolves parent.type = true)
    (hnew : g.library.containsFunction parent.type tag = false)
    (attrs : List AttributeDescriptor) (className : String) :
    (g.declare parent tag attrs className).errors = g.errors ∧
      g.library.Covers (g.declare parent tag attrs className).library ∧
      ∃ f : BuilderFunction, f.builder = builderName parent tag ∧ f.initReceiver = className ∧
        ∀ n k, (g.declare parent tag attrs className).library.functionAt? n k =
          if n = parent.type ∧ k = Text.lowercase tag then some f
          else g.library.functionAt? n k := by
  obtain ⟨s, hs, hcovers, hat⟩ := Structure.addFunction_of_new hclass hnew
    (builderName parent tag) g.options.importPath attrs className
  have hdeclare : g.declare parent tag attrs className = { g with library := s } := by
    rw [declare, hs]
  rw [hdeclare]
  exact ⟨rfl, hcovers, _, rfl, rfl, hat⟩

/-! ## Wrappers and containers among the blocks -/

theorem blocks_containerName (g : Generator) (id : String) :
    (g.containerName id).2.blocks = g.blocks := by
  rw [blocks, blocks, (sameBeyondNames_containerName g id).files]

theorem mem_wrappers {g : Generator} {w : WrapperBlock} :
    w ∈ g.wrappers ↔ Block.wrapper w ∈ g.blocks :=
  ⟨wrapper_mem_blocks, fun h => List.mem_filterMap.2 ⟨_, h, rfl⟩⟩

theorem mem_containers {g : Generator} {c : ContainerBlock} :
    c ∈ g.containers ↔ Block.container c ∈ g.blocks :=
  ⟨container_mem_blocks, fun h => List.mem_filterMap.2 ⟨_, h, rfl⟩⟩

/-- What a move writes: wrappers of types that were not resolved before, containers of capabilities that
had none, and builders. -/
theorem Move.writes {g g' : Generator} (hm : Move g g') {b : Block} (hb : b ∈ g'.blocks) :
    b ∈ g.blocks ∨ (∃ w, b = .wrapper w ∧ g.resolved.get? w.source = none) ∨
      (∃ c, b = .container c ∧ c.source ∉ g.containersDone) ∨ ∃ d, b = .builder d := by
  cases hm with
  | note _ _ | miss _ _ _ | define _ _ _ => exact Or.inl hb
  | nameContainer id => exact Or.inl (g.blocks_containerName id ▸ hb)
  | @openContainer id name hnew _ _ =>
    obtain ⟨c, ⟨hsource, _⟩, hperm⟩ := g.blocks_openContainer id name
    rcases List.mem_cons.1 (hperm.subset hb) with rfl | hb
    · exact Or.inr (Or.inr (Or.inl ⟨c, rfl, hsource ▸ hnew⟩))
    · exact Or.inl hb
  | @openTarget d hnew _ =>
    obtain ⟨w, ⟨hsource, _⟩, hperm⟩ := g.blocks_openTarget d
    rcases List.mem_cons.1 (hperm.subset hb) with rfl | hb
    · exact Or.inr (Or.inl ⟨w, rfl, hsource ▸ hnew⟩)
    · exact Or.inl hb
  | place _ => exact Or.inl ((g.blocks_ensureFile _ _).subset hb)
  | @build path parent tag _ t d hfile _ _ _ _ _ =>
    obtain ⟨i, f, _, _, hperm⟩ := blocks_build hfile parent tag d t.className
    rcases List.mem_cons.1 (hperm.subset hb) with rfl | hb
    · exact Or.inr (Or.inr (Or.inr ⟨f, rfl⟩))
    · rcases List.mem_cons.1 hb with rfl | hb
      · exact Or.inr (Or.inr (Or.inr ⟨i, rfl⟩))
      · exact Or.inl hb

/-! ## Builders among the blocks -/

theorem Extends.decls {g g' : Generator} (h : Extends g g') : g.decls ⊆ g'.decls :=
  List.map_subset _ (List.filterMap_subset _ h.blocks)

theorem decls_of_perm {g g' : Generator} (h : g'.blocks.Perm g.blocks) :
    g'.decls.Perm g.decls := (h.filterMap _).map _

theorem decls_of_perm_container {g g' : Generator} {c : ContainerBlock}
    (h : g'.blocks.Perm (.container c :: g.blocks)) : g'.decls.Perm g.decls :=
  (h.filterMap Block.builder?).map _

theorem decls_of_perm_wrapper {g g' : Generator} {w : WrapperBlock}
    (h : g'.blocks.Perm (.wrapper w :: g.blocks)) : g'.decls.Perm g.decls :=
  (h.filterMap Block.builder?).map _

theorem decls_build {g : Generator} {path : String} (hfile : g.HasFile path) (parent : Parent)
    (tag : String) (d : TaskDefinition) (className : String) :
    (g.build path parent tag d className).decls.Perm
      ((g.immediate parent tag d className).toDeferred :: g.immediate parent tag d className ::
        g.decls) := by
  obtain ⟨i, f, ⟨hi, _⟩, ⟨hf, _⟩, hperm⟩ := blocks_build hfile parent tag d className
  rw [← hf, ← hi]
  exact (hperm.filterMap Block.builder?).map _

theorem mem_decls_build {g : Generator} {path : String} (hfile : g.HasFile path) {parent : Parent}
    {tag : String} {d : TaskDefinition} {className : String} {b : BuilderDecl} :
    b ∈ (g.build path parent tag d className).decls ↔
      b = (g.immediate parent tag d className).toDeferred ∨ b = g.immediate parent tag d className ∨
        b ∈ g.decls := by
  rw [(decls_build hfile parent tag d className).mem_iff, List.mem_cons, List.mem_cons]

/-- **A move writes no builder, or builds one under a host, whose place in the library and whose names are
free.** -/
theorem Move.builds {g g' : Generator} (hm : Move g g') :
    (g'.decls.Perm g.decls ∧ g'.functions = g.functions) ∨
    ∃ path parent tag d className, g.HasFile path ∧ g.Hosts parent ∧
      g.library.containsFunction parent.type tag = false ∧
      (∀ b ∈ g.plan parent tag d className, functionScope parent ++ b.funcName ∉ g.functions) ∧
      g' = g.build path parent tag d className := by
  cases hm with
  | note _ _ | miss _ _ _ | define _ _ _ => exact Or.inl ⟨.refl _, rfl⟩
  | nameContainer id =>
    exact Or.inl ⟨decls_of_perm (.of_eq (g.blocks_containerName id)),
      (sameBeyondNames_containerName g id).functions⟩
  | @openContainer id name _ _ _ =>
    obtain ⟨c, _, hperm⟩ := g.blocks_openContainer id name
    exact Or.inl ⟨decls_of_perm_container hperm, rfl⟩
  | @openTarget d _ _ =>
    obtain ⟨w, _, hperm⟩ := g.blocks_openTarget d
    exact Or.inl ⟨decls_of_perm_wrapper hperm, (g.openTarget_frame d).1⟩
  | place _ => exact Or.inl ⟨decls_of_perm (g.blocks_ensureFile _ _), rfl⟩
  | build hfile hhosts _ _ hnew hfree =>
    exact Or.inr ⟨_, _, _, _, _, hfile, hhosts, hnew, hfree, rfl⟩

end TaskBuilders.Generator
