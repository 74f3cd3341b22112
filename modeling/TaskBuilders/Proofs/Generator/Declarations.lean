import Mathlib.Data.List.Perm.Basic
import TaskBuilders.Proofs.Generator.Agreement
import TaskBuilders.Proofs.Generator.Resolution
import TaskBuilders.Proofs.Naming.Shape

/-!
# What the package declares

Wrappers, containers and builders add identifiers to one package. The namer keeps types and containers
apart, and the table of functions keeps builders apart; nothing compares a name of one table with a
name of the other, or with the constructor and the attribute record that come with a type.

* `Generator.packageIdents` — all identifiers that the written blocks add to the package
* `Shown` — what is written follows the tables of the run
* `constructor_ne_typeLike` — a constructor is never called like a type, a record or a container
* `packageIdents_nodup_iff` — when all identifiers are distinct
* `packageIdents_attrs_clash` — they are not always: a type can be called like an attribute record
-/

namespace TaskBuilders

open Naming Source

/-- The identifiers that a block adds to its package. -/
def Source.Block.packageIdents : Block → List String
  | .wrapper w => w.packageIdents
  | .container c => [c.ident]
  | .builder b => b.packageIdents
  | .text _ => []

namespace Generator

variable {g g' : Generator}

/-! ## Identifiers by kind -/

/-- All identifiers that the written blocks add to the package. -/
def packageIdents (g : Generator) : List String := g.blocks.flatMap Block.packageIdents

/-- The wrapper types. -/
def types (g : Generator) : List String := g.wrappers.map (·.ident)

/-- The constructors of wrappers. -/
def constructors (g : Generator) : List String := g.wrappers.map (·.constructor)

/-- The attribute records, of the wrappers that have attributes. -/
def records (g : Generator) : List String :=
  (g.wrappers.filter fun w => !w.fields.isEmpty).map (·.record)

/-- The container interfaces. -/
def interfaces (g : Generator) : List String := g.containers.map (·.ident)

/-- The builders that are functions of the package. -/
def packageFunctions (g : Generator) : List String :=
  (g.builders.filter (·.receiver.isNone)).map (·.name)

theorem count_wrapper_packageIdents (w : WrapperBlock) (x : String) :
    w.packageIdents.count x = [w.ident].count x + [w.constructor].count x +
      (([w].filter fun w => !w.fields.isEmpty).map (·.record)).count x := by
  unfold WrapperBlock.packageIdents
  cases h : w.fields.isEmpty with
  | true => simp [h, List.count_cons]; omega
  | false => simp [h, List.count_cons]; omega

/-- The identifiers of the package are those of all kinds. -/
theorem perm_packageIdents (g : Generator) : g.packageIdents.Perm
    (g.types ++ (g.constructors ++ (g.records ++ (g.interfaces ++ g.packageFunctions)))) := by
  rw [List.perm_iff_count]
  intro x
  unfold packageIdents types constructors records interfaces packageFunctions wrappers containers
    builders
  simp only [List.count_append]
  induction g.blocks with
  | nil => rfl
  | cons b bs ih =>
    rw [List.flatMap_cons, List.count_append, ih]
    cases b with
    | wrapper w =>
      rw [show Block.packageIdents (.wrapper w) = w.packageIdents from rfl,
        count_wrapper_packageIdents]
      simp only [List.filterMap_cons, Block.wrapper?, Block.container?, Block.builder?,
        List.map_cons, List.count_cons, List.filter_cons, List.filter_nil, List.count_nil]
      cases w.fields.isEmpty with
      | true => simp; omega
      | false => simp [List.count_cons]; omega
    | container c =>
      simp only [List.filterMap_cons, Block.wrapper?, Block.container?, Block.builder?,
        Block.packageIdents, List.map_cons, List.count_cons, List.count_nil]
      omega
    | builder b =>
      simp only [List.filterMap_cons, Block.wrapper?, Block.container?, Block.builder?,
        Block.packageIdents, BuilderBlock.packageIdents, List.filter_cons]
      cases b.receiver.isNone with
      | true => simp [List.count_cons]; omega
      | false => simp
    | text s =>
      simp only [List.filterMap_cons, Block.wrapper?, Block.container?, Block.builder?,
        Block.packageIdents, List.count_nil]
      omega

/-! ## What is written follows the tables -/

/-- A wrapper is called like the class of its type, a container like the container of its capability,
and only the builders of nested elements are methods. -/
def Shows (g : Generator) : Block → Prop
  | .wrapper w => ∃ t, g.resolved.get? w.source = some t ∧ w.ident = identOf t.className
  | .container c => c.source ∈ g.containersDone ∧
      ∃ name, g.containerNames.get? c.source = some name ∧ c.ident = identOf name
  | .builder b => b.receiver.isNone = true ↔ b.decl.parent.kind ≠ .owner
  | .text _ => True

theorem Shows.extend {b : Block} (h : g.Shows b) (he : Extends g g') : g'.Shows b := by
  cases b with
  | wrapper w =>
    obtain ⟨t, ht, hident⟩ := h
    obtain ⟨t', ht', hclass, _⟩ := he.resolved _ _ ht
    exact ⟨t', ht', hclass ▸ hident⟩
  | container c =>
    obtain ⟨hdone, name, hname, hident⟩ := h
    exact ⟨he.containersDone _ hdone, name, he.containerNames _ _ hname, hident⟩
  | builder b => exact h
  | text s => trivial

/-- What is written follows the tables of the run, and each container is written once. -/
structure Shown (g : Generator) : Prop where
  importPath : g.options.importPath ≠ ""
  typical : g.namer.Typical
  blocks : ∀ b ∈ g.blocks, g.Shows b
  sources : (g.containers.map (·.source)).Nodup

/-- Blocks that follow the tables are added. -/
theorem Shown.write (h : Shown g) (he : Extends g g') (htypical : g'.namer.Typical)
    (bs : List Block) (hperm : g'.blocks.Perm (bs ++ g.blocks)) (hbs : ∀ b ∈ bs, g'.Shows b)
    (hsources : (g'.containers.map (·.source)).Nodup) : Shown g' where
  importPath := he.options ▸ h.importPath
  typical := htypical
  blocks := by
    intro b hb
    rcases List.mem_append.1 (hperm.mem_iff.1 hb) with hb | hb
    · exact hbs b hb
    · exact (h.blocks b hb).extend he
  sources := hsources

/-- Nothing is added to the containers. -/
theorem sources_of_perm (bs : List Block) (hperm : g'.blocks.Perm (bs ++ g.blocks))
    (hbs : bs.filterMap Block.container? = []) (h : (g.containers.map (·.source)).Nodup) :
    (g'.containers.map (·.source)).Nodup := by
  have hc := hperm.filterMap Block.container?
  rw [List.filterMap_append, hbs, List.nil_append] at hc
  exact (hc.map _).nodup_iff.2 h

/-- A move that writes nothing. -/
theorem Shown.keep (h : Shown g) (hm : Move g g') (htypical : g'.namer.Typical)
    (hperm : g'.blocks.Perm g.blocks) : Shown g' :=
  h.write hm.extends htypical [] hperm (fun _ hb => absurd hb List.not_mem_nil)
    (sources_of_perm [] hperm rfl h.sources)

theorem typical_containerName (h : g.namer.Typical) (id : String) :
    (g.containerName id).2.namer.Typical := by
  cases hid : g.containerNames.get? id with
  | some name => rw [containerName_of_some hid]; exact h
  | none => rw [containerName_of_none hid]; exact h.containerName id

theorem typical_nameTarget (h : g.namer.Typical) (d : TaskDefinition) :
    (g.nameTarget d).2.2.namer.Typical :=
  nameTarget_keeps (I := fun g => g.namer.Typical) (h.resultName d.id)
    fun _ id hg => typical_containerName hg id

theorem typical_openTarget (h : g.namer.Typical) (d : TaskDefinition) :
    (g.openTarget d).2.namer.Typical := by
  have hnamer : ∀ (g : Generator) name containers,
      (g.enterTarget d name containers).2.namer = g.namer := fun _ _ _ => rfl
  rw [openTarget_eq, hnamer]
  exact typical_nameTarget h d

/-- Every move writes what follows the tables. -/
theorem Shown.move (h : Shown g) (hm : Move g g') : Shown g' := by
  have he := hm.extends
  cases hm with
  | note memory log => exact h.keep (.note g memory log) h.typical (.refl _)
  | miss memory log hno => exact h.keep (.miss memory log hno) h.typical (.refl _)
  | nameContainer id =>
    exact h.keep (.nameContainer g id) (typical_containerName h.typical id)
      (.of_eq (g.blocks_containerName id))
  | @openContainer id name hnew hneeded hnamed =>
    obtain ⟨c, ⟨hsource, hident⟩, hperm⟩ := g.blocks_openContainer id name
    have hcontainers : (g.openContainer id name).containers.Perm (c :: g.containers) :=
      hperm.filterMap Block.container?
    refine h.write he h.typical [.container c] hperm ?_ ?_
    · intro b hb
      obtain rfl := List.mem_singleton.1 hb
      refine ⟨?_, name, ?_, hident⟩
      · rw [hsource]; exact List.mem_cons_self
      · rw [hsource]; exact hnamed
    · -- a container that was written is done
      rw [(hcontainers.map _).nodup_iff, List.map_cons, List.nodup_cons, hsource]
      refine ⟨fun hmem => hnew ?_, h.sources⟩
      obtain ⟨c', hc', rfl⟩ := List.mem_map.1 hmem
      exact (h.blocks _ (container_mem_blocks hc')).1
  | @openTarget d hnew hfound =>
    obtain ⟨w, ⟨hsource, hident, _⟩, hperm⟩ := g.blocks_openTarget d
    obtain ⟨path, hresolved⟩ := g.resolved_openTarget d
    have hentry : (g.openTarget d).2.resolved.get? w.source =
        some ⟨d.id, some d, (g.namer.resultName d.id).1, some path⟩ := by
      rw [hsource, hresolved, Dict.get?_insert_self]
    refine h.write he (typical_openTarget h.typical d) [.wrapper w] hperm ?_
      (sources_of_perm [.wrapper w] hperm rfl h.sources)
    intro b hb
    obtain rfl := List.mem_singleton.1 hb
    exact ⟨_, hentry, hident⟩
  | define hresolved hundefined hfound =>
    exact h.keep (.define hresolved hundefined hfound) h.typical (.refl _)
  | place hresolved => exact h.keep (.place hresolved) h.typical (g.blocks_ensureFile _ _)
  | @build path parent tag id t d hfile hhosts hresolved hdefined hnew hfree =>
    obtain ⟨i, f, ⟨hi, hir⟩, ⟨hf, hfr⟩, hperm⟩ := blocks_build hfile parent tag d t.className
    have hs := sameBeyondBuilders_build g path parent tag d t.className
    refine h.write he (hs.namer ▸ h.typical) [.builder f, .builder i] hperm ?_
      (sources_of_perm [.builder f, .builder i] hperm rfl h.sources)
    simp only [List.forall_mem_cons, List.not_mem_nil, false_implies, implies_true, and_true]
    exact ⟨by rw [Shows, hf]; exact hfr, by rw [Shows, hi]; exact hir⟩

theorem Shown.fresh {p : Provider} (h : Fresh p g) : Shown g := by
  have hblocks : g.blocks = [] := by
    rw [Generator.blocks, h.files]
    rfl
  refine ⟨h.importPath, ?_, ?_, ?_⟩
  · rw [h.namer]
    intro key ident hk
    cases hk
  · rw [hblocks]
    exact fun _ hb => absurd hb List.not_mem_nil
  · rw [containers, hblocks]
    exact .nil

/-! ## Kinds of names that never meet -/

/-- A type, record or container: behind the marker and without dots, or behind the import path. -/
def TypeLike (package name : String) : Prop :=
  (QualifiedName.Whole name ∧ ∃ rest, name = marker ++ rest) ∨ ∃ rest, name = package ++ "." ++ rest

theorem typeLike_identOf {package name : String} (hp : package ≠ "") (h : TypicalName name) :
    TypeLike package (identOf (qualify package name)) := by
  rcases identOf_qualify hp h.1 with ⟨hwhole, hident⟩ | ⟨_, hident⟩
  · rw [hident]
    exact Or.inl ⟨hwhole, h.2⟩
  · exact Or.inr ⟨name, hident⟩

theorem TypeLike.record {package name : String} (h : TypeLike package name) :
    TypeLike package (name ++ "Attrs") := by
  have hattrs : QualifiedName.Whole "Attrs" := by decide
  rcases h with ⟨hwhole, rest, rfl⟩ | ⟨rest, rfl⟩
  · exact Or.inl ⟨hwhole.append hattrs, rest ++ "Attrs", String.append_assoc ..⟩
  · exact Or.inr ⟨rest ++ "Attrs", String.append_assoc ..⟩

theorem takeWhile_before_dot (cs rest : List Char) :
    (cs ++ '.' :: rest).takeWhile (· != '.') = cs.takeWhile (· != '.') := by
  induction cs with
  | nil => rfl
  | cons c cs ih =>
    rw [List.cons_append, List.takeWhile_cons, List.takeWhile_cons, ih]

/-- A text in front of the import path moves its first dot. -/
theorem new_append_ne (package a b : String) :
    "New" ++ (package ++ "." ++ a) ≠ package ++ "." ++ b := by
  intro h
  have hchars : ['N', 'e', 'w'] ++ (package.toList ++ '.' :: a.toList) =
      package.toList ++ '.' :: b.toList := by
    have hlist := congrArg String.toList h
    simp only [String.toList_append, List.append_assoc] at hlist
    exact hlist
  -- up to the first dot, the left side is longer by three
  have hbefore := congrArg (List.length ∘ List.takeWhile (· != '.')) hchars
  simp only [Function.comp_apply] at hbefore
  rw [takeWhile_before_dot, List.takeWhile_append_of_pos (by simp), takeWhile_before_dot,
    List.length_append] at hbefore
  simp at hbefore

/-- **A constructor is never called like a type, a record or a container.** -/
theorem constructor_ne_typeLike {package a b : String} (ha : TypeLike package a)
    (hb : TypeLike package b) : "New" ++ a ≠ b := by
  have hnew : QualifiedName.Whole "New" := by decide
  rintro rfl
  rcases ha with ⟨hwhole, resta, rfl⟩ | ⟨resta, rfl⟩
  · rcases hb with ⟨_, restb, hb⟩ | ⟨restb, hb⟩
    · have hhead := congrArg (fun s => s.toList.head?) hb
      simp [marker] at hhead
    · exact not_whole_append_dot package restb (hb ▸ hnew.append hwhole)
  · rcases hb with ⟨hwhole, _⟩ | ⟨restb, hb⟩
    · rw [← String.append_assoc, ← String.append_assoc] at hwhole
      exact not_whole_append_dot ("New" ++ package) resta hwhole
    · exact new_append_ne package resta restb hb

/-! ## Names of written blocks -/

/-- Everything that the identifiers of the package depend on. -/
structure Declared (g : Generator) : Prop where
  shown : Shown g
  named : Named g
  oneWrapperEach : OneWrapperEach g
  registered : Registered g
  agrees : Agrees g

namespace Declared

theorem move (h : Declared g) (hm : Move g g') : Declared g' :=
  ⟨h.shown.move hm, h.named.move hm, h.oneWrapperEach.move hm, h.registered.move hm,
    h.agrees.move hm h.registered⟩

theorem fresh {p : Provider} (h : Fresh p g) : Declared g :=
  ⟨.fresh h, .fresh h, .fresh h, .fresh h, .fresh h⟩

/-- A wrapper is called by the name of its type. -/
theorem wrapper (h : Declared g) {w : WrapperBlock} (hw : w ∈ g.wrappers) :
    ∃ name, g.namer.names.get? w.source = some name ∧ TypicalName name ∧
      w.ident = identOf (qualify g.options.importPath name) := by
  obtain ⟨t, ht, hident⟩ := h.shown.blocks _ (wrapper_mem_blocks hw)
  obtain ⟨name, hname, hclass⟩ := h.named.types _ t ht
  exact ⟨name, hname, h.shown.typical _ name hname, hclass ▸ hident⟩

/-- A container is called by the name of its capability's key. -/
theorem container (h : Declared g) {c : ContainerBlock} (hc : c ∈ g.containers) :
    ∃ name, g.namer.names.get? (containerKey c.source) = some name ∧ TypicalName name ∧
      c.ident = identOf (qualify g.options.importPath name) := by
  obtain ⟨_, qualified, hq, hident⟩ := h.shown.blocks _ (container_mem_blocks hc)
  obtain ⟨name, hname, rfl⟩ := h.named.containers _ qualified hq
  exact ⟨name, hname, h.shown.typical _ name hname, hident⟩

/-- A builder is a function of the package exactly when it hangs off no wrapper. -/
theorem builder (h : Declared g) {b : BuilderBlock} (hb : b ∈ g.builders) :
    b.receiver.isNone = true ↔ b.decl.parent.kind ≠ .owner :=
  h.shown.blocks _ (builder_mem_blocks hb)

/-- Names given to two keys lead to one identifier only when the keys are the same. -/
theorem eq_of_ident (h : Declared g) {k l a b : String} (hk : g.namer.names.get? k = some a)
    (hl : g.namer.names.get? l = some b)
    (he : identOf (qualify g.options.importPath a) = identOf (qualify g.options.importPath b)) :
    k = l := by
  have hab := identOf_qualify_inj h.shown.importPath (h.shown.typical k a hk).1
    (h.shown.typical l b hl).1 he
  exact h.named.owned.eq_of_names hk (hab ▸ hl)

/-! ## Identifiers of one kind -/

theorem nodup_types (h : Declared g) : g.types.Nodup := by
  have hsources : (g.wrappers.map (·.source)).Nodup :=
    h.oneWrapperEach.nodup_iff.2 g.resolved.nodup_keys
  refine List.Nodup.map_on (fun w hw w' hw' he => ?_) hsources.of_map
  obtain ⟨a, ha, _, hwa⟩ := h.wrapper hw
  obtain ⟨b, hb, _, hwb⟩ := h.wrapper hw'
  exact List.inj_on_of_nodup_map hsources hw hw' (h.eq_of_ident ha hb (hwa ▸ hwb ▸ he))

theorem nodup_constructors (h : Declared g) : g.constructors.Nodup := by
  have hmap : g.constructors = g.types.map ("New" ++ ·) := by
    rw [types, List.map_map]
    rfl
  rw [hmap]
  exact h.nodup_types.map fun _ _ he => (String.append_right_inj _).1 he

theorem nodup_records (h : Declared g) : g.records.Nodup := by
  have hall : (g.wrappers.map (·.record)).Nodup := by
    have hmap : g.wrappers.map (·.record) = g.types.map (· ++ "Attrs") := by
      rw [types, List.map_map]
      rfl
    rw [hmap]
    exact h.nodup_types.map fun _ _ he => (String.append_left_inj _).1 he
  exact hall.sublist (List.filter_sublist.map _)

theorem nodup_interfaces (h : Declared g) : g.interfaces.Nodup := by
  refine List.Nodup.map_on (fun c hc c' hc' he => ?_) h.shown.sources.of_map
  obtain ⟨a, ha, _, hca⟩ := h.container hc
  obtain ⟨b, hb, _, hcb⟩ := h.container hc'
  have hkeys := h.eq_of_ident ha hb (hca ▸ hcb ▸ he)
  exact List.inj_on_of_nodup_map h.shown.sources hc hc' ((String.append_right_inj _).1 hkeys)

theorem nodup_packageFunctions (h : Declared g) : g.packageFunctions.Nodup := by
  have hscoped : (g.builders.map fun b => (scope b.decl, b.decl.funcName)).Nodup := by
    have hall := h.agrees.nodup_scoped
    rwa [decls, List.map_map] at hall
  -- in the package all scopes are the same, so that names alone tell builders apart
  refine List.Nodup.of_map (fun x => ((none : Option String), x)) ?_
  rw [packageFunctions, List.map_map]
  have hcongr : ((g.builders.filter (·.receiver.isNone)).map
      ((fun x => ((none : Option String), x)) ∘ fun b => b.name)) =
      (g.builders.filter (·.receiver.isNone)).map fun b => (scope b.decl, b.decl.funcName) := by
    refine List.map_congr_left fun b hb => ?_
    obtain ⟨hmem, hnone⟩ := List.mem_filter.1 hb
    have hscope : scope b.decl = none := if_neg ((h.builder hmem).1 hnone)
    rw [hscope]
    rfl
  rw [hcongr]
  exact hscoped.sublist (List.filter_sublist.map _)

/-! ## Identifiers of different kinds -/

theorem typeLike_types (h : Declared g) {x : String} (hx : x ∈ g.types) :
    TypeLike g.options.importPath x := by
  obtain ⟨w, hw, rfl⟩ := List.mem_map.1 hx
  obtain ⟨name, _, htypical, hident⟩ := h.wrapper hw
  rw [hident]
  exact typeLike_identOf h.shown.importPath htypical

theorem typeLike_records (h : Declared g) {x : String} (hx : x ∈ g.records) :
    TypeLike g.options.importPath x := by
  obtain ⟨w, hw, rfl⟩ := List.mem_map.1 hx
  exact (h.typeLike_types (List.mem_map.2 ⟨w, (List.mem_filter.1 hw).1, rfl⟩)).record

theorem typeLike_interfaces (h : Declared g) {x : String} (hx : x ∈ g.interfaces) :
    TypeLike g.options.importPath x := by
  obtain ⟨c, hc, rfl⟩ := List.mem_map.1 hx
  obtain ⟨name, _, htypical, hident⟩ := h.container hc
  rw [hident]
  exact typeLike_identOf h.shown.importPath htypical

/-- A constructor is called like no type, no record and no container. -/
theorem constructor_ne (h : Declared g) {x y : String} (hx : x ∈ g.constructors)
    (hy : TypeLike g.options.importPath y) : x ≠ y := by
  obtain ⟨w, hw, rfl⟩ := List.mem_map.1 hx
  exact constructor_ne_typeLike (h.typeLike_types (List.mem_map.2 ⟨w, hw, rfl⟩)) hy

/-- A type is called like a container exactly when it has the container's key for an identifier. -/
theorem type_eq_interface_iff (h : Declared g) {w : WrapperBlock} {c : ContainerBlock}
    (hw : w ∈ g.wrappers) (hc : c ∈ g.containers) :
    w.ident = c.ident ↔ w.source = containerKey c.source := by
  obtain ⟨a, ha, _, hwa⟩ := h.wrapper hw
  obtain ⟨b, hb, _, hcb⟩ := h.container hc
  constructor
  · intro he
    exact h.eq_of_ident ha hb (hwa ▸ hcb ▸ he)
  · intro he
    rw [he, hb, Option.some.injEq] at ha
    rw [hwa, hcb, ha]

end Declared

/-! ## The package -/

/-- The identifiers of different kinds are apart exactly when no record is called like a type or a
container, no type has the key of a container for an identifier, and no function is called like
anything else. -/
theorem Declared.nodup_iff (h : Declared g) : g.packageIdents.Nodup ↔
    (∀ x ∈ g.records, x ∉ g.types ∧ x ∉ g.interfaces) ∧
    (∀ w ∈ g.wrappers, ∀ c ∈ g.containers, w.source ≠ containerKey c.source) ∧
    (∀ x ∈ g.packageFunctions,
      x ∉ g.types ∧ x ∉ g.constructors ∧ x ∉ g.records ∧ x ∉ g.interfaces) := by
  rw [g.perm_packageIdents.nodup_iff]
  simp only [List.nodup_append, List.mem_append]
  constructor
  · rintro ⟨_, ⟨_, ⟨_, ⟨_, _, hif⟩, hr⟩, hc⟩, ht⟩
    refine ⟨fun x hx => ⟨fun hxt => ?_, fun hxi => ?_⟩, fun w hw c hc' he => ?_,
      fun x hx => ⟨fun hxt => ?_, fun hxc => ?_, fun hxr => ?_, fun hxi => ?_⟩⟩
    · exact ht x hxt x (Or.inr (Or.inl hx)) rfl
    · exact hr x hx x (Or.inl hxi) rfl
    · have hident := (h.type_eq_interface_iff hw hc').2 he
      exact ht w.ident (List.mem_map.2 ⟨w, hw, rfl⟩) c.ident
        (Or.inr (Or.inr (Or.inl (List.mem_map.2 ⟨c, hc', rfl⟩)))) hident
    · exact ht x hxt x (Or.inr (Or.inr (Or.inr hx))) rfl
    · exact hc x hxc x (Or.inr (Or.inr hx)) rfl
    · exact hr x hxr x (Or.inr hx) rfl
    · exact hif x hxi x hx rfl
  · rintro ⟨hrecords, hkeys, hfunctions⟩
    refine ⟨h.nodup_types, ⟨h.nodup_constructors, ⟨h.nodup_records,
      ⟨h.nodup_interfaces, h.nodup_packageFunctions, ?_⟩, ?_⟩, ?_⟩, ?_⟩
    · rintro x hx y hy rfl
      exact (hfunctions x hy).2.2.2 hx
    · rintro x hx y (hy | hy) rfl
      · exact (hrecords x hx).2 hy
      · exact (hfunctions x hy).2.2.1 hx
    · rintro x hx y (hy | hy | hy) rfl
      · exact h.constructor_ne hx (h.typeLike_records hy) rfl
      · exact h.constructor_ne hx (h.typeLike_interfaces hy) rfl
      · exact (hfunctions x hy).2.1 hx
    · rintro x hx y (hy | hy | hy | hy) rfl
      · exact h.constructor_ne hy (h.typeLike_types hx) rfl
      · exact (hrecords x hy).1 hx
      · obtain ⟨w, hw, rfl⟩ := List.mem_map.1 hx
        obtain ⟨c, hc, he⟩ := List.mem_map.1 hy
        exact hkeys w hw c hc ((h.type_eq_interface_iff hw hc).1 he.symm)
      · exact (hfunctions x hy).1 hx

/-- **When all identifiers of the package are distinct**, after any requests to a fresh generator: no
record is called like a type or a container, no type has the key of a container for an identifier, and
no builder of the package is called like a type, a constructor, a record or a container. -/
theorem packageIdents_nodup_iff {p : Provider} {o : GeneratorOptions} {g₀ : Generator}
    (hp : p.Faithful) (hnew : Generator.new p o = .ok g₀) (rs : List Request) :
    let g := g₀.serveAll rs
    g.packageIdents.Nodup ↔
      (∀ x ∈ g.records, x ∉ g.types ∧ x ∉ g.interfaces) ∧
      (∀ w ∈ g.wrappers, ∀ c ∈ g.containers, w.source ≠ containerKey c.source) ∧
      (∀ x ∈ g.packageFunctions,
        x ∉ g.types ∧ x ∉ g.constructors ∧ x ∉ g.records ∧ x ∉ g.interfaces) := by
  have hdeclared := keeps_serveAll (I := Declared) hp hnew (fun _ => .fresh)
    (fun _ _ hm h => h.move hm) rs
  exact hdeclared.nodup_iff

/-- The record of the first type is called like the second type. -/
def recordTwins : List TaskDefinition :=
  [{ id := "x.Foo", executable := true, attributes := [⟨"name", "string"⟩] },
   { id := "x.FooAttrs" }]

theorem packageIdents_nodup_iff_recordTwins :
    (Provider.static recordTwins).Faithful ∧
    ∃ g₀, Generator.new (Provider.static recordTwins)
        { importPath := "m/out", runtimePath := "m/rt" } = .ok g₀ ∧
      (g₀.serveAll [.tagAlias ⟨"foo", "x.Foo", true⟩]).packageIdents.Nodup := by
  have hp := Provider.faithful_static recordTwins
  refine ⟨hp, _, rfl, ?_⟩
  have hiff := packageIdents_nodup_iff (o := { importPath := "m/out", runtimePath := "m/rt" }) hp rfl
    [.tagAlias ⟨"foo", "x.Foo", true⟩]
  exact hiff.2 (by decide +kernel)

/-- The identifiers are not always distinct. -/
theorem packageIdents_attrs_clash :
    ∃ g₀, Generator.new (Provider.static recordTwins)
        { importPath := "m/out", runtimePath := "m/rt" } = .ok g₀ ∧
      ¬ (g₀.serveAll [.resolve "x.Foo", .resolve "x.FooAttrs"]).packageIdents.Nodup := by
  refine ⟨_, rfl, ?_⟩
  decide +kernel

end Generator

end TaskBuilders
