import TaskBuilders.Proofs.Generator.Account

/-!
# Referential integrity of the library

The classes of a library refer to each other by name: a wrapper to the containers that it satisfies, and a
builder to the type that it makes. The classes are also tied to what is written: a container has one
interface, and a wrapper has a marker method for each container that it satisfies.

* `OneInterfaceEach` — each container that was written has one interface
* `Arranged` — which blocks a file holds, and which markers a wrapper has
* `Received` — every builder makes a resolved type
* `Intact` — what refers to a class refers to one that is there, and what is written belongs to a class
* `library_intact` — the library is intact after every sequence of requests
-/

namespace TaskBuilders

open Naming Source

/-- What is found does not depend on the order, if there is only one to be found. -/
theorem find?_of_perm {α : Type} {p : α → Bool} {l l' : List α} (hperm : l'.Perm l)
    (hunique : ∀ a ∈ l, ∀ b ∈ l, p a = true → p b = true → a = b) : l'.find? p = l.find? p := by
  cases h : l.find? p with
  | none =>
    rw [List.find?_eq_none] at h ⊢
    exact fun a ha => h a (hperm.subset ha)
  | some a =>
    have ha := List.mem_of_find?_eq_some h
    have hp := List.find?_some h
    cases h' : l'.find? p with
    | none => exact absurd hp (List.find?_eq_none.1 h' a (hperm.symm.subset ha))
    | some b =>
      have hb := hperm.subset (List.mem_of_find?_eq_some h')
      rw [hunique b hb a ha (List.find?_some h') hp]

namespace Generator

variable {g g' : Generator}

/-! ## Interfaces -/

/-- The containers that were written are those that are done, each once. -/
def OneInterfaceEach (g : Generator) : Prop := (g.containers.map (·.source)).Perm g.containersDone

theorem OneInterfaceEach.of_same (h : OneInterfaceEach g) (hcontainers : g'.containers.Perm g.containers)
    (hdone : g'.containersDone = g.containersDone) : OneInterfaceEach g' := by
  rw [OneInterfaceEach, hdone]
  exact (hcontainers.map _).trans h

theorem OneInterfaceEach.move (h : OneInterfaceEach g) (hm : Move g g') : OneInterfaceEach g' := by
  cases hm with
  | note memory log => exact h
  | miss memory log _ => exact h
  | nameContainer id =>
    have hs := sameBeyondNames_containerName g id
    rw [OneInterfaceEach, containers, blocks, hs.files, hs.containersDone]
    exact h
  | @openContainer id name _ _ _ =>
    obtain ⟨c, ⟨hsource, _⟩, hperm⟩ := g.blocks_openContainer id name
    have hcontainers : ((g.openContainer id name).containers.map (·.source)).Perm
        (c.source :: g.containers.map (·.source)) := (hperm.filterMap Block.container?).map _
    rw [hsource] at hcontainers
    exact hcontainers.trans (h.cons id)
  | @openTarget d _ _ =>
    obtain ⟨w, _, hperm⟩ := g.blocks_openTarget d
    obtain ⟨_, _, _, hdone⟩ := g.openTarget_frame d
    exact h.of_same (hperm.filterMap Block.container?) hdone
  | define _ _ _ => exact h
  | place _ => exact h.of_same ((g.blocks_ensureFile _ _).filterMap _) rfl
  | @build path parent tag _ t d hfile _ _ _ _ _ =>
    obtain ⟨i, f, _, _, hperm⟩ := blocks_build hfile parent tag d t.className
    have hs := sameBeyondBuilders_build g path parent tag d t.className
    exact h.of_same (hperm.filterMap Block.container?) hs.containersDone

theorem OneInterfaceEach.fresh {p : Provider} (h : Fresh p g) : OneInterfaceEach g := by
  rw [OneInterfaceEach, containers, blocks, h.files, h.containersDone]
  exact .nil

/-! ## Blocks of one file -/

/-- A block stands in the file at a path. -/
def StandsIn (g : Generator) (path : String) (b : Block) : Prop :=
  ∃ f, g.files.get? path = some f ∧ b ∈ f.blocks

theorem mem_blocks_iff {b : Block} : b ∈ g.blocks ↔ ∃ path, g.StandsIn path b := by
  rw [blocks, List.mem_flatMap]
  constructor
  · rintro ⟨f, hf, hb⟩
    obtain ⟨path, hpath⟩ := (Dict.mem_values_iff _ _).1 hf
    exact ⟨path, f, hpath, hb⟩
  · rintro ⟨path, f, hf, hb⟩
    exact ⟨f, (Dict.mem_values_iff _ _).2 ⟨path, hf⟩, hb⟩

/-- A new file has no blocks. -/
theorem standsIn_ensureFile {path path' source : String} {b : Block}
    (h : (g.ensureFile path' source).StandsIn path b) : g.StandsIn path b := by
  obtain ⟨f, hf, hb⟩ := h
  have hf : (g.files.insertNew path' _).get? path = some f := hf
  rw [Dict.get?_insertNew] at hf
  by_cases hp : path = path'
  · rw [if_pos hp, Option.some.injEq] at hf
    cases hold : g.files.get? path' with
    | none =>
      rw [hold, Option.getD_none] at hf
      rw [← hf] at hb
      cases hb
    | some f' =>
      rw [hold, Option.getD_some] at hf
      exact ⟨f, by rw [hp, hold, hf], hb⟩
  · rw [if_neg hp] at hf
    exact ⟨f, hf, hb⟩

/-- Writing to a file adds a block there. -/
theorem standsIn_emit {path path' : String} {b : Block} {make : StateM ImportTable Block}
    {P : Block → Prop} (hmake : Emitter.Yields make P)
    (h : (g.editFile path' (·.emit make)).StandsIn path b) :
    g.StandsIn path b ∨ path = path' ∧ P b := by
  obtain ⟨f, hf, hb⟩ := h
  have hf : (g.files.modify path' _).get? path = some f := hf
  rw [Dict.get?_modify] at hf
  by_cases hp : path = path'
  · rw [if_pos hp] at hf
    obtain ⟨f', hf', rfl⟩ := Option.map_eq_some_iff.1 hf
    rcases List.mem_append.1 hb with hb | hb
    · exact Or.inl ⟨f', by rw [hp, hf'], hb⟩
    · obtain rfl := List.mem_singleton.1 hb
      exact Or.inr ⟨hp, hmake f'.imports⟩
  · rw [if_neg hp] at hf
    exact Or.inl ⟨f, hf, hb⟩

/-! ## What files hold -/

/-- A wrapper has the markers of the containers that its type nests, and interfaces stand in the file of
containers. -/
def Suits (g : Generator) (path : String) : Block → Prop
  | .wrapper w => ∃ t d names, g.resolved.get? w.source = some t ∧ t.definition = some d ∧
      g.NamesContainers d names ∧ w.markers = names.map identOf
  | .container _ => path = g.filePath containersFile
  | .builder _ => True
  | .text _ => True

theorem Suits.extend {path : String} {b : Block} (h : g.Suits path b) (he : Extends g g') :
    g'.Suits path b := by
  cases b with
  | wrapper w =>
    obtain ⟨t, d, names, ht, hd, hnames, hmarkers⟩ := h
    obtain ⟨t', ht', _, hdefinition⟩ := he.resolved _ _ ht
    exact ⟨t', d, names, ht', hdefinition d hd, hnames.extend he, hmarkers⟩
  | container c =>
    rw [Suits, filePath, he.options]
    exact h
  | builder b => trivial
  | text s => trivial

/-- Every block suits its file. -/
def Arranged (g : Generator) : Prop := ∀ path b, g.StandsIn path b → g.Suits path b

/-- Blocks that suit their files are added. -/
theorem Arranged.write (h : Arranged g) (he : Extends g g')
    (hadd : ∀ path b, g'.StandsIn path b → g.StandsIn path b ∨ g'.Suits path b) : Arranged g' := by
  intro path b hb
  rcases hadd path b hb with hb | hb
  · exact (h path b hb).extend he
  · exact hb

theorem Arranged.of_files (h : Arranged g) (he : Extends g g') (hfiles : g'.files = g.files) :
    Arranged g' := by
  refine h.write he fun path b hb => Or.inl ?_
  rw [StandsIn, hfiles] at hb
  exact hb

theorem standsIn_openContainer {path id name : String} {b : Block}
    (h : (g.openContainer id name).StandsIn path b) :
    g.StandsIn path b ∨ path = g.filePath containersFile ∧ ∃ c, b = .container c := by
  have hmake : Emitter.Yields (Block.container <$> g.emitter.containerBlock name id) fun b =>
      ∃ c, b = .container c := Emitter.Yields.map fun _ => ⟨_, rfl⟩
  exact (standsIn_emit hmake h).imp_left standsIn_ensureFile

theorem standsIn_enterTarget {path name : String} {d : TaskDefinition} {names : List String} {b : Block}
    (h : (g.enterTarget d name names).2.StandsIn path b) : g.StandsIn path b ∨
      ∃ w : WrapperBlock, b = .wrapper w ∧ w.source = d.id ∧ w.markers = names.map identOf := by
  have hmake : ∀ wrapper : Emitter.Wrapper,
      Emitter.Yields (Block.wrapper <$> g.emitter.wrapperBlock wrapper) fun b =>
        ∃ w : WrapperBlock, b = .wrapper w ∧ w.source = wrapper.source ∧
          w.markers = wrapper.containers.map identOf := by
    intro wrapper
    refine Emitter.Yields.map fun t => ?_
    obtain ⟨hsource, _, _, hmarkers⟩ := g.emitter.yields_wrapperBlock wrapper t
    exact ⟨_, rfl, hsource, hmarkers⟩
  rcases standsIn_emit (hmake _) h with hb | ⟨_, hb⟩
  · exact Or.inl (standsIn_ensureFile hb)
  · exact Or.inr hb

theorem standsIn_openTarget {path : String} {d : TaskDefinition} {b : Block}
    (h : (g.openTarget d).2.StandsIn path b) : g.StandsIn path b ∨
      ∃ w : WrapperBlock, b = .wrapper w ∧ w.source = d.id ∧
        w.markers = (g.nameTarget d).2.1.map identOf := by
  rw [openTarget_eq] at h
  refine (standsIn_enterTarget h).imp_left fun hb => ?_
  rwa [StandsIn, (sameBeyondNames_nameTarget g d).files] at hb

theorem standsIn_writeBuilder {path path' : String} {d : BuilderDecl} {b : Block}
    (h : (writeBuilder path' g d).StandsIn path b) : g.StandsIn path b ∨ ∃ c, b = .builder c := by
  have hmake : Emitter.Yields (Block.builder <$> g.emitter.builderBlock d) fun b =>
      ∃ c, b = .builder c := Emitter.Yields.map fun _ => ⟨_, rfl⟩
  rcases standsIn_emit (g := { g with functions := _ }) hmake h with hb | ⟨_, hb⟩
  · exact Or.inl hb
  · exact Or.inr hb

theorem standsIn_build {path path' tag className : String} {parent : Parent} {d : TaskDefinition}
    {b : Block} (h : (g.build path' parent tag d className).StandsIn path b) :
    g.StandsIn path b ∨ ∃ c, b = .builder c := by
  have hforms : (g.writeForms path' (g.immediate parent tag d className)).StandsIn path b := by
    rw [build_eq] at h
    rcases declare_cases (g.writeForms path' (g.immediate parent tag d className)) parent tag
        (d.descriptors className g.framework) className with ⟨_, _, he⟩ | ⟨_, _, he⟩ <;>
      (rw [he] at h; exact h)
  rcases standsIn_writeBuilder hforms with hb | hb
  · exact standsIn_writeBuilder hb
  · exact Or.inr hb

/-- Every move writes blocks that suit their files. -/
theorem Arranged.move (h : Arranged g) (hm : Move g g') : Arranged g' := by
  have he := hm.extends
  cases hm with
  | note memory log => exact h.of_files he rfl
  | miss memory log _ => exact h.of_files he rfl
  | nameContainer id => exact h.of_files he (sameBeyondNames_containerName g id).files
  | openContainer _ _ _ =>
    refine h.write he fun path b hb => (standsIn_openContainer hb).imp_right ?_
    rintro ⟨hpath, c, rfl⟩
    exact hpath
  | @openTarget d _ _ =>
    obtain ⟨file, hresolved⟩ := g.resolved_openTarget d
    refine h.write he fun path b hb => (standsIn_openTarget hb).imp_right ?_
    rintro ⟨w, rfl, hsource, hmarkers⟩
    refine ⟨⟨d.id, some d, (g.namer.resultName d.id).1, some file⟩, d, _, ?_, rfl,
      g.namesContainers_openTarget d, hmarkers⟩
    rw [hsource, hresolved, Dict.get?_insert_self]
  | define _ _ _ => exact h.of_files he rfl
  | place _ => exact h.write he fun path b hb => Or.inl (standsIn_ensureFile hb)
  | build _ _ _ _ _ _ =>
    refine h.write he fun path b hb => (standsIn_build hb).imp_right ?_
    rintro ⟨c, rfl⟩
    trivial

theorem Arranged.fresh {p : Provider} (h : Fresh p g) : Arranged g := by
  rintro path b ⟨f, hf, _⟩
  rw [h.files] at hf
  cases hf

/-! ## Receivers -/

/-- Every builder makes a resolved type. -/
def Received (g : Generator) : Prop := ∀ name key f, g.library.functionAt? name key = some f →
  ∃ id t, g.resolved.get? id = some t ∧ t.className = f.initReceiver

theorem Received.of_same (h : Received g) (he : Extends g g')
    (hat : ∀ name key, g'.library.functionAt? name key = g.library.functionAt? name key) :
    Received g' := by
  intro name key f hf
  rw [hat] at hf
  obtain ⟨id, t, ht, hclass⟩ := h name key f hf
  obtain ⟨t', ht', hclass', _⟩ := he.resolved id t ht
  exact ⟨id, t', ht', hclass'.trans hclass⟩

theorem Received.move (h : Received g) (hm : Move g g') (hr : Registered g) : Received g' := by
  have he := hm.extends
  cases hm with
  | note memory log => exact h.of_same he fun _ _ => rfl
  | miss memory log _ => exact h.of_same he fun _ _ => rfl
  | nameContainer id =>
    exact h.of_same he fun _ _ => by rw [(sameBeyondNames_containerName g id).library]
  | openContainer _ _ _ => exact h.of_same he (Structure.functionAt?_register rfl)
  | @openTarget d _ _ =>
    obtain ⟨traits, hlibrary⟩ := g.library_openTarget d
    refine h.of_same he fun n k => ?_
    rw [hlibrary]
    exact Structure.functionAt?_register rfl n k
  | define _ _ _ => exact h.of_same he fun _ _ => rfl
  | place _ => exact h.of_same he fun _ _ => rfl
  | @build path parent tag id t d hfile hhosts hresolved hdefined hnew hfree =>
    obtain ⟨_, _, f, _, helement, hat⟩ :=
      declare_of_new (g := g.writeForms path (g.immediate parent tag d t.className))
        (hr.hosts hhosts) hnew (d.descriptors t.className g.framework) t.className
    have hs := sameBeyondBuilders_build g path parent tag d t.className
    rw [← build_eq] at hat
    intro n k f' hf'
    rw [hs.resolved]
    rw [hat] at hf'
    -- the builder is the new one, or one that was there before
    split at hf'
    · obtain rfl := Option.some.inj hf'
      exact ⟨id, t, hresolved, helement.symm⟩
    · exact h n k f' hf'

theorem Received.fresh {p : Provider} (h : Fresh p g) : Received g := by
  intro name key f hf
  rw [functionAt?_of_fresh h] at hf
  cases hf

/-! ## Everything together -/

/-- Everything that the integrity of a library depends on. -/
structure Tended (g : Generator) : Prop where
  declared : Declared g
  defined : Defined g
  plain : ∀ id d, g.Finds id d → Text.hasLeading "container:" id = false
  accounted : Accounted g
  oneInterfaceEach : OneInterfaceEach g
  arranged : Arranged g
  received : Received g

namespace Tended

theorem move (h : Tended g) (hm : Move g g') : Tended g' where
  declared := h.declared.move hm
  defined := h.defined.move hm
  plain := by
    unfold Finds
    rw [hm.extends.provider]
    exact h.plain
  accounted := by
    refine h.accounted.move hm h.declared.named h.declared.shown (fun id t ht => ?_) h.plain
    obtain ⟨d, _, hd⟩ := h.defined id t ht
    exact h.plain id d hd
  oneInterfaceEach := h.oneInterfaceEach.move hm
  arranged := h.arranged.move hm
  received := h.received.move hm h.declared.registered

theorem fresh {p : Provider} (h : Fresh p g)
    (hplain : ∀ id m d, (p.ask id m).1 = .found d → Text.hasLeading "container:" id = false) :
    Tended g where
  declared := .fresh h
  defined := .fresh h
  plain := by
    rintro id d ⟨m, hm⟩
    rw [h.provider, Provider.found_safe_iff] at hm
    exact hplain id m d hm
  accounted := .fresh h
  oneInterfaceEach := .fresh h
  arranged := .fresh h
  received := .fresh h

/-! ### Classes -/

theorem accounts (h : Tended g) {c : StructureClass} (hc : c ∈ g.library.classes.values) :
    g.library.class? c.name = some c ∧ Accounts g c := by
  obtain ⟨name, hname⟩ := (Dict.mem_values_iff _ _).1 hc
  have hkey := h.accounted.keyed name c hname
  exact ⟨hkey ▸ hname, h.accounted.classes name c hname⟩

/-- Classes with one name are the same class. -/
theorem eq_of_name (h : Tended g) {c c' : StructureClass} (hc : c ∈ g.library.classes.values)
    (hc' : c' ∈ g.library.classes.values) (hname : c'.name = c.name) : c' = c := by
  have hclass := (h.accounts hc).1
  rw [← hname, (h.accounts hc').1, Option.some.injEq] at hclass
  exact hclass

/-- A class with a source belongs to a type. -/
theorem type_of_source (h : Tended g) {c : StructureClass} (hc : c ∈ g.library.classes.values)
    (hsource : c.source ≠ "") : ∃ t d, g.resolved.get? c.source = some t ∧ t.definition = some d ∧
      t.className = c.name ∧ g.NamesContainers d c.traits := by
  cases (h.accounts hc).2 with
  | root _ hs _ _ => exact absurd hs hsource
  | @type t d ht hd hname _ htraits => exact ⟨t, d, ht, hd, hname, htraits⟩
  | container _ _ hs _ => exact absurd hs hsource

/-- A class with a capability belongs to a container. -/
theorem container_of_capability (h : Tended g) {c : StructureClass}
    (hc : c ∈ g.library.classes.values) (hcapability : c.capability ≠ "") :
    c.capability ∈ g.containersDone ∧ g.containerNames.get? c.capability = some c.name := by
  cases (h.accounts hc).2 with
  | root _ _ hs _ => exact absurd hs hcapability
  | type _ _ _ hs _ => exact absurd hs hcapability
  | container hdone hnamed _ _ => exact ⟨hdone, hnamed⟩

theorem eq_of_source (h : Tended g) {c c' : StructureClass} (hc : c ∈ g.library.classes.values)
    (hc' : c' ∈ g.library.classes.values) (hsource : c.source ≠ "") (he : c'.source = c.source) :
    c' = c := by
  obtain ⟨t, _, ht, _, hname, _⟩ := h.type_of_source hc hsource
  obtain ⟨t', _, ht', _, hname', _⟩ := h.type_of_source hc' (he ▸ hsource)
  rw [he, ht, Option.some.injEq] at ht'
  exact h.eq_of_name hc hc' (by rw [← hname', ← ht', hname])

theorem eq_of_capability (h : Tended g) {c c' : StructureClass}
    (hc : c ∈ g.library.classes.values) (hc' : c' ∈ g.library.classes.values)
    (hcapability : c.capability ≠ "") (he : c'.capability = c.capability) : c' = c := by
  have hnamed := (h.container_of_capability hc hcapability).2
  have hnamed' := (h.container_of_capability hc' (he ▸ hcapability)).2
  rw [he, hnamed, Option.some.injEq] at hnamed'
  exact h.eq_of_name hc hc' hnamed'.symm

end Tended

/-! ### Interfaces -/

/-- The interfaces of the file at a path. -/
def interfacesIn (g : Generator) (path : String) : List ContainerBlock :=
  ((g.files.get? path).elim [] (·.blocks)).filterMap Block.container?

theorem mem_interfacesIn {path : String} {b : ContainerBlock} :
    b ∈ g.interfacesIn path ↔ g.StandsIn path (.container b) := by
  have hblock : ∀ x : Block, x.container? = some b ↔ x = .container b := by
    intro x
    cases x <;> simp [Block.container?]
  rw [interfacesIn, StandsIn, List.mem_filterMap]
  cases g.files.get? path with
  | none => simp
  | some f => simp [hblock]

theorem interfacesIn_sublist (g : Generator) (path : String) :
    (g.interfacesIn path).Sublist g.containers := by
  refine List.Sublist.filterMap _ ?_
  cases h : g.files.get? path with
  | none => exact List.nil_sublist _
  | some f =>
    have hvalue : f ∈ g.files.values := (Dict.mem_values_iff _ _).2 ⟨path, h⟩
    exact List.sublist_flatten_of_mem (List.mem_map_of_mem hvalue)

/-- A container that was written has its interface in the file of containers. -/
theorem Tended.interface (h : Tended g) {id name : String} (hdone : id ∈ g.containersDone)
    (hnamed : g.containerNames.get? id = some name) :
    ∃ b ∈ g.interfacesIn (g.filePath containersFile), b.source = id ∧ b.ident = identOf name := by
  obtain ⟨b, hb, rfl⟩ := List.mem_map.1 (h.oneInterfaceEach.mem_iff.2 hdone)
  obtain ⟨path, hpath⟩ := mem_blocks_iff.1 (container_mem_blocks hb)
  obtain ⟨_, name', hname', hident⟩ := h.declared.shown.blocks _ (container_mem_blocks hb)
  obtain rfl := Option.some.inj (hnamed.symm.trans hname')
  have hfile : path = g.filePath containersFile := h.arranged path _ hpath
  exact ⟨b, mem_interfacesIn.2 (hfile ▸ hpath), rfl, hident⟩

/-- It has no other interface, in whatever file. -/
theorem Tended.count_interfacesIn (h : Tended g) {id name : String} (hdone : id ∈ g.containersDone)
    (hnamed : g.containerNames.get? id = some name) (path : String) :
    ((g.interfacesIn path).map (·.ident)).count (identOf name) =
      if path = g.filePath containersFile then 1 else 0 := by
  split
  · next hpath =>
    obtain ⟨b, hb, _, hident⟩ := h.interface hdone hnamed
    -- all interfaces of the package have identifiers of their own
    refine List.count_eq_one_of_mem ?_ (List.mem_map.2 ⟨b, hpath ▸ hb, hident⟩)
    exact h.declared.nodup_interfaces.sublist ((g.interfacesIn_sublist path).map _)
  · next hpath =>
    refine List.count_eq_zero.2 fun hmem => hpath ?_
    obtain ⟨b, hb, _⟩ := List.mem_map.1 hmem
    exact h.arranged path _ (mem_interfacesIn.1 hb)

/-! ### Wrappers -/

/-- The containers that a wrapper satisfies have identifiers of their own. -/
theorem Declared.nodup_idents (h : Declared g) {d : TaskDefinition} {names : List String}
    (hnames : g.NamesContainers d names) : (names.map identOf).Nodup := by
  have haligned : (names.map identOf).map some = (d.nestedTypes.filter g.needsContainer).map
      fun c => (g.containerNames.get? c).map identOf := by
    have hmap := congrArg (List.map (Option.map identOf)) (namesContainers_iff.1 hnames)
    rw [List.map_map, List.map_map] at hmap
    rw [List.map_map]
    exact hmap
  have hnamed : ∀ c ∈ d.nestedTypes.filter g.needsContainer,
      ∃ name, g.containerNames.get? c = some name := by
    intro c hc
    have hmem : g.containerNames.get? c ∈ names.map some :=
      namesContainers_iff.1 hnames ▸ List.mem_map_of_mem hc
    obtain ⟨name, _, hname⟩ := List.mem_map.1 hmem
    exact ⟨name, hname.symm⟩
  refine List.Nodup.of_map some ?_
  rw [haligned]
  refine List.Nodup.map_on (fun c hc c' hc' he => ?_) ((nodup_distinct _).filter _)
  -- the namer keeps the containers of two types apart
  obtain ⟨name, hname⟩ := hnamed c hc
  obtain ⟨name', hname'⟩ := hnamed c' hc'
  obtain ⟨i, hi, rfl⟩ := h.named.containers c name hname
  obtain ⟨j, hj, rfl⟩ := h.named.containers c' name' hname'
  rw [hname, hname', Option.map_some, Option.map_some, Option.some.injEq] at he
  exact containerKey_inj.1 (h.eq_of_ident hi hj he)

/-- The wrapper of a class: the class satisfies the containers of the distinct types that its definition
nests, as far as they need one and in their order, and the wrapper has one marker method for each. -/
structure Wraps (g : Generator) (c : StructureClass) (d : TaskDefinition) (w : WrapperBlock) :
    Prop where
  resolved : ∃ t, g.resolved.get? c.source = some t ∧ t.definition = some d ∧ t.className = c.name
  source : d.id = c.source
  traits : g.NamesContainers d c.traits
  written : w ∈ g.wrappers ∧ w.source = c.source ∧ w.ident = identOf c.name
  once : (g.wrappers.map (·.source)).count c.source = 1
  distinct : (c.traits.map identOf).Nodup
  lines : w.lines = w.headLines ++ w.fields.flatMap w.setterLines ++ w.recordLines ++ w.textLines ++
    w.conditionLines ++ c.traits.flatMap fun name => w.markerLines (identOf name)

theorem Tended.wraps (h : Tended g) (hp : g.provider.Faithful) {c : StructureClass}
    (hc : c ∈ g.library.classes.values) (hsource : c.source ≠ "") : ∃ d w, g.Wraps c d w := by
  obtain ⟨t, d, ht, hd, hclass, htraits⟩ := h.type_of_source hc hsource
  have hid : d.id = c.source := by
    obtain ⟨d', hd', m, hm⟩ := h.defined _ t ht
    rw [hd, Option.some.injEq] at hd'
    exact hp _ m d (hd' ▸ hm)
  have hcount : (g.wrappers.map (·.source)).count c.source = 1 := by
    rw [h.declared.oneWrapperEach.count, if_pos ((Dict.contains_iff _ _).2 ⟨t, ht⟩)]
  obtain ⟨w, hw, hwsource⟩ : ∃ w ∈ g.wrappers, w.source = c.source := by
    have hpos : 0 < (g.wrappers.map (·.source)).count c.source := by rw [hcount]; exact Nat.one_pos
    exact List.mem_map.1 (List.count_pos_iff.1 hpos)
  have hident : w.ident = identOf c.name := by
    obtain ⟨t', ht', hident⟩ := h.declared.shown.blocks _ (wrapper_mem_blocks hw)
    rw [hwsource, ht, Option.some.injEq] at ht'
    rw [hident, ← ht', hclass]
  have hmarkers : w.markers = c.traits.map identOf := by
    obtain ⟨path, hpath⟩ := mem_blocks_iff.1 (wrapper_mem_blocks hw)
    -- the wrapper and the class follow one definition, under names that stay
    obtain ⟨t', d', names, ht', hd', hnames, hmarkers⟩ := h.arranged path _ hpath
    rw [hwsource, ht, Option.some.injEq] at ht'
    rw [← ht', hd, Option.some.injEq] at hd'
    subst hd'
    rw [hmarkers, htraits.unique hnames]
  refine ⟨d, w, ⟨t, ht, hd, hclass⟩, hid, htraits, ⟨hw, hwsource, hident⟩, hcount,
    h.declared.nodup_idents htraits, ?_⟩
  rw [WrapperBlock.lines, hmarkers, List.flatMap_map]

/-! ## Integrity -/

/-- What is written belongs to a class and what refers to a class refers to one that is there; types and
capabilities have at most one class. -/
structure Intact (g : Generator) : Prop where
  keyed : Structure.Keyed g.library
  /-- A builder makes a type of the library. -/
  receivers : ∀ name key f, g.library.functionAt? name key = some f →
    g.library.resolves f.initReceiver = true
  capabilities : ∀ c ∈ g.library.classes.values, ∀ c' ∈ g.library.classes.values,
    c.capability ≠ "" → c'.capability = c.capability → c' = c
  /-- A container has one interface, which stands in the file of containers. -/
  interfaces : ∀ c ∈ g.library.classes.values, c.capability ≠ "" →
    (∃ b ∈ g.interfacesIn (g.filePath containersFile),
      b.source = c.capability ∧ b.ident = identOf c.name) ∧
    ∀ path, ((g.interfacesIn path).map (·.ident)).count (identOf c.name) =
      if path = g.filePath containersFile then 1 else 0
  contained : ∀ b ∈ g.containers, ∃ c ∈ g.library.classes.values, c.capability = b.source
  wrappers : ∀ c ∈ g.library.classes.values, c.source ≠ "" → ∃ d w, g.Wraps c d w
  wrapped : ∀ w ∈ g.wrappers, ∃ c ∈ g.library.classes.values, c.source = w.source
  sources : ∀ c ∈ g.library.classes.values, ∀ c' ∈ g.library.classes.values,
    c.source ≠ "" → c'.source = c.source → c' = c
  /-- The class of a type is found in whatever order the classes are looked at. -/
  bySource : ∀ id, id ≠ "" → ∀ cs : List StructureClass, cs.Perm g.library.classes.values →
    cs.find? (·.source == id) = g.library.bySource? id

theorem Tended.intact (h : Tended g) (hp : g.provider.Faithful) : Intact g where
  keyed := h.accounted.keyed
  receivers := by
    intro name key f hf
    obtain ⟨id, t, ht, hclass⟩ := h.received name key f hf
    exact hclass ▸ h.declared.registered.owner id t ht
  capabilities := fun _ hc _ hc' => h.eq_of_capability hc hc'
  interfaces := by
    intro c hc hcapability
    obtain ⟨hdone, hnamed⟩ := h.container_of_capability hc hcapability
    exact ⟨h.interface hdone hnamed, h.count_interfacesIn hdone hnamed⟩
  contained := by
    intro b hb
    obtain ⟨hdone, _⟩ := h.declared.shown.blocks _ (container_mem_blocks hb)
    obtain ⟨name, c, _, hc, hcapability⟩ := h.accounted.containers _ hdone
    exact ⟨c, (Dict.mem_values_iff _ _).2 ⟨name, hc⟩, hcapability⟩
  wrappers := fun _ hc => h.wraps hp hc
  wrapped := by
    intro w hw
    obtain ⟨t, ht, _⟩ := h.declared.shown.blocks _ (wrapper_mem_blocks hw)
    obtain ⟨c, hc, hsource⟩ := h.accounted.types _ t ht
    exact ⟨c, (Dict.mem_values_iff _ _).2 ⟨_, hc⟩, hsource⟩
  sources := fun _ hc _ hc' => h.eq_of_source hc hc'
  bySource := by
    intro id hid cs hperm
    refine find?_of_perm hperm fun c hc c' hc' hs hs' => ?_
    rw [beq_iff_eq] at hs hs'
    exact h.eq_of_source hc' hc (hs' ▸ hid) (hs.trans hs'.symm)

/-- A container that a class satisfies is a class, unless it is still owed. -/
theorem Tended.resolves_trait (h : Tended g) (hsettled : ∀ id, ¬ g.Owes id) {c : StructureClass}
    (hc : c ∈ g.library.classes.values) {name : String} (hname : name ∈ c.traits) :
    g.library.resolves name = true := by
  cases (h.accounts hc).2 with
  | root _ _ _ htraits =>
    rw [htraits name hname]
    exact h.declared.registered.root
  | @type t d ht hd _ _ htraits =>
    obtain ⟨id, hnested, hneeded, hnamed⟩ := htraits.mem hname
    -- a type that names a container owes it until it is written
    have hdone : id ∈ g.containersDone := by
      by_contra hnew
      exact hsettled id ⟨c.source, t, d, ht, hd, hnested, hneeded, hnew⟩
    obtain ⟨name', hname', hresolves⟩ := h.declared.registered.container id hdone
    obtain rfl := Option.some.inj (hnamed.symm.trans hname')
    exact hresolves
  | container _ _ _ htraits =>
    rw [htraits] at hname
    cases hname

/-- **The library is intact after every sequence of requests.** As long as no type has the key of a
container for an identifier, what is written belongs to a class of its own, builders make types of the
library, and a type or a capability has at most one class. The containers that a class satisfies are
classes too, unless a request breaks down before it has written them, which does not happen over a
provider that knows no identifiers beyond its list. -/
theorem library_intact {p : Provider} {o : GeneratorOptions} {g₀ : Generator} (hp : p.Faithful)
    (hplain : ∀ id m d, (p.ask id m).1 = .found d → Text.hasLeading "container:" id = false)
    (hnew : Generator.new p o = .ok g₀) (rs : List Request) :
    let g := g₀.serveAll rs
    g.Intact ∧
    (g₀.Completes rs → ∀ c ∈ g.library.classes.values, ∀ name ∈ c.traits,
      g.library.resolves name = true) ∧
    (p.Listed → g₀.Completes rs) := by
  intro g
  have hfresh := fresh_of_new hnew
  have hfaithful : g₀.provider.Faithful := hfresh.provider ▸ hp.safe
  have htended : Tended g := keeps_serveAll hp hnew (fun _ hf => .fresh hf hplain)
    (fun _ _ hm h => h.move hm) rs
  refine ⟨htended.intact ((moves_serveAll hfaithful rs).extends.provider ▸ hfaithful), ?_, ?_⟩
  · intro hcompletes c hc name hname
    refine htended.resolves_trait (fun id howes => ?_) hc hname
    -- a fresh run owes nothing
    obtain ⟨i, t, d, ht, _⟩ := settles_serveAll rs g₀ hfaithful (.fresh hfresh) hcompletes id howes
    rw [hfresh.resolved] at ht
    cases ht
  · exact fun hl => completes_of_listed rs g₀ hfaithful (hfresh.provider ▸ hl.safe)

/-- Types that nest each other, one of them twice, and a type that needs no container. -/
def smallRing : List TaskDefinition :=
  [{ id := "x.A", capabilities := ["x.C"],
     nested := [⟨"b", "x.B"⟩, ⟨"s", "fmt.S"⟩, ⟨"c", "x.B"⟩, ⟨"a", "x.A"⟩] },
   { id := "x.B", nested := [⟨"a", "x.A"⟩] }]

theorem library_intact_smallRing :
    (Provider.static smallRing).Faithful ∧
    (∀ id m d, ((Provider.static smallRing).ask id m).1 = .found d →
      Text.hasLeading "container:" id = false) ∧
    ∃ g₀, Generator.new (Provider.static smallRing)
        { importPath := "m/out", runtimePath := "m/rt" } = .ok g₀ ∧
      let g := g₀.serveAll [.resolve "x.B", .tagAlias ⟨"a", "x.A", false⟩, .containers ["x.B", "x.C"]]
      g.Intact ∧
      (∀ c ∈ g.library.classes.values, ∀ name ∈ c.traits, g.library.resolves name = true) ∧
      (g.library.bySource? "x.A").map (·.traits) =
        some ["m/out.DSLBContainer", "m/out.DSLAContainer"] := by
  have hp := Provider.faithful_static smallRing
  have hl := Provider.listed_static smallRing
  have hids : ∀ id ∈ (Provider.static smallRing).known,
      Text.hasLeading "container:" id = false := by decide +kernel
  have hplain := fun id m d h => hids id (hl id m d h)
  obtain ⟨hintact, htraits, hcompletes⟩ :=
    library_intact (o := { importPath := "m/out", runtimePath := "m/rt" }) hp hplain rfl
      [.resolve "x.B", .tagAlias ⟨"a", "x.A", false⟩, .containers ["x.B", "x.C"]]
  exact ⟨hp, hplain, _, rfl, hintact, htraits (hcompletes hl), by decide +kernel⟩

end Generator

end TaskBuilders
