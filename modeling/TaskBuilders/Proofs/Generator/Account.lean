import TaskBuilders.Proofs.Definition.Distinct
import TaskBuilders.Proofs.Generator.Declarations
import TaskBuilders.Proofs.Generator.Settlement
import TaskBuilders.Proofs.Structure.RoundTrip

/-!
# Where the classes of a library come from

The classes of a library are those of the runtime package, one for each resolved type and one for each
container that was written. The namer keeps their names apart, so that none of them keeps another one
out of the library.

* `NamesContainers` — the names of the containers that a wrapper satisfies
* `Accounts` — a class belongs to the runtime package, to a resolved type or to a written container
* `Accounts.of_name` — the name of a class tells which type or container it belongs to
* `Accounted.move` — moves add no class without account, and leave out none
-/

namespace TaskBuilders

open Naming Source QualifiedName

namespace Generator

variable {g g' : Generator} {c c' : StructureClass} {d : TaskDefinition}

/-! ## Names of containers -/

/-- The names of the containers that the wrapper of a definition satisfies: those of its distinct nested
types that need one, in their order. -/
def NamesContainers (g : Generator) (d : TaskDefinition) (names : List String) : Prop :=
  names.map some =
    ((d.nested.map (·.type)).eraseDups.filter g.needsContainer).map g.containerNames.get?

theorem namesContainers_iff {names : List String} : g.NamesContainers d names ↔
    names.map some = (d.nestedTypes.filter g.needsContainer).map g.containerNames.get? := by
  rw [NamesContainers, ← distinct_eq_eraseDups]
  rfl

theorem NamesContainers.extend {names : List String} (h : g.NamesContainers d names)
    (he : Extends g g') : g'.NamesContainers d names := by
  have hneeds : g'.needsContainer = g.needsContainer := by
    funext c
    rw [needsContainer, he.options, needsContainer]
  rw [NamesContainers, hneeds, h]
  refine List.map_congr_left fun c hc => ?_
  have hmem : g.containerNames.get? c ∈ names.map some := h ▸ List.mem_map_of_mem hc
  obtain ⟨name, _, hname⟩ := List.mem_map.1 hmem
  rw [← hname, he.containerNames c name hname.symm]

theorem NamesContainers.unique {names names' : List String} (h : g.NamesContainers d names)
    (h' : g.NamesContainers d names') : names' = names :=
  List.map_injective_iff.2 (Option.some_injective _) (h'.trans h.symm)

theorem NamesContainers.mem {names : List String} {name : String} (h : g.NamesContainers d names)
    (hname : name ∈ names) :
    ∃ c ∈ d.nestedTypes, g.needsContainer c = true ∧ g.containerNames.get? c = some name := by
  have hmem : some name ∈ names.map some := List.mem_map_of_mem hname
  rw [namesContainers_iff.1 h] at hmem
  obtain ⟨c, hc, hget⟩ := List.mem_map.1 hmem
  obtain ⟨hnested, hneeded⟩ := List.mem_filter.1 hc
  exact ⟨c, hnested, hneeded, hget⟩

theorem extends_containerNamesOf (ids : List String) (g : Generator) :
    Extends g (containerNamesOf ids g).2 :=
  containerNamesOf_keeps (I := Extends g) (fun g' id he => he.trans (Move.nameContainer g' id).extends)
    ids g (.refl g)

/-- Containers are called what they are named. -/
theorem map_get?_containerNamesOf : ∀ (ids : List String) (g : Generator),
    (containerNamesOf ids g).1.map some = ids.map (containerNamesOf ids g).2.containerNames.get?
  | [], _ => rfl
  | id :: ids, g => by
    have hrest := map_get?_containerNamesOf ids (g.containerName id).2
    have hfirst := (extends_containerNamesOf ids (g.containerName id).2).containerNames id _
      (g.get?_containerName_self id)
    show some (g.containerName id).1 :: (containerNamesOf ids (g.containerName id).2).1.map some =
      (containerNamesOf ids (g.containerName id).2).2.containerNames.get? id :: _
    rw [hfirst, hrest]
    rfl

theorem namesContainers_nameTarget (g : Generator) (d : TaskDefinition) :
    (g.nameTarget d).2.2.NamesContainers d (g.nameTarget d).2.1 := by
  have hneeds : (g.nameTarget d).2.2.needsContainer = g.needsContainer := by
    funext c
    rw [needsContainer, (sameBeyondNames_nameTarget g d).options, needsContainer]
  rw [namesContainers_iff, hneeds]
  exact map_get?_containerNamesOf _ _

theorem NamesContainers.enterTarget {names : List String} (h : g.NamesContainers d names)
    (name : String) (containers : List String) :
    (g.enterTarget d name containers).2.NamesContainers d names := h

theorem namesContainers_openTarget (g : Generator) (d : TaskDefinition) :
    (g.openTarget d).2.NamesContainers d (g.nameTarget d).2.1 := by
  rw [openTarget_eq]
  exact (g.namesContainers_nameTarget d).enterTarget _ _

/-! ## Names of the runtime -/

/-- A name behind the marker is no name of the runtime package. -/
theorem qualify_ne_runtimeName {package ident : String} (hp : package ≠ "") (h : TypicalName ident)
    {e : Emitter} {name : String} (hwhole : Whole name) (hmarker : name.toList.head? ≠ some 'D') :
    qualify package ident ≠ e.runtimeName name := by
  intro he
  have hundivided : Undivided name := by
    rw [Undivided, lastDivider?_eq_none_iff.2 hwhole]
    exact (Option.some_ne_none _).symm
  have hident : identOf (e.runtimeName name) = name := by
    rw [Emitter.runtimeName]
    by_cases hr : e.runtime = ""
    · rw [hr]
      show (parse name).ident = name
      rw [parse_of_undivided hundivided]
    · exact ((identOf_qualify hr hundivided).resolve_right fun hc => hc.1 hwhole).2
  rw [← he] at hident
  rcases typeLike_identOf hp h with ⟨_, rest, hrest⟩ | ⟨rest, hrest⟩
  · rw [← hident, hrest] at hmarker
    simp [marker] at hmarker
  · rw [← hident, hrest] at hwhole
    exact not_whole_append_dot package rest hwhole

theorem qualify_not_mem_rootClasses {ident : String} (hp : g.options.importPath ≠ "")
    (h : TypicalName ident) :
    qualify g.options.importPath ident ∉ g.rootClasses.map StructureClass.name := by
  intro hmem
  simp only [rootClasses, List.map_cons, List.map_nil, List.mem_cons, List.not_mem_nil, or_false] at hmem
  rcases hmem with he | he | he
  · exact qualify_ne_runtimeName hp h (by decide) (by decide) he
  · exact qualify_ne_runtimeName hp h (by decide) (by decide) he
  · exact qualify_ne_runtimeName hp h (by decide) (by decide) he

/-! ## What a class belongs to -/

/-- A class belongs to the runtime package, to a resolved type or to a container that was written. -/
inductive Accounts (g : Generator) (c : StructureClass) : Prop where
  | root (name : c.name ∈ g.rootClasses.map StructureClass.name) (source : c.source = "")
      (capability : c.capability = "") (traits : ∀ x ∈ c.traits, x = g.rootContainer)
  | type {t : Target} {d : TaskDefinition} (resolved : g.resolved.get? c.source = some t)
      (definition : t.definition = some d) (name : t.className = c.name)
      (capability : c.capability = "") (traits : g.NamesContainers d c.traits)
  | container (done : c.capability ∈ g.containersDone)
      (named : g.containerNames.get? c.capability = some c.name) (source : c.source = "")
      (traits : c.traits = [])

/-- What a class belongs to does not depend on its builders, and does not go away. -/
theorem Accounts.extend (h : Accounts g c) (he : Extends g g') (hbare : c'.bare = c.bare) :
    Accounts g' c' := by
  obtain ⟨name', source', capability', traits', functions'⟩ := c'
  obtain ⟨hname, hsource, hcapability, htraits⟩ : name' = c.name ∧ source' = c.source ∧
      capability' = c.capability ∧ traits' = c.traits := by
    simpa [StructureClass.bare] using hbare
  subst hname hsource hcapability htraits
  have hroots : g.rootClasses = g'.rootClasses ∧ g.rootContainer = g'.rootContainer := by
    unfold rootClasses rootContainer runtimeName
    rw [he.emitter]
    exact ⟨rfl, rfl⟩
  cases h with
  | root hname hsource hcapability htraits =>
    rw [hroots.1] at hname
    rw [hroots.2] at htraits
    exact .root hname hsource hcapability htraits
  | type ht hd hname hcapability htraits =>
    obtain ⟨t', ht', hclass, hdefinition⟩ := he.resolved _ _ ht
    exact .type ht' (hdefinition _ hd) (hclass.trans hname) hcapability (htraits.extend he)
  | container hdone hnamed hsource htraits =>
    exact .container (he.containersDone _ hdone) (he.containerNames _ _ hnamed) hsource htraits

/-- The name of a class tells which type or container it belongs to. -/
theorem Accounts.of_name (h : Accounts g c) (hn : Named g) (hpath : g.options.importPath ≠ "")
    {key ident : String} (hident : g.namer.names.get? key = some ident) (htypical : TypicalName ident)
    (hname : c.name = qualify g.options.importPath ident) :
    (∃ t, key = c.source ∧ g.resolved.get? c.source = some t) ∨
      key = containerKey c.capability ∧ c.capability ∈ g.containersDone := by
  cases h with
  | root hroot _ _ _ =>
    -- the namer gives no names that the runtime package has
    exact absurd (hname ▸ hroot) (qualify_not_mem_rootClasses hpath htypical)
  | @type t d ht _ hclass _ _ =>
    obtain ⟨i, hi, hqualified⟩ := hn.types _ t ht
    obtain rfl := qualify_inj.1 (hqualified.symm.trans (hclass.trans hname))
    exact Or.inl ⟨t, hn.owned.eq_of_names hident hi, ht⟩
  | container hdone hnamed _ _ =>
    obtain ⟨i, hi, hqualified⟩ := hn.containers _ _ hnamed
    obtain rfl := qualify_inj.1 (hqualified.symm.trans hname)
    exact Or.inr ⟨hn.owned.eq_of_names hident hi, hdone⟩

/-! ## Accounted libraries -/

/-- All classes are accounted for, and every resolved type and every written container has its class. -/
structure Accounted (g : Generator) : Prop where
  keyed : Structure.Keyed g.library
  classes : ∀ name c, g.library.class? name = some c → Accounts g c
  types : ∀ id t, g.resolved.get? id = some t →
    ∃ c, g.library.class? t.className = some c ∧ c.source = id
  containers : ∀ id ∈ g.containersDone, ∃ name c, g.containerNames.get? id = some name ∧
    g.library.class? name = some c ∧ c.capability = id

/-- A state with the same classes, types and containers, but for builders, definitions and files. -/
theorem Accounted.keep (h : Accounted g) (he : Extends g g')
    (hbare : ∀ name, (g'.library.class? name).map StructureClass.bare =
      (g.library.class? name).map StructureClass.bare)
    (hresolved : ∀ id t', g'.resolved.get? id = some t' →
      ∃ t, g.resolved.get? id = some t ∧ t'.className = t.className)
    (hdone : g'.containersDone = g.containersDone) : Accounted g' := by
  have hback : ∀ name c', g'.library.class? name = some c' →
      ∃ c, g.library.class? name = some c ∧ c'.bare = c.bare := by
    intro name c' hc'
    have heq := hbare name
    rw [hc'] at heq
    obtain ⟨c, hc, hsame⟩ := Option.map_eq_some_iff.1 heq.symm
    exact ⟨c, hc, hsame.symm⟩
  have hforth : ∀ name c, g.library.class? name = some c →
      ∃ c', g'.library.class? name = some c' ∧ c'.bare = c.bare := by
    intro name c hc
    have heq := hbare name
    rw [hc] at heq
    exact Option.map_eq_some_iff.1 heq
  refine ⟨fun name c' hc' => ?_, fun name c' hc' => ?_, fun id t' ht' => ?_, fun id hid => ?_⟩
  · obtain ⟨c, hc, hsame⟩ := hback name c' hc'
    exact (congrArg StructureClass.name hsame).trans (h.keyed name c hc)
  · obtain ⟨c, hc, hsame⟩ := hback name c' hc'
    exact (h.classes name c hc).extend he hsame
  · obtain ⟨t, ht, hclass⟩ := hresolved id t' ht'
    obtain ⟨c, hc, hsource⟩ := h.types id t ht
    obtain ⟨c', hc', hsame⟩ := hforth _ c hc
    exact ⟨c', hclass ▸ hc', (congrArg StructureClass.source hsame).trans hsource⟩
  · obtain ⟨name, c, hname, hc, hcapability⟩ := h.containers id (hdone ▸ hid)
    obtain ⟨c', hc', hsame⟩ := hforth _ c hc
    exact ⟨name, c', he.containerNames _ _ hname, hc',
      (congrArg StructureClass.capability hsame).trans hcapability⟩

/-- A state whose library is the same. -/
theorem Accounted.keep_library (h : Accounted g) (he : Extends g g') (hlibrary : g'.library = g.library)
    (hresolved : ∀ id t', g'.resolved.get? id = some t' →
      ∃ t, g.resolved.get? id = some t ∧ t'.className = t.className)
    (hdone : g'.containersDone = g.containersDone) : Accounted g' :=
  h.keep he (fun _ => by rw [hlibrary]) hresolved hdone

/-- A class whose name is new is registered, with what it belongs to. -/
theorem Accounted.register (h : Accounted g) (he : Extends g g')
    (hlibrary : g'.library = g.library.register c) (hnew : g.library.class? c.name = none)
    (hc : Accounts g' c)
    (htypes : ∀ id t', g'.resolved.get? id = some t' →
      g.resolved.get? id = some t' ∨ t'.className = c.name ∧ c.source = id)
    (hcontainers : ∀ id ∈ g'.containersDone, id ∈ g.containersDone ∨
      g'.containerNames.get? id = some c.name ∧ c.capability = id) : Accounted g' := by
  have hself : g'.library.class? c.name = some c := by
    rw [hlibrary, Structure.class?_register_of_none hnew]
  have hstay : ∀ name c', g.library.class? name = some c' → g'.library.class? name = some c' := by
    intro name c' hc'
    rw [hlibrary, Structure.class?_register_of_some hc']
  refine ⟨by rw [hlibrary]; exact h.keyed.register c, fun name c' hc' => ?_, fun id t' ht' => ?_,
    fun id hid => ?_⟩
  · rw [hlibrary] at hc'
    rcases Structure.class?_register_cases hc' with ⟨_, rfl⟩ | hc'
    · exact hc
    · exact (h.classes name c' hc').extend he rfl
  · rcases htypes id t' ht' with ht | ⟨hclass, hsource⟩
    · obtain ⟨c', hc', hsource⟩ := h.types id t' ht
      exact ⟨c', hstay _ c' hc', hsource⟩
    · exact ⟨c, hclass ▸ hself, hsource⟩
  · rcases hcontainers id hid with hid | ⟨hname, hcapability⟩
    · obtain ⟨name, c', hname, hc', hcapability⟩ := h.containers id hid
      exact ⟨name, c', he.containerNames _ _ hname, hstay _ c' hc', hcapability⟩
    · exact ⟨c.name, c, hname, hself, hcapability⟩

/-- No class is called like a container that was not written. -/
theorem Accounted.class?_openContainer (h : Accounted g) (hn : Named g) (hshown : Shown g)
    (hplain : ∀ id t, g.resolved.get? id = some t → Text.hasLeading "container:" id = false)
    {id name : String} (hnew : id ∉ g.containersDone) (hnamed : g.containerNames.get? id = some name) :
    g.library.class? name = none := by
  obtain ⟨ident, hident, hqualified⟩ := hn.containers id name hnamed
  refine Option.eq_none_iff_forall_ne_some.2 fun c hc => ?_
  have hname := (h.keyed name c hc).trans hqualified
  rcases (h.classes name c hc).of_name hn hshown.importPath hident (hshown.typical _ _ hident) hname with
    ⟨t, hkey, ht⟩ | ⟨hkey, hdone⟩
  · exact ne_containerKey (hplain _ t ht) id hkey.symm
  · exact hnew (containerKey_inj.1 hkey ▸ hdone)

/-- No class is called like a type that was not resolved. -/
theorem Accounted.class?_openTarget (h : Accounted g) (hn : Named g) (hshown : Shown g)
    (hplain : Text.hasLeading "container:" d.id = false) (hnew : g.resolved.get? d.id = none) :
    g.library.class? (g.nameTarget d).1 = none := by
  have hs := sameBeyondNames_nameTarget g d
  obtain ⟨hnamed, ident, hident, hqualified⟩ := hn.nameTarget d
  refine Option.eq_none_iff_forall_ne_some.2 fun c hc => ?_
  have hname := (h.keyed _ c hc).trans (hs.options ▸ hqualified)
  -- only after naming has the namer a name for the type
  have haccounts := (h.classes _ c hc).extend (extends_nameTarget g d) rfl
  rcases haccounts.of_name hnamed (hs.options ▸ hshown.importPath) hident
    (typical_nameTarget hshown.typical d _ _ hident) hname with ⟨t, hkey, ht⟩ | ⟨hkey, _⟩
  · rw [hs.resolved, ← hkey, hnew] at ht
    cases ht
  · exact ne_containerKey hplain _ hkey

/-- Every move keeps the library accounted for. -/
theorem Accounted.move (h : Accounted g) (hm : Move g g') (hn : Named g) (hshown : Shown g)
    (hplain : ∀ id t, g.resolved.get? id = some t → Text.hasLeading "container:" id = false)
    (hfound : ∀ id d, g.Finds id d → Text.hasLeading "container:" id = false) : Accounted g' := by
  have he := hm.extends
  cases hm with
  | note memory log => exact h.keep_library he rfl (fun _ t ht => ⟨t, ht, rfl⟩) rfl
  | miss memory log _ => exact h.keep_library he rfl (fun _ t ht => ⟨t, ht, rfl⟩) rfl
  | nameContainer id =>
    have hs := sameBeyondNames_containerName g id
    exact h.keep_library he hs.library (fun _ t ht => ⟨t, hs.resolved ▸ ht, rfl⟩) hs.containersDone
  | @openContainer id name hnew hneeded hnamed =>
    refine h.register (c := { name, capability := id }) he rfl
      (h.class?_openContainer hn hshown hplain hnew hnamed) ?_ (fun _ _ ht => Or.inl ht) ?_
    · exact .container List.mem_cons_self hnamed rfl rfl
    · intro i hi
      rcases List.mem_cons.1 hi with rfl | hi
      · exact Or.inr ⟨hnamed, rfl⟩
      · exact Or.inl hi
  | @openTarget d hnew hd =>
    have hs := sameBeyondNames_nameTarget g d
    obtain ⟨path, hresolved⟩ := g.resolved_openTarget d
    obtain ⟨_, _, _, hdone⟩ := g.openTarget_frame d
    refine h.register (c := { name := (g.nameTarget d).1, source := d.id, traits := (g.nameTarget d).2.1 })
      he (by rw [openTarget_eq, enterTarget, hs.library])
      (h.class?_openTarget hn hshown (hfound _ _ hd) hnew) ?_ ?_ (fun i hi => Or.inl (hdone ▸ hi))
    · exact .type (by rw [hresolved, Dict.get?_insert_self]) rfl rfl rfl
        (g.namesContainers_openTarget d)
    · intro i t ht
      rw [hresolved] at ht
      rcases Dict.get?_insert_cases ht with ⟨rfl, rfl⟩ | ht
      · exact Or.inr ⟨rfl, rfl⟩
      · exact Or.inl ht
  | @define id t d hresolved _ _ =>
    exact h.keep_library he rfl
      (className_of_insert (u := { t with definition := some d }) hresolved rfl rfl) rfl
  | @place id t hresolved =>
    exact h.keep_library he rfl
      (className_of_insert (u := { t with file := some (g.targetPath t) }) hresolved rfl rfl) rfl
  | @build path parent tag id t d _ _ _ _ _ _ =>
    have hs := sameBeyondBuilders_build g path parent tag d t.className
    exact h.keep he (map_class?_build (fun _ _ => rfl) g path parent tag d t.className)
      (fun _ u hu => ⟨u, hs.resolved ▸ hu, rfl⟩) hs.containersDone

/-- A fresh run has the classes of the runtime package. -/
theorem Accounted.fresh {p : Provider} (h : Fresh p g) : Accounted g := by
  have hroots : ∀ name c, g.library.class? name = some c → c ∈ g.rootClasses ∧ c.name = name := by
    intro name c hc
    rw [h.library, rootClasses, List.foldl_cons, List.foldl_cons, List.foldl_cons, List.foldl_nil] at hc
    rcases Structure.class?_register_cases hc with ⟨rfl, rfl⟩ | hc
    · exact ⟨by simp [rootClasses], rfl⟩
    rcases Structure.class?_register_cases hc with ⟨rfl, rfl⟩ | hc
    · exact ⟨by simp [rootClasses], rfl⟩
    rcases Structure.class?_register_cases hc with ⟨rfl, rfl⟩ | hc
    · exact ⟨by simp [rootClasses], rfl⟩
    cases hc
  refine ⟨fun name c hc => (hroots name c hc).2, fun name c hc => ?_, fun id t ht => ?_,
    fun id hid => ?_⟩
  · obtain ⟨hmem, _⟩ := hroots name c hc
    have hname : c.name ∈ g.rootClasses.map StructureClass.name := List.mem_map_of_mem hmem
    simp only [rootClasses, List.mem_cons, List.not_mem_nil, or_false] at hmem
    rcases hmem with rfl | rfl | rfl
    · exact .root hname rfl rfl (by simp)
    · exact .root hname rfl rfl (by simp)
    · exact .root hname rfl rfl (by simp)
  · rw [h.resolved] at ht
    cases ht
  · rw [h.containersDone] at hid
    cases hid

end Generator

end TaskBuilders
