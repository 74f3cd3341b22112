import TaskBuilders.Proofs.Generator.NamingStep
import TaskBuilders.Proofs.Naming.Shape
import TaskBuilders.Proofs.Structure.RoundTrip

/-!
# The classes of a run and their names

Every class of a library is called what the namer calls the key of its type or of its container. So a
library holds part of the namer's table, and names tell classes apart as they tell keys apart.

* `StructureClass.key?` — the key of a class
* `Filed` — a class is called what the namer calls its key
* `Filed.name_eq`, `Filed.key_eq` — such classes have one name exactly when they have one key
* `catalogued_serveAll` — requests keep all classes of a run filed, over any provider
-/

namespace TaskBuilders

open Naming QualifiedName Text

/-! ## Keys of classes -/

/-- The key under which a namer knows a class: that of its type, or else of its container. -/
def StructureClass.key? (c : StructureClass) : Option String :=
  if c.source ≠ "" then some c.source
  else if c.capability ≠ "" then some (containerKey c.capability)
  else none

namespace StructureClass

variable {c : StructureClass} {key : String}

theorem key?_of_source (h : c.source ≠ "") : c.key? = some c.source := if_pos h

theorem key?_of_capability (hs : c.source = "") (h : c.capability ≠ "") :
    c.key? = some (containerKey c.capability) := by
  rw [key?, if_neg (fun hne => hne hs), if_pos h]

theorem key?_cases (h : c.key? = some key) :
    c.source ≠ "" ∧ key = c.source ∨
      c.source = "" ∧ c.capability ≠ "" ∧ key = containerKey c.capability := by
  unfold key? at h
  split at h
  · next hs => exact Or.inl ⟨hs, (Option.some.inj h).symm⟩
  · next hs =>
    split at h
    · next hc => exact Or.inr ⟨Decidable.not_not.1 hs, hc, (Option.some.inj h).symm⟩
    · cases h

theorem isGenerated_iff : Generator.isGenerated c = true ↔ ∃ key, c.key? = some key := by
  unfold Generator.isGenerated
  rw [Bool.or_eq_true, bne_iff_ne, bne_iff_ne]
  constructor
  · intro h
    by_cases hs : c.source = ""
    · exact ⟨_, key?_of_capability hs (h.resolve_left fun hne => hne hs)⟩
    · exact ⟨_, key?_of_source hs⟩
  · rintro ⟨key, hkey⟩
    exact (key?_cases hkey).imp And.left fun h => h.2.1

end StructureClass

namespace Generator

variable {g g' : Generator}

/-! ## Filed classes -/

/-- A class belongs to a type or to a capability, not to both, and is called what the namer calls its
key. -/
structure Filed (g : Generator) (c : StructureClass) : Prop where
  single : c.source = "" ∨ c.capability = ""
  named : ∀ key, c.key? = some key → ∃ ident, g.namer.names.get? key = some ident ∧
    c.name = qualify g.options.importPath ident

theorem Filed.of_heading {c c' : StructureClass} (h : Filed g c) (hc : c'.heading = c.heading)
    (hoptions : g'.options = g.options)
    (hnames : ∀ key ident, g.namer.names.get? key = some ident →
      g'.namer.names.get? key = some ident) : Filed g' c' := by
  obtain ⟨hname, hc⟩ := Prod.mk.inj hc
  obtain ⟨hsource, hcapability⟩ := Prod.mk.inj hc
  have hkey? : c'.key? = c.key? := by unfold StructureClass.key?; rw [hsource, hcapability]
  refine ⟨by rw [hsource, hcapability]; exact h.single, fun key hkey => ?_⟩
  obtain ⟨ident, hident, hqualified⟩ := h.named key (hkey? ▸ hkey)
  exact ⟨ident, hnames key ident hident, by rw [hname, hqualified, hoptions]⟩

/-- Classes with one key have one name. -/
theorem Filed.name_eq {c d : StructureClass} {key : String} (hc : Filed g c) (hd : Filed g d)
    (hkey : c.key? = some key) (hkey' : d.key? = some key) : d.name = c.name := by
  obtain ⟨i, hi, hci⟩ := hc.named key hkey
  obtain ⟨j, hj, hdj⟩ := hd.named key hkey'
  obtain rfl := Option.some.inj (hi.symm.trans hj)
  rw [hci, hdj]

/-- Classes with one name have one key. -/
theorem Filed.key_eq {c d : StructureClass} {key key' : String} (hc : Filed g c) (hd : Filed g d)
    (howned : g.namer.Owned) (hkey : c.key? = some key) (hkey' : d.key? = some key')
    (hname : d.name = c.name) : key' = key := by
  obtain ⟨i, hi, hci⟩ := hc.named key hkey
  obtain ⟨j, hj, hdj⟩ := hd.named key' hkey'
  obtain rfl := qualify_inj.1 (hdj.symm.trans (hname.trans hci))
  exact howned.eq_of_names hj hi

/-- A key that is answered with the name of a class is the key of the class. -/
theorem Filed.key_of_mint {c : StructureClass} {key k preferred source : String} (hc : Filed g c)
    (hnamed : Named g) (hkey : c.key? = some key)
    (hname : qualify g.namer.package (g.namer.mint k preferred source).1 = c.name) : k = key := by
  obtain ⟨i, hi, hci⟩ := hc.named key hkey
  rw [hci, hnamed.package, qualify_inj] at hname
  exact hnamed.owned.eq_of_mint hi hname

/-! ## Catalogued runs -/

/-- The classes of a run stand under their names and are called what its namer calls them. -/
structure Catalogued (g : Generator) : Prop where
  named : Named g
  keyed : Structure.Keyed g.library
  filed : ∀ name c, g.library.class? name = some c → Filed g c

theorem Catalogued.filed_of_mem (h : Catalogued g) {c : StructureClass}
    (hc : c ∈ g.library.classes.values) : Filed g c := by
  obtain ⟨name, hname⟩ := (Dict.mem_values_iff _ _).1 hc
  exact h.filed name c hname

/-- Names that are added change nothing about the classes. -/
theorem Catalogued.of_names (h : Catalogued g) (hnamed : Named g') (hoptions : g'.options = g.options)
    (hlibrary : g'.library = g.library)
    (hnames : ∀ key ident, g.namer.names.get? key = some ident →
      g'.namer.names.get? key = some ident) : Catalogued g' := by
  refine ⟨hnamed, hlibrary ▸ h.keyed, fun name c hc => ?_⟩
  rw [hlibrary] at hc
  exact (h.filed name c hc).of_heading rfl hoptions hnames

/-- A class that is called what the namer calls it may be registered. -/
theorem Catalogued.register (h : Catalogued g) {c : StructureClass} (hc : Filed g c)
    (hnamed : Named g') (hoptions : g'.options = g.options) (hnamer : g'.namer = g.namer)
    (hlibrary : g'.library = g.library.register c) : Catalogued g' := by
  have hsame : ∀ key ident, g.namer.names.get? key = some ident →
      g'.namer.names.get? key = some ident := fun _ _ hident => by rwa [hnamer]
  refine ⟨hnamed, by rw [hlibrary]; exact h.keyed.register c, fun name c' hc' => ?_⟩
  rw [hlibrary] at hc'
  rcases Structure.class?_register_cases hc' with ⟨_, rfl⟩ | hc'
  · exact hc.of_heading rfl hoptions hsame
  · exact (h.filed name c' hc').of_heading rfl hoptions hsame

/-- Every naming step keeps the classes called what the namer calls them. -/
theorem Catalogued.namingStep (h : Catalogued g) (hm : NamingStep g g') : Catalogued g' := by
  have hnamed := h.named.namingStep hm
  have hnames := fun key ident (hident : g.namer.names.get? key = some ident) =>
    get?_names_namingStep hident hm
  cases hm with
  | none hs =>
    -- the classes may have more builders, but they are called the same
    have hheading : ∀ name c', g'.library.class? name = some c' →
        ∃ c, g.library.class? name = some c ∧ c'.heading = c.heading := by
      intro name c' hc'
      have heq := hs.headings name
      rw [hc'] at heq
      obtain ⟨c, hc, he⟩ := Option.map_eq_some_iff.1 heq.symm
      exact ⟨c, hc, he.symm⟩
    refine ⟨hnamed, fun name c' hc' => ?_, fun name c' hc' => ?_⟩
    · obtain ⟨c, hc, he⟩ := hheading name c' hc'
      exact (Prod.mk.inj he).1.trans (h.keyed name c hc)
    · obtain ⟨c, hc, he⟩ := hheading name c' hc'
      exact (h.filed name c hc).of_heading he hs.options hnames
  | nameContainer id =>
    have hs := sameBeyondNames_containerName g id
    exact h.of_names hnamed hs.options hs.library hnames
  | @openContainer id name hname =>
    obtain ⟨ident, hident, hqualified⟩ := h.named.containers id name hname
    have hfiled : Filed g { name, capability := id } := by
      refine ⟨Or.inl rfl, fun key hkey => ?_⟩
      rcases StructureClass.key?_cases hkey with ⟨hs, _⟩ | ⟨_, _, rfl⟩
      · exact absurd rfl hs
      · exact ⟨ident, hident, hqualified⟩
    exact h.register hfiled hnamed rfl rfl rfl
  | openTarget d =>
    -- the type has its name before the class is registered
    obtain ⟨hbetween, ident, hident, hname⟩ := h.named.nameTarget d
    have hs := sameBeyondNames_nameTarget g d
    rw [(g.openTarget_names d).2] at hnames
    have hcatalogued : Catalogued (g.nameTarget d).2.2 :=
      h.of_names hbetween hs.options hs.library hnames
    have hfiled : Filed (g.nameTarget d).2.2
        { name := (g.nameTarget d).1, source := d.id, traits := (g.nameTarget d).2.1 } := by
      refine ⟨Or.inr rfl, fun key hkey => ?_⟩
      rcases StructureClass.key?_cases hkey with ⟨_, rfl⟩ | ⟨_, hc, _⟩
      · exact ⟨ident, hident, by rw [hs.options]; exact hname⟩
      · exact absurd rfl hc
    obtain ⟨hoptions, hnamer, hlibrary⟩ :=
      (g.nameTarget d).2.2.enterTarget_names d (g.nameTarget d).1 (g.nameTarget d).2.1
    rw [openTarget_eq] at hnamed ⊢
    exact hcatalogued.register hfiled hnamed hoptions hnamer hlibrary

/-- The classes that a fresh run begins with belong to no type and no capability. -/
theorem class?_of_fresh {p : Provider} (h : Fresh p g) {name : String} {c : StructureClass}
    (hc : g.library.class? name = some c) : c.name = name ∧ c.source = "" ∧ c.capability = "" := by
  rw [h.library, rootClasses, List.foldl_cons, List.foldl_cons, List.foldl_cons, List.foldl_nil] at hc
  rcases Structure.class?_register_cases hc with ⟨rfl, rfl⟩ | hc
  · exact ⟨rfl, rfl, rfl⟩
  rcases Structure.class?_register_cases hc with ⟨rfl, rfl⟩ | hc
  · exact ⟨rfl, rfl, rfl⟩
  rcases Structure.class?_register_cases hc with ⟨rfl, rfl⟩ | hc
  · exact ⟨rfl, rfl, rfl⟩
  cases hc

/-- A fresh run is catalogued, whatever names are pinned. -/
theorem Catalogued.pinned {p : Provider} (h : Fresh p g) {n : Namer}
    (hpackage : n.package = g.options.importPath) (howned : n.Owned) :
    Catalogued { g with namer := n } := by
  refine ⟨⟨hpackage, howned, fun id t ht => ?_, fun c name hc => ?_⟩,
    fun name c hc => (class?_of_fresh h hc).1, fun name c hc => ?_⟩
  · have ht : g.resolved.get? id = some t := ht
    rw [h.resolved] at ht
    cases ht
  · have hc : g.containerNames.get? c = some name := hc
    rw [h.containerNames] at hc
    cases hc
  · obtain ⟨_, hsource, hcapability⟩ := class?_of_fresh h hc
    refine ⟨Or.inl hsource, fun key hkey => ?_⟩
    rcases StructureClass.key?_cases hkey with ⟨hs, _⟩ | ⟨_, hc, _⟩
    · exact absurd hsource hs
    · exact absurd hcapability hc

/-- Naming steps keep names whole. -/
theorem wholeNames_namingStep (h : g.namer.WholeNames) (hm : NamingStep g g') :
    g'.namer.WholeNames := by
  have hcontainer : ∀ (g : Generator) (id : String), g.namer.WholeNames →
      (g.containerName id).2.namer.WholeNames := by
    intro g id hg
    cases hid : g.containerNames.get? id with
    | some name => rw [containerName_of_some hid]; exact hg
    | none => rw [containerName_of_none hid]; exact hg.containerName id
  cases hm with
  | none hs => rw [hs.namer]; exact h
  | nameContainer id => exact hcontainer g id h
  | openContainer _ => exact h
  | openTarget d =>
    rw [(g.openTarget_names d).2]
    exact nameTarget_keeps (I := fun g => g.namer.WholeNames) (h.resultName d.id) hcontainer

/-! ## After any requests -/

/-- Over any provider, requests keep the classes called what the namer calls them, under the same
settings, and take no name back. -/
theorem catalogued_serveAll (h : Catalogued g) (rs : List Request) :
    Catalogued (g.serveAll rs) ∧ (g.serveAll rs).options = g.options ∧
      ∀ key ident, g.namer.names.get? key = some ident →
        (g.serveAll rs).namer.names.get? key = some ident :=
  (g.namingSteps_serveAll rs).keeps
    (I := fun g' => Catalogued g' ∧ g'.options = g.options ∧ ∀ key ident,
      g.namer.names.get? key = some ident → g'.namer.names.get? key = some ident)
    (fun _ _ hm hi => ⟨hi.1.namingStep hm, (options_namingStep hm).trans hi.2.1,
      fun key ident hident => get?_names_namingStep (hi.2.2 key ident hident) hm⟩)
    ⟨h, rfl, fun _ _ hident => hident⟩

/-- After any requests to a new run, its classes are called what its namer calls them, and names are
whole. -/
theorem catalogued_of_new {p : Provider} {o : GeneratorOptions} (h : Generator.new p o = .ok g)
    (rs : List Request) : Catalogued (g.serveAll rs) ∧
      (g.serveAll rs).options = o.withDefaults ∧ (g.serveAll rs).namer.WholeNames := by
  have hfresh := fresh_of_new h
  have hnamed := Named.fresh hfresh
  have hwhole : g.namer.WholeNames := by
    rw [hfresh.namer]
    exact Namer.wholeNames_new _ _
  obtain ⟨hcatalogued, hoptions, _⟩ :=
    catalogued_serveAll (.pinned hfresh hnamed.package hnamed.owned) rs
  refine ⟨hcatalogued, hoptions.trans (options_of_new h), ?_⟩
  exact (g.namingSteps_serveAll rs).keeps (I := fun g => g.namer.WholeNames)
    (fun _ _ hm hw => wholeNames_namingStep hw hm) hwhole

end Generator

end TaskBuilders
