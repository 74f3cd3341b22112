import TaskBuilders.Proofs.Generator.Catalogue

/-!
# Names across runs

A run that loads the structure of an earlier run into the same package gives every type and every
container the name that it had, in whatever order they come up this time.

The structure of the earlier run holds the names of its classes. A name without dots and slashes is
read back from its qualified form, so pinning the names of the structure restores them: nobody else
owns them, for they were apart in the earlier run. And a pinned name stays with its key.

* `PlainId` — identifiers whose names can be read back
* `within_pinClasses` — pinning the names of a structure restores them
* `filed_across_runs` — a run calls the classes of an earlier run what they were called
* `names_stable_across_runs` — names stay the same across runs
-/

namespace TaskBuilders

open Naming QualifiedName Text

/-! ## Plain identifiers -/

/-- An identifier that is not empty, has no slash in its simple name and is no key of a container. -/
def PlainId (id : String) : Prop :=
  id ≠ "" ∧ '/' ∉ (simpleName id).toList ∧ hasLeading "container:" id = false

instance (id : String) : Decidable (PlainId id) :=
  inferInstanceAs (Decidable (_ ∧ _ ∧ _))

theorem PlainId.whole {id : String} (h : PlainId id) : Whole (simpleName id) :=
  (undivided_simpleName id).whole h.2.1

theorem PlainId.ne_containerKey {id : String} (h : PlainId id) (c : String) : id ≠ containerKey c :=
  Naming.ne_containerKey h.2.2 c

/-- A class whose type or capability is plain. -/
def StructureClass.Plain (c : StructureClass) : Prop :=
  (c.source ≠ "" → PlainId c.source) ∧ (c.capability ≠ "" → PlainId c.capability)

instance (c : StructureClass) : Decidable c.Plain :=
  inferInstanceAs (Decidable ((_ → _) ∧ (_ → _)))

theorem StructureClass.Plain.whole {c : StructureClass} (h : c.Plain) {key : String}
    (hkey : c.key? = some key) : Whole (simpleName key) := by
  rcases key?_cases hkey with ⟨hs, rfl⟩ | ⟨_, hc, rfl⟩
  · exact (h.1 hs).whole
  · exact (Namer.whole_simpleName_containerKey _).2 (h.2 hc).whole

/-- Plain classes with one key belong to the same type or the same capability. -/
theorem StructureClass.Plain.eq_of_key? {c d : StructureClass} (hc : c.Plain) (hd : d.Plain)
    (hsingle : c.source = "" ∨ c.capability = "") (hsingle' : d.source = "" ∨ d.capability = "")
    {key : String} (hkey : c.key? = some key) (hkey' : d.key? = some key) :
    d.source = c.source ∧ d.capability = c.capability := by
  rcases key?_cases hkey with ⟨hs, rfl⟩ | ⟨hs, hcap, rfl⟩
  · rcases key?_cases hkey' with ⟨hs', he⟩ | ⟨_, _, he⟩
    · rw [hsingle.resolve_left hs, hsingle'.resolve_left hs', he]
      exact ⟨rfl, rfl⟩
    · exact absurd he ((hc.1 hs).ne_containerKey _)
  · rcases key?_cases hkey' with ⟨hs', he⟩ | ⟨hs', _, he⟩
    · exact absurd he.symm ((hd.1 hs').ne_containerKey _)
    · exact ⟨hs'.trans hs.symm, (containerKey_inj.1 he).symm⟩

/-! ## Names within names -/

namespace Naming.Namer

variable {n other : Namer}

/-- All owners of a namer have in another one the names that they own. -/
structure Within (n other : Namer) : Prop where
  owned : n.Owned
  owners : ∀ ident key, n.owners.get? ident = some key → other.names.get? key = some ident

theorem within_new (package sourceRoot : String) (other : Namer) :
    (new package sourceRoot).Within other :=
  ⟨owned_new package sourceRoot, by intro ident key h; cases h⟩

/-- The name that a key has in the other namer can be pinned: nobody else owns it. -/
theorem Within.claimKey (h : n.Within other) (hother : other.Owned) {key qualified : String}
    (hkey : other.names.get? key = some (identOf qualified)) :
    (n.claimKey key qualified).2 = n.assign key (identOf qualified) ∧
      (n.assign key (identOf qualified)).Within other := by
  have hfree : n.takenFor key (identOf qualified) = false := by
    refine Bool.eq_false_iff.2 fun htaken => ?_
    obtain ⟨owner, howner, hne⟩ := takenFor_eq_true_iff.1 htaken
    exact hne (hother.eq_of_names (h.owners _ _ howner) hkey)
  refine ⟨by rw [Namer.claimKey, hfree]; rfl, h.owned.assign hfree, fun ident k hk => ?_⟩
  rcases Dict.get?_insert_cases hk with ⟨rfl, rfl⟩ | hk
  · exact hkey
  · exact h.owners ident k hk

/-- A key that has a name keeps it when names of the other namer are pinned. -/
theorem Within.get?_assign (h : n.Within other) {key ident k i : String}
    (hkey : other.names.get? key = some ident) (hk : n.names.get? k = some i) :
    (n.assign key ident).names.get? k = some i := by
  show (n.names.insert key ident).get? k = some i
  rw [Dict.get?_insert]
  by_cases hkk : k = key
  · have hi := h.owners i k (h.owned k i hk)
    rw [hkk, hkey] at hi
    rw [if_pos hkk, hi]
  · rw [if_neg hkk, hk]

end Naming.Namer

namespace Generator

variable {g g₀ : Generator} {n other : Namer}

/-! ## Pinning the names of a structure -/

/-- Pins the name of a class to its key. -/
def pinClass (n : Namer) (c : StructureClass) : Namer :=
  c.key?.elim n fun key => (n.claimKey key c.name).2

theorem pinName_eq (g : Generator) (c : StructureClass) :
    g.pinName c = { g with namer := pinClass g.namer c } := by
  unfold pinName
  split
  · next hs => rw [pinClass, StructureClass.key?_of_source hs]; rfl
  · next hs =>
    have hsource : c.source = "" := Decidable.not_not.1 hs
    split
    · next hc => rw [pinClass, StructureClass.key?_of_capability hsource hc]; rfl
    · next hc =>
      have hnone : c.key? = none := by rw [StructureClass.key?, if_neg hs, if_neg hc]
      rw [pinClass, hnone]
      rfl

/-- Pinning changes nothing but the namer. -/
theorem foldl_pinName (cs : List StructureClass) (g : Generator) :
    cs.foldl pinName g = { g with namer := cs.foldl pinClass g.namer } := by
  induction cs generalizing g with
  | nil => rfl
  | cons c cs ih => rw [List.foldl_cons, pinName_eq, ih]; rfl

/-- Pinning the name of a class restores it, when it is its name in the other namer. -/
theorem within_pinClass (hother : other.Owned) (h : n.Within other) {c : StructureClass}
    (hc : ∀ key, c.key? = some key → other.names.get? key = some (identOf c.name)) :
    let n' := pinClass n c
    n'.Within other ∧ n'.package = n.package ∧
    (∀ k i, n.names.get? k = some i → n'.names.get? k = some i) ∧
    ∀ key, c.key? = some key → n'.names.get? key = some (identOf c.name) := by
  cases hkey : c.key? with
  | none =>
    have hpin : pinClass n c = n := by rw [pinClass, hkey]; rfl
    rw [hpin]
    exact ⟨h, rfl, fun _ _ hk => hk, nofun⟩
  | some key =>
    have hname := hc key hkey
    obtain ⟨hclaim, hwithin⟩ := h.claimKey hother hname
    have hpin : pinClass n c = n.assign key (identOf c.name) := by
      rw [pinClass, hkey]
      exact hclaim
    rw [hpin]
    refine ⟨hwithin, rfl, fun k i hk => h.get?_assign hname hk, fun k hk => ?_⟩
    obtain rfl := Option.some.inj hk
    exact Dict.get?_insert_self _ _ _

/-- **Pinning the names of classes restores them**, in whatever order. -/
theorem within_pinClasses (hother : other.Owned) (cs : List StructureClass)
    (hcs : ∀ c ∈ cs, ∀ key, c.key? = some key → other.names.get? key = some (identOf c.name))
    (h : n.Within other) :
    let n' := cs.foldl pinClass n
    n'.Within other ∧ n'.package = n.package ∧
    (∀ k i, n.names.get? k = some i → n'.names.get? k = some i) ∧
    ∀ c ∈ cs, ∀ key, c.key? = some key → n'.names.get? key = some (identOf c.name) := by
  induction cs generalizing n with
  | nil => exact ⟨h, rfl, fun _ _ hk => hk, nofun⟩
  | cons c cs ih =>
    obtain ⟨hfirst, hpackage, hkept, hpinned⟩ := within_pinClass hother h (hcs c List.mem_cons_self)
    obtain ⟨hrest, hpackage', hkept', hpinned'⟩ :=
      ih (fun c' hc' => hcs c' (List.mem_cons_of_mem c hc')) hfirst
    rw [List.foldl_cons]
    refine ⟨hrest, hpackage'.trans hpackage, fun k i hk => hkept' k i (hkept k i hk),
      fun c' hc' key hkey => ?_⟩
    rcases List.mem_cons.1 hc' with rfl | hc'
    · -- what is pinned first stays while the others are pinned
      exact hkept' _ _ (hpinned key hkey)
    · exact hpinned' c' hc' key hkey

/-! ## Loading the structure of an earlier run -/

/-- The name of a plain class is read back as the name of its key in the output package. -/
theorem Catalogued.read_back (h : Catalogued g) (hwhole : g.namer.WholeNames)
    (himport : g.options.importPath ≠ "") {c : StructureClass} (hc : c ∈ g.library.classes.values)
    (hplain : c.Plain) {key : String} (hkey : c.key? = some key) :
    g.namer.names.get? key = some (identOf c.name) ∧
      c.name = qualify g.options.importPath (identOf c.name) ∧
      packageOf c.name = g.options.importPath := by
  obtain ⟨ident, hident, hqualified⟩ := (h.filed_of_mem hc).named key hkey
  have hparse : parse c.name = ⟨g.options.importPath, ident⟩ := by
    rw [hqualified, qualify_of_ne himport]
    exact parse_append_dot (hwhole key ident hident (hplain.whole hkey)) _
  rw [identOf, packageOf, hparse]
  exact ⟨hident, hqualified, rfl⟩

/-- Loading meets the classes of the structure, in whatever order. -/
theorem Loading.mem_asked_iff (l : Loading) {c : StructureClass} :
    c ∈ l.asked.map Prod.snd ↔ c ∈ l.library.classes.values :=
  (l.asked_perm.map Prod.snd).mem_iff

/-- A structure that belongs to the output package with all its classes pins their names. -/
theorem load_of_samePackage {l : Loading} {c : StructureClass} {key : String}
    (hc : c ∈ l.library.classes.values) (hkey : c.key? = some key)
    (hpackage : ∀ d ∈ l.library.classes.values, ∀ k, d.key? = some k →
      packageOf d.name = g.options.importPath) :
    g.load l = { g with namer := l.library.listing.foldl pinClass g.namer } := by
  have hsame : g.samePackage l = true := by
    -- whichever class is met first, it belongs to the output package
    unfold samePackage
    split
    · next d hd =>
      obtain ⟨k, hk⟩ := StructureClass.isGenerated_iff.1 (List.find?_some hd)
      exact beq_iff_eq.2 (hpackage d (l.mem_asked_iff.1 (List.mem_of_find?_eq_some hd)) k hk)
    · next hnone =>
      exact absurd (StructureClass.isGenerated_iff.2 ⟨key, hkey⟩)
        (List.find?_eq_none.1 hnone c (l.mem_asked_iff.2 hc))
  rw [load, if_pos hsame, foldl_pinName]

/-- **A fresh run that loads the structure of an earlier one starts from the names in it.** -/
theorem catalogued_load {p : Provider} (h : Catalogued g) (hwhole : g.namer.WholeNames)
    (hplain : ∀ c ∈ g.library.classes.values, c.Plain) (hfresh : Fresh p g₀)
    (hoptions : g₀.options = g.options) {c : StructureClass} (hc : c ∈ g.library.classes.values)
    {key : String} (hkey : c.key? = some key) {l : Loading} (hl : l.library = g.library) :
    Catalogued (g₀.load l) ∧ (g₀.load l).options = g.options ∧
      (g₀.load l).namer.names.get? key = some (identOf c.name) := by
  have himport : g.options.importPath ≠ "" := hoptions ▸ hfresh.importPath
  have hback := fun d (hd : d ∈ g.library.classes.values) k (hk : d.key? = some k) =>
    h.read_back hwhole himport hd (hplain d hd) hk
  have hload := load_of_samePackage (g := g₀) (hl ▸ hc) hkey fun d hd k hk => by
    rw [hoptions]
    exact (hback d (hl ▸ hd) k hk).2.2
  have hnew : g₀.namer.Within g.namer := by
    rw [hfresh.namer]
    exact Namer.within_new _ _ _
  obtain ⟨hwithin, hpackage, _, hpinned⟩ := within_pinClasses h.named.owned
    g.library.classes.values (fun d hd k hk => (hback d hd k hk).1) hnew
  rw [hload, hl, h.keyed.listing_eq]
  refine ⟨.pinned hfresh ?_ hwithin.owned, hoptions, hpinned c hc key hkey⟩
  rw [hpackage, hfresh.namer]
  rfl

/-! ## Two runs -/

/-- **A run files the classes of an earlier run whose structure it has loaded**, like its own. -/
theorem filed_across_runs {p₁ p₂ : Provider} {o : GeneratorOptions} {g₁ g₂ : Generator}
    (hnew₁ : Generator.new p₁ o = .ok g₁) (hnew₂ : Generator.new p₂ o = .ok g₂)
    (rs₁ rs₂ : List Request)
    (hplain : ∀ c ∈ (g₁.serveAll rs₁).library.classes.values, c.Plain) {c : StructureClass}
    (hc : c ∈ (g₁.serveAll rs₁).library.classes.values) (hgenerated : isGenerated c)
    {l : Loading} (hl : l.library = (g₁.serveAll rs₁).library) :
    let g := (g₂.load l).serveAll rs₂
    Catalogued g ∧ Filed g c := by
  intro g
  obtain ⟨key, hkey⟩ := StructureClass.isGenerated_iff.1 hgenerated
  obtain ⟨hfirst, hoptions₁, hwhole⟩ := catalogued_of_new hnew₁ rs₁
  have hoptions : g₂.options = (g₁.serveAll rs₁).options :=
    (options_of_new hnew₂).trans hoptions₁.symm
  obtain ⟨hloaded, hoptions₂, hpinned⟩ := catalogued_load hfirst hwhole hplain
    (fresh_of_new hnew₂) hoptions hc hkey hl
  obtain ⟨hsecond, hoptions₃, hkept⟩ := catalogued_serveAll hloaded rs₂
  have himport : (g₁.serveAll rs₁).options.importPath ≠ "" :=
    hoptions ▸ (fresh_of_new hnew₂).importPath
  refine ⟨hsecond, (hfirst.filed_of_mem hc).single, fun k hk => ⟨identOf c.name, ?_, ?_⟩⟩
  · obtain rfl := Option.some.inj (hkey.symm.trans hk)
    exact hkept _ _ hpinned
  · rw [hoptions₃, hoptions₂]
    exact (hfirst.read_back hwhole himport hc (hplain c hc) hkey).2.1

/-- **Names stay the same across runs.** The structure of a run can be stored and read back. A fresh
run with the same settings that loads it first, in whatever order, gives every type and every
container that both runs have the name from the first run. It gives a name from the first run to no
other type and no other container, whether they get a class or are only named. Types and capabilities
with a class are to be plain. -/
theorem names_stable_across_runs {p₁ p₂ : Provider} {o : GeneratorOptions} {g₁ g₂ : Generator}
    (hnew₁ : Generator.new p₁ o = .ok g₁) (hnew₂ : Generator.new p₂ o = .ok g₂)
    (rs₁ rs₂ : List Request)
    (hplain : ∀ c ∈ (g₁.serveAll rs₁).library.classes.values, c.Plain) :
    ∃ s, Structure.decode (g₁.serveAll rs₁).library.encode = .ok s ∧ ∀ l : Loading, l.library = s →
      let g := (g₂.load l).serveAll rs₂
      ∀ c ∈ (g₁.serveAll rs₁).library.classes.values,
        (∀ d ∈ g.library.classes.values,
          (c.source ≠ "" → d.source = c.source → d.name = c.name) ∧
          (c.capability ≠ "" → d.capability = c.capability → d.name = c.name) ∧
          (isGenerated c → isGenerated d → d.Plain → d.name = c.name →
            d.source = c.source ∧ d.capability = c.capability)) ∧
        (isGenerated c → ∀ id, PlainId id →
          ((g.namer.resultName id).1 = c.name → id = c.source) ∧
          ((g.namer.containerName id).1 = c.name → id = c.capability)) := by
  obtain ⟨hfirst, _, _⟩ := catalogued_of_new hnew₁ rs₁
  refine ⟨_, Structure.decode_encode_of_keyed hfirst.keyed, ?_⟩
  intro l hl g c hc
  -- without a type and a capability there is nothing to show
  have hfiled (key : String) (hkey : c.key? = some key) : Catalogued g ∧ Filed g c :=
    filed_across_runs hnew₁ hnew₂ rs₁ rs₂ hplain hc (StructureClass.isGenerated_iff.2 ⟨key, hkey⟩) hl
  refine ⟨fun d hd => ⟨fun hs he => ?_, fun hs he => ?_, fun hgen hgen' hplain' he => ?_⟩,
    fun hgen id hid => ?_⟩
  · obtain ⟨hg, hcf⟩ := hfiled _ (StructureClass.key?_of_source hs)
    have hkey' : d.key? = some c.source := he ▸ StructureClass.key?_of_source (he.symm ▸ hs)
    exact hcf.name_eq (hg.filed_of_mem hd) (StructureClass.key?_of_source hs) hkey'
  · have hkey := StructureClass.key?_of_capability
      ((hfirst.filed_of_mem hc).single.resolve_right hs) hs
    obtain ⟨hg, hcf⟩ := hfiled _ hkey
    have hdf := hg.filed_of_mem hd
    have hs' : d.capability ≠ "" := he.symm ▸ hs
    have hkey' := StructureClass.key?_of_capability (hdf.single.resolve_right hs') hs'
    exact hcf.name_eq hdf hkey (he ▸ hkey')
  · obtain ⟨key, hkey⟩ := StructureClass.isGenerated_iff.1 hgen
    obtain ⟨key', hkey'⟩ := StructureClass.isGenerated_iff.1 hgen'
    obtain ⟨hg, hcf⟩ := hfiled key hkey
    have hdf := hg.filed_of_mem hd
    obtain rfl := hcf.key_eq hdf hg.named.owned hkey hkey' he
    exact (hplain c hc).eq_of_key? hplain' hcf.single hdf.single hkey hkey'
  · obtain ⟨key, hkey⟩ := StructureClass.isGenerated_iff.1 hgen
    obtain ⟨hg, hcf⟩ := hfiled key hkey
    refine ⟨fun he => ?_, fun he => ?_⟩
    · obtain rfl := hcf.key_of_mint hg.named hkey he
      rcases StructureClass.key?_cases hkey with ⟨_, hs⟩ | ⟨_, _, hs⟩
      · exact hs
      · exact absurd hs (hid.ne_containerKey _)
    · obtain rfl := hcf.key_of_mint hg.named hkey he
      rcases StructureClass.key?_cases hkey with ⟨hs, he⟩ | ⟨_, _, he⟩
      · exact absurd he.symm (((hplain c hc).1 hs).ne_containerKey _)
      · exact containerKey_inj.1 he

/-- Types whose simple names collide, so that the order in which they come up decides. -/
def pathTwins : List TaskDefinition :=
  [{ id := "x/a.Path", executable := true, capabilities := ["x/a.Rule"] },
   { id := "x/b.Path", executable := true, capabilities := ["x/b.Rule"] },
   { id := "x/c.Path" }]

theorem names_stable_across_runs_pathTwins :
    ∃ g₀ s, Generator.new (Provider.static pathTwins)
        { importPath := "m/out", runtimePath := "m/rt" } = .ok g₀ ∧
      let first := (g₀.serveAll [.resolve "x/a.Path", .resolve "x/b.Path"]).library
      let second := ((g₀.load (.byName s)).serveAll
        [.resolve "x/c.Path", .resolve "x/b.Path", .resolve "x/a.Path"]).library
      Structure.decode first.encode = .ok s ∧
      (first.bySource? "x/b.Path").map (·.name) = some "m/out.DSLOtherXBPath" ∧
      (∀ c ∈ first.classes.values, c.Plain) ∧
      ∀ c ∈ first.classes.values, ∀ d ∈ second.classes.values,
        c.source ≠ "" → d.source = c.source → d.name = c.name := by
  obtain ⟨s, hs, hnames⟩ := names_stable_across_runs
    (rfl : Generator.new (Provider.static pathTwins)
      { importPath := "m/out", runtimePath := "m/rt" } = .ok _)
    (rfl : Generator.new (Provider.static pathTwins)
      { importPath := "m/out", runtimePath := "m/rt" } = .ok _)
    [.resolve "x/a.Path", .resolve "x/b.Path"]
    [.resolve "x/c.Path", .resolve "x/b.Path", .resolve "x/a.Path"] (by decide +kernel)
  refine ⟨_, s, rfl, hs, by decide +kernel, by decide +kernel, ?_⟩
  intro c hc d hd
  exact ((hnames (.byName s) rfl c hc).1 d hd).1

end Generator

end TaskBuilders
