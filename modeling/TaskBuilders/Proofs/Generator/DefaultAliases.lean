import TaskBuilders.Proofs.Generator.Nesting
import TaskBuilders.Proofs.Generator.Repetition
import TaskBuilders.Proofs.Generator.Runtime
import TaskBuilders.Proofs.Generator.Turns

/-!
# Default aliases

A default alias gives a type that may stand under the root container a builder there, under the simple
name of the type. It asks the class of the type whether the tag is taken, not the root container: it is the
root container that keeps the builders that it has. Types that are unknown or may not stand there are
passed over, and only nesting brings them in.

* `class?_moves` — a class with a source is new only if its type is
* `complete_defaultAlias` — what a type has after its turn
* `leaves_defaultAliases` — what default aliases leave behind
* `defaultAliases_complete` — all types of a list, after any operations
-/

namespace TaskBuilders.Generator

open Naming QualifiedName

variable {g g' : Generator}

/-! ## New classes -/

/-- A class with a source was there before the move or belongs to a type that is entered. -/
theorem class?_move (hm : Move g g') {name : String} {c : StructureClass}
    (hc : g'.library.class? name = some c) (hsource : c.source ≠ "") :
    (∃ c₀, g.library.class? name = some c₀ ∧ c₀.source = c.source) ∨
      g.resolved.get? c.source = none ∧ ∃ t, g'.resolved.get? c.source = some t := by
  cases hm with
  | note _ _ | miss _ _ _ | define _ _ _ | place _ => exact Or.inl ⟨c, hc, rfl⟩
  | nameContainer id =>
    rw [(sameBeyondNames_containerName g id).library] at hc
    exact Or.inl ⟨c, hc, rfl⟩
  | openContainer _ _ _ =>
    rcases Structure.class?_register_cases hc with ⟨_, rfl⟩ | hc
    · exact absurd rfl hsource
    · exact Or.inl ⟨c, hc, rfl⟩
  | @openTarget d hnew _ =>
    obtain ⟨traits, hlibrary⟩ := g.library_openTarget d
    obtain ⟨path, hresolved⟩ := g.resolved_openTarget d
    rw [hlibrary] at hc
    rcases Structure.class?_register_cases hc with ⟨_, rfl⟩ | hc
    · exact Or.inr ⟨hnew, _, by rw [hresolved, Dict.get?_insert_self]⟩
    · exact Or.inl ⟨c, hc, rfl⟩
  | @build path parent tag _ t d _ _ _ _ _ _ =>
    have hsame := map_class?_build (f := StructureClass.source) (fun _ _ => rfl) g path parent tag d
      t.className name
    rw [hc, Option.map_some] at hsame
    exact Or.inl (Option.map_eq_some_iff.1 hsame.symm)

/-- **A class with a source is new only if its type is.** -/
theorem class?_moves (hm : Moves g g') {name : String} {c : StructureClass}
    (hc : g'.library.class? name = some c) (hsource : c.source ≠ "") :
    (∃ c₀, g.library.class? name = some c₀ ∧ c₀.source = c.source) ∨
      g.resolved.get? c.source = none ∧ ∃ t, g'.resolved.get? c.source = some t := by
  induction hm generalizing c with
  | refl => exact Or.inl ⟨c, hc, rfl⟩
  | @tail g₁ g₂ hms hlast ih =>
    rcases class?_move hlast hc hsource with ⟨c₁, hc₁, he⟩ | ⟨hnew, hentry⟩
    · rcases ih hc₁ (he ▸ hsource) with ⟨c₀, hc₀, he₀⟩ | ⟨hnew, t, ht⟩
      · exact Or.inl ⟨c₀, hc₀, he₀.trans he⟩
      · obtain ⟨t', ht', _⟩ := hlast.extends.resolved _ t ht
        exact Or.inr ⟨he ▸ hnew, t', he ▸ ht'⟩
    · refine Or.inr ⟨?_, hentry⟩
      cases hid : g.resolved.get? c.source with
      | none => rfl
      | some u =>
        obtain ⟨u', hu', _⟩ := (Moves.extends hms).resolved _ u hid
        rw [hnew] at hu'
        cases hu'

/-! ## One type -/

/-- The package has a function of a name. -/
def HasPackageFunction (g : Generator) (name : String) : Prop :=
  ∃ b ∈ g.decls, b.parent.kind ≠ .owner ∧ b.funcName = name

/-- Methods of new types add no function to the package. -/
theorem Leaves.hasPackageFunction {asked : String → Prop} (h : Leaves (fun _ => False) asked g g')
    {name : String} (hname : g'.HasPackageFunction name) : g.HasPackageFunction name := by
  obtain ⟨b, hb, hkind, hfunc⟩ := hname
  rcases h.decls b hb with hb | hfalse | ⟨_, _, _, _, hparent⟩
  · exact ⟨b, hb, hkind, hfunc⟩
  · exact hfalse.elim
  · exact absurd (by rw [hparent]) hkind

/-- A type that may stand under the root container is resolved, and then its class has a builder under the
tag or its constructors are written. -/
theorem defaultAlias_cases (ht : Truthful g) {id : String} {d : TaskDefinition}
    (hd : g.provider.definition? id = some d) (htop : d.topLevel = true)
    (hcrash : (g.defaultAlias id).1 = none) :
    ∃ g₁ t, Moves g g₁ ∧ Leaves (fun _ => False) (· = id) g g₁ ∧ g₁.resolved.get? id = some t ∧
      t.definition = some d ∧
      ((g.defaultAlias id).2 = g₁ ∧ g₁.library.containsFunction t.className (defaultTag id) = true ∨
        (g.defaultAlias id).2 = g₁.generateConstructors id (defaultTag id) true) := by
  have hfound := (ht.lookup id).1
  have hlookup := g.moves_lookup id
  have hleaves : Leaves (fun _ => False) (· = id) g (g.lookup id).2 := g.leaves_lookup id
  rw [hd] at hfound
  unfold defaultAlias at hcrash ⊢
  rcases hl : g.lookup id with ⟨found, g'⟩
  rw [hl] at hfound hlookup hleaves hcrash
  obtain rfl : found = some d := hfound
  have htruth := ht.moves hlookup
  have hmoves : Moves g (g'.resolveClass id).2 :=
    hlookup.trans (moves_resolveClass htruth.faithful id)
  have hleaves := hleaves.trans (leaves_resolveClass htruth.faithful id)
  have hentry := entry_resolveClass htruth.faithful id
  simp only [htop, Bool.not_true, Bool.false_eq_true, if_false] at hcrash ⊢
  have hresolved : (g'.resolveClass id).1 ≠ .unresolved := by
    intro hun
    have hnone := lookup_of_unresolved hun
    rw [(htruth.lookup id).1, hlookup.extends.provider, hd] at hnone
    cases hnone
  rcases hx : g'.resolveClass id with ⟨res, g₁⟩
  rw [hx] at hmoves hleaves hentry hcrash hresolved
  cases res with
  | crashed c => cases hcrash
  | unresolved => exact absurd rfl hresolved
  | resolved =>
    obtain ⟨t, d', ht', hd'⟩ := hentry rfl
    refine ⟨g₁, t, hmoves, hleaves, ht', ?_, ?_⟩
    · have hsame := (ht.moves hmoves).definition id t d' ht' hd'
      rw [(Moves.extends hmoves).provider, hd] at hsame
      obtain rfl := Option.some.inj hsame
      exact hd'
    · dsimp only at ht' ⊢
      rw [ht']
      dsimp only
      split
      · next hc => exact Or.inl ⟨rfl, hc⟩
      · exact Or.inr rfl

/-- A type gets a builder under the root container, unless a function of the package has its name. -/
theorem complete_root (hi : Indexed g) (hr : Rooted g) {id : String} {t : Target} {d : TaskDefinition}
    (ht : g.resolved.get? id = some t) (hd : t.definition = some d) (htop : d.topLevel = true)
    (tag : String) :
    (g.generateConstructors id tag true).library.containsFunction g.rootContainer tag = true ∨
      g.HasPackageFunction (exported (camelCase tag)) ∨
      g.HasPackageFunction (exported (camelCase tag) ++ "With") := by
  have hname := whole_exported_camelCase tag
  have hbuilder : builderName ⟨.root, g.rootContainer⟩ tag = exported (camelCase tag) := by
    simp [builderName]
  have hturn : (⟨.root, g.rootContainer⟩, g.placeTarget id t) ∈ g.turns id t d tag true := by
    rw [turns, htop]
    exact List.mem_cons_self
  have hkind : (⟨.root, g.rootContainer⟩ : Parent).kind ≠ .owner := by simp
  have hroot := complete_of_turn hkind (g.placeTarget id t) (g.targetPath t) tag d t.className
  rw [hbuilder, immediateName] at hroot
  rcases hroot with hbuilt | htaken | htaken | hclass
  · left
    obtain ⟨f, hf⟩ := Structure.containsFunction_iff.1 hbuilt
    exact Structure.containsFunction_iff.2
      ⟨f, (hasTurn_of_mem ht hd hturn).after.grows.library.functionAt? hf⟩
  · exact Or.inr (Or.inl ((hi.mem_package_iff hname).1 htaken))
  · exact Or.inr (Or.inr ((hi.mem_package_iff (hname.append (by decide))).1 htaken))
  · have hresolves : g.library.resolves g.rootContainer = true :=
      hr "TaskContainer" taskContainer_mem_rootNames
    rw [show (g.placeTarget id t).library = g.library from rfl, hresolves] at hclass
    cases hclass

/-- **What a type that may stand under the root container has after its turn**: a builder there, or one of
its class under the tag, or a function of the package had one of the names of its builder before. -/
theorem complete_defaultAlias (ht : Truthful g) (hi : Indexed g) (hr : Rooted g) {id : String}
    {d : TaskDefinition} (hd : g.provider.definition? id = some d) (htop : d.topLevel = true)
    (hcrash : (g.defaultAlias id).1 = none) :
    (g.defaultAlias id).2.library.containsFunction g.rootContainer (defaultTag id) = true ∨
      (∃ t, (g.defaultAlias id).2.resolved.get? id = some t ∧
        (g.defaultAlias id).2.library.containsFunction t.className (defaultTag id) = true) ∨
      g.HasPackageFunction (exported (camelCase (defaultTag id))) ∨
      g.HasPackageFunction (exported (camelCase (defaultTag id)) ++ "With") := by
  obtain ⟨g₁, t, hmoves, hleaves, ht₁, hd₁, ⟨he, hc⟩ | he⟩ := defaultAlias_cases ht hd htop hcrash
  · rw [he]
    exact Or.inr (Or.inl ⟨t, ht₁, hc⟩)
  · have hi₁ : Indexed g₁ := hmoves.keeps (fun _ _ hm h => h.move hm) hi
    have hr₁ : Rooted g₁ := hmoves.keeps (fun _ _ hm h => h.grows hm.step.grows) hr
    have hroot : g₁.rootContainer = g.rootContainer := by
      rw [rootContainer, hmoves.extends.emitter, rootContainer]
    rw [he, ← hroot]
    rcases complete_root hi₁ hr₁ ht₁ hd₁ htop (defaultTag id) with hbuilt | htaken | htaken
    · exact Or.inl hbuilt
    · exact Or.inr (Or.inr (Or.inl (hleaves.hasPackageFunction htaken)))
    · exact Or.inr (Or.inr (Or.inr (hleaves.hasPackageFunction htaken)))

/-- The provider has a definition for the type that may stand under the root container. -/
def DefaultsTo (p : Provider) (id : String) : Prop := ∃ d, p.definition? id = some d ∧ d.topLevel = true

/-- A default alias leaves functions of the package and methods of new types. The only type that is new
without being nested in another one may stand under the root container. -/
theorem leaves_defaultAlias (ht : Truthful g) (id : String) :
    Leaves (·.kind ≠ .owner) (DefaultsTo g.provider) g (g.defaultAlias id).2 := by
  have hfound := (ht.lookup id).1
  have hmoves := g.moves_lookup id
  have hlookup : Leaves (·.kind ≠ .owner) (DefaultsTo g.provider) g (g.lookup id).2 :=
    g.leaves_lookup id
  unfold defaultAlias
  rcases hl : g.lookup id with ⟨_ | d, g'⟩
  · rw [hl] at hlookup
    exact hlookup
  · rw [hl] at hfound hmoves hlookup
    dsimp only
    split
    · exact hlookup
    · next htop =>
      have hasked : DefaultsTo g.provider id := ⟨d, hfound.symm, by simpa using htop⟩
      have hclass := hlookup.trans ((leaves_resolveClass (ht.moves hmoves).faithful id).mono
        (fun _ h => h.elim) fun i hi => hi ▸ hasked)
      rcases hx : g'.resolveClass id with ⟨res, g''⟩
      rw [hx] at hclass
      cases res with
      | crashed c => exact hclass
      | unresolved => exact hclass
      | resolved =>
        dsimp only
        split
        · exact hclass
        · split
          · exact hclass
          · exact hclass.trans (leaves_generateConstructors g'' id (defaultTag id) true)

/-! ## Lists of types -/

/-- A list of types in two parts: the second begins where the first ends. -/
theorem defaultAliases_append {pre : List String} (hpre : (defaultAliases pre g).1 = none)
    (post : List String) :
    defaultAliases (pre ++ post) g = defaultAliases post (defaultAliases pre g).2 := by
  induction pre generalizing g with
  | nil => rfl
  | cons id pre ih =>
    rw [List.cons_append, defaultAliases, defaultAliases] at *
    rcases hx : g.defaultAlias id with ⟨_ | c, g'⟩
    · rw [hx] at hpre
      exact ih hpre
    · rw [hx] at hpre
      cases hpre

theorem fst_of_append {pre post : List String} (h : (defaultAliases (pre ++ post) g).1 = none) :
    (defaultAliases pre g).1 = none := by
  induction pre generalizing g with
  | nil => rfl
  | cons id pre ih =>
    rw [List.cons_append, defaultAliases] at h
    rw [defaultAliases]
    rcases hx : g.defaultAlias id with ⟨_ | c, g'⟩
    · rw [hx] at h
      exact ih h
    · rw [hx] at h
      cases h

/-- **What default aliases leave behind.** -/
theorem leaves_defaultAliases : ∀ (ids : List String) {g : Generator}, Truthful g →
    Leaves (·.kind ≠ .owner) (DefaultsTo g.provider) g (defaultAliases ids g).2
  | [], g, _ => .refl g
  | id :: ids, g, ht => by
    have hmoves := moves_defaultAlias ht.faithful id
    have hfirst := leaves_defaultAlias ht id
    unfold defaultAliases
    rcases hx : g.defaultAlias id with ⟨_ | c, g'⟩
    · rw [hx] at hmoves hfirst
      have hrest := leaves_defaultAliases ids (ht.moves hmoves)
      rw [hmoves.extends.provider] at hrest
      exact hfirst.trans hrest
    · rw [hx] at hfirst
      exact hfirst

/-- What a type of a list has after the turns of all. -/
theorem complete_defaultAliases (ht : Truthful g) (hi : Indexed g) (hr : Rooted g)
    {pre post : List String} {id : String} {d : TaskDefinition}
    (hd : g.provider.definition? id = some d) (htop : d.topLevel = true)
    (hcrash : (defaultAliases (pre ++ id :: post) g).1 = none) :
    let g' := (defaultAliases (pre ++ id :: post) g).2
    g'.library.containsFunction g'.rootContainer (defaultTag id) = true ∨
      (∃ t, g'.resolved.get? id = some t ∧
        g'.library.containsFunction t.className (defaultTag id) = true) ∨
      (defaultAliases pre g).2.HasPackageFunction (exported (camelCase (defaultTag id))) ∨
      (defaultAliases pre g).2.HasPackageFunction (exported (camelCase (defaultTag id)) ++ "With") := by
  have hpre : Moves g (defaultAliases pre g).2 := moves_defaultAliases pre g ht.faithful
  have hsplit := defaultAliases_append (fst_of_append hcrash) (id :: post)
  rw [hsplit] at hcrash ⊢
  -- the state that the turn of the type finds
  generalize (defaultAliases pre g).2 = g₁ at *
  have ht₁ := ht.moves hpre
  have hi₁ : Indexed g₁ := hpre.keeps (fun _ _ hm h => h.move hm) hi
  have hr₁ : Rooted g₁ := hpre.keeps (fun _ _ hm h => h.grows hm.step.grows) hr
  have hturn := complete_defaultAlias ht₁ hi₁ hr₁ (hpre.extends.provider ▸ hd) htop
  have hfirst := moves_defaultAlias ht₁.faithful id
  rw [defaultAliases] at hcrash ⊢
  rcases hx : g₁.defaultAlias id with ⟨_ | c, g₂⟩
  · rw [hx] at hturn hfirst hcrash
    have hpost : Moves g₂ (defaultAliases post g₂).2 :=
      moves_defaultAliases post g₂ (ht₁.moves hfirst).faithful
    have hroot : (defaultAliases post g₂).2.rootContainer = g₁.rootContainer := by
      rw [rootContainer, hpost.extends.emitter, hfirst.extends.emitter, rootContainer]
    dsimp only
    rw [hroot]
    rcases hturn rfl with hbuilt | ⟨t, ht, hown⟩ | htaken
    · exact Or.inl (containsFunction_moves hpost hbuilt)
    · obtain ⟨t', ht', hclass, _⟩ := hpost.extends.resolved id t ht
      exact Or.inr (Or.inl ⟨t', ht', hclass ▸ containsFunction_moves hpost hown⟩)
    · exact Or.inr (Or.inr htaken)
  · rw [hx] at hcrash
    cases hcrash

/-- **Default aliases are complete.** After any operations over a provider that always answers alike, with
definitions of the identifiers it is asked for: default aliases for a list of types break down only if the
provider finds more than it lists. Every type of the list that may stand under the root container then has
a builder there, or its class has one under the tag, or a function of the package had one of the two names
when its turn came. Builders of the root container stay as they are, and a type that is unknown or may not
stand there gets no class, unless another type nests it. -/
theorem defaultAliases_complete {p : Provider} {o : GeneratorOptions} {g₀ : Generator}
    (hf : p.Faithful) (hs : p.Stateless) (hnew : Generator.new p o = .ok g₀) (ops : List Operation)
    (ids : List String) :
    let g := g₀.performAll ops
    let x := defaultAliases ids g
    (p.Listed → x.1 = none) ∧
    (x.1 = none → ∀ pre id post d, ids = pre ++ id :: post → p.definition? id = some d →
      d.topLevel = true →
      let name := exported (camelCase (defaultTag id))
      x.2.library.containsFunction x.2.rootContainer (defaultTag id) = true ∨
      (∃ t, x.2.resolved.get? id = some t ∧
        x.2.library.containsFunction t.className (defaultTag id) = true) ∨
      (defaultAliases pre g).2.HasPackageFunction name ∨
      (defaultAliases pre g).2.HasPackageFunction (name ++ "With")) ∧
    (x.2.rootContainer = g.rootContainer ∧
      ∀ key f, g.library.functionAt? g.rootContainer key = some f →
        x.2.library.functionAt? g.rootContainer key = some f) ∧
    ∀ id, (∀ d, p.definition? id = some d → d.topLevel = false) → x.2.NestedElsewhere id ∨
      (g.resolved.get? id = none → x.2.resolved.get? id = none) ∧
      ∀ name c, x.2.library.class? name = some c → c.source = id → id ≠ "" →
        ∃ c₀, g.library.class? name = some c₀ ∧ c₀.source = id := by
  intro g x
  have htruth : Truthful g := .performAll hf hs hnew ops
  have hprovider : g.provider = p.safe :=
    (provider_performAll ops g₀).trans (fresh_of_new hnew).provider
  have hgrows : Grows g x.2 := (steps_defaultAliases ids g).grows
  refine ⟨fun hl => ?_, fun hnone pre id post d hids hd htop => ?_, ⟨?_, fun key f hkey => ?_⟩,
    fun id hskip => ?_⟩
  · exact fst_defaultAliases ids g htruth.faithful (hprovider ▸ hl.safe)
  · subst hids
    exact complete_defaultAliases htruth (.performAll hf hnew ops) (rooted_performAll hnew ops)
      (by rw [hprovider, Provider.definition?_safe, hd]) htop hnone
  · rw [rootContainer, hgrows.emitter, rootContainer]
  · exact hgrows.library.functionAt? hkey
  · have hleaves := leaves_defaultAliases ids htruth
    have hmoves := moves_defaultAliases ids g htruth.faithful
    -- the type was not asked for
    have hnotAsked : ¬ DefaultsTo g.provider id := by
      rintro ⟨d, hd, htop⟩
      rw [hprovider, Provider.definition?_safe] at hd
      rw [hskip d hd] at htop
      cases htop
    by_cases hnested : x.2.NestedElsewhere id
    · exact Or.inl hnested
    · have hentry : g.resolved.get? id = none → x.2.resolved.get? id = none := by
        intro hid
        cases hx : x.2.resolved.get? id with
        | none => rfl
        | some t => exact ((hleaves.entries id t hx hid).elim hnotAsked hnested).elim
      refine Or.inr ⟨hentry, fun name c hc hsource hne => ?_⟩
      rcases class?_moves hmoves hc (hsource ▸ hne) with ⟨c₀, hc₀, he⟩ | ⟨hid, t, ht⟩
      · exact ⟨c₀, hc₀, he.trans hsource⟩
      · rw [hsource] at hid ht
        rw [hentry hid] at ht
        cases ht

/-- Types of one simple name, a type that nests itself under its simple name, one that is called like the
immediate form of another one's builder, and one that is only nested. -/
def copyTypes : List TaskDefinition :=
  [{ id := "x.Copy", executable := true, nested := [⟨"path", "x.Path"⟩] },
   { id := "y.Copy", executable := true },
   { id := "x.Group", executable := true, nested := [⟨"group", "x.Group"⟩] },
   { id := "x.CopyWith", executable := true },
   { id := "x.Path" }]

/-- The builder `copy` of the alias stays under the root container. The group has a builder of its own
under its tag, and the type that is called like the immediate form of `copy` finds its name taken. -/
theorem defaultAliases_complete_copyTypes :
    (Provider.static copyTypes).Faithful ∧ (Provider.static copyTypes).Stateless ∧
    ∃ g₀, Generator.new (.static copyTypes) { importPath := "m/out", runtimePath := "m/rt" } = .ok g₀ ∧
      let g := g₀.performAll [.request (.tagAlias ⟨"copy", "y.Copy", true⟩)]
      let x := defaultAliases ["x.Copy", "x.Group", "x.CopyWith", "x.Path", "x.None"] g
      let before := (defaultAliases ["x.Copy", "x.Group"] g).2
      x.1 = none ∧
      ["copy", "group", "copyWith"].map (fun tag =>
          (x.2.library.function? x.2.rootContainer tag).map (·.initReceiver)) =
        [some "m/out.DSLCopy", none, none] ∧
      (x.2.library.containsFunction x.2.rootContainer "copyWith" = true ∨
        (∃ t, x.2.resolved.get? "x.CopyWith" = some t ∧
          x.2.library.containsFunction t.className "copyWith" = true) ∨
        before.HasPackageFunction "CopyWith" ∨ before.HasPackageFunction ("CopyWith" ++ "With")) := by
  refine ⟨Provider.faithful_static _, Provider.stateless_static _, _, rfl, ?_⟩
  have h := defaultAliases_complete (p := .static copyTypes)
    (o := { importPath := "m/out", runtimePath := "m/rt" }) (Provider.faithful_static _)
    (Provider.stateless_static _) rfl [.request (.tagAlias ⟨"copy", "y.Copy", true⟩)]
    ["x.Copy", "x.Group", "x.CopyWith", "x.Path", "x.None"]
  have hnone := h.1 (Provider.listed_static _)
  have hturn := h.2.1 hnone ["x.Copy", "x.Group"] "x.CopyWith" ["x.Path", "x.None"]
    { id := "x.CopyWith", executable := true } rfl (by decide) rfl
  have htag : defaultTag "x.CopyWith" = "copyWith" := by decide +kernel
  have hname : exported (camelCase "copyWith") = "CopyWith" := by decide +kernel
  dsimp only at hturn
  rw [htag, hname] at hturn
  exact ⟨hnone, by decide +kernel, hturn⟩

end TaskBuilders.Generator
