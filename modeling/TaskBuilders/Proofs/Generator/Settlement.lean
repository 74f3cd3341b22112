import TaskBuilders.Proofs.Generator.Resolution

/-!
# Containers that are owed

A wrapper names the containers of its nested types before these containers are written: between the two,
all nested types are resolved, with wrappers of their own. What is owed meanwhile is written before the
resolution of the type comes to its end, unless the run breaks down.

* `Owes` — a resolved type nests elements of a capability whose container is not written
* `Settles` — nothing is owed that was not owed before
* `renderNested_cons_cases`, `resolveWithin_succ_cases` — what becomes of a nested element and of a type
* `settles_resolveWithin` — resolving a type settles what it begins to owe
* `Completes`, `completes_of_listed` — requests that do not break down, and providers that never make
  one break down
* `RequestLaw.serveAll` — what requests that complete are made of decides what they do
* `settles_serveAll` — after requests that complete nothing new is owed
-/

namespace TaskBuilders.Generator

variable {g g' g'' : Generator}

/-! ## What is owed -/

/-- A resolved type nests elements of a capability that needs a container and has none. -/
def Owes (g : Generator) (c : String) : Prop :=
  ∃ id t d, g.resolved.get? id = some t ∧ t.definition = some d ∧ c ∈ d.nestedTypes ∧
    g.needsContainer c = true ∧ c ∉ g.containersDone

/-- Nothing is owed that was not owed before. -/
def Settles (g g' : Generator) : Prop := ∀ c, g'.Owes c → g.Owes c

theorem Settles.trans (h : Settles g g') (h' : Settles g' g'') : Settles g g'' :=
  fun c hc => h c (h' c hc)

/-- Every entry of the table has a definition that its provider finds. -/
def Defined (g : Generator) : Prop :=
  ∀ id t, g.resolved.get? id = some t → ∃ d, t.definition = some d ∧ g.Finds id d

theorem Defined.of_same (h : Defined g) (hprovider : g'.provider = g.provider)
    (hresolved : g'.resolved = g.resolved) : Defined g' := by
  unfold Defined Finds
  rw [hprovider, hresolved]
  exact h

/-- An entry with a definition is added or takes the place of another one. -/
theorem Defined.insert (h : Defined g) {id : String} {t : Target} {d : TaskDefinition}
    (hd : t.definition = some d) (hfound : g.Finds id d) (hprovider : g'.provider = g.provider)
    (hresolved : g'.resolved = g.resolved.insert id t) : Defined g' := by
  unfold Defined Finds
  rw [hprovider, hresolved]
  intro i u hu
  rcases Dict.get?_insert_cases hu with ⟨rfl, rfl⟩ | hu
  · exact ⟨d, hd, hfound⟩
  · exact h i u hu

theorem Defined.move (h : Defined g) (hm : Move g g') : Defined g' := by
  have hprovider := hm.extends.provider
  cases hm with
  | note memory log => exact h.of_same rfl rfl
  | miss memory log _ => exact h.of_same rfl rfl
  | nameContainer id => exact h.of_same hprovider (sameBeyondNames_containerName g id).resolved
  | openContainer _ _ _ => exact h.of_same rfl rfl
  | @openTarget d _ hfound =>
    obtain ⟨path, hresolved⟩ := g.resolved_openTarget d
    exact h.insert rfl hfound hprovider hresolved
  | @define id t d _ _ hfound =>
    exact h.insert (t := { t with definition := some d }) rfl hfound rfl rfl
  | @place id t hresolved =>
    obtain ⟨d, hd, hfound⟩ := h id t hresolved
    exact h.insert (t := { t with file := some (g.targetPath t) }) hd hfound rfl rfl
  | @build path parent tag _ t d _ _ _ _ _ _ =>
    exact h.of_same hprovider (sameBeyondBuilders_build g path parent tag d t.className).resolved

theorem Defined.fresh {p : Provider} (h : Fresh p g) : Defined g := by
  intro id t ht
  rw [h.resolved] at ht
  cases ht

/-! ## Operations that enter no type -/

/-- No type is entered, and no container is lost. -/
structure SameTypes (g g' : Generator) : Prop where
  options : g'.options = g.options
  provider : g'.provider = g.provider
  containersDone : ∀ c ∈ g.containersDone, c ∈ g'.containersDone
  definitions : ∀ id, (g'.resolved.get? id).map Target.definition =
    (g.resolved.get? id).map Target.definition

namespace SameTypes

theorem refl (g : Generator) : SameTypes g g := ⟨rfl, rfl, fun _ h => h, fun _ => rfl⟩

theorem trans (h : SameTypes g g') (h' : SameTypes g' g'') : SameTypes g g'' :=
  ⟨h'.options.trans h.options, h'.provider.trans h.provider,
    fun c hc => h'.containersDone c (h.containersDone c hc),
    fun id => (h'.definitions id).trans (h.definitions id)⟩

theorem of_resolved (hoptions : g'.options = g.options) (hprovider : g'.provider = g.provider)
    (hdone : ∀ c ∈ g.containersDone, c ∈ g'.containersDone) (hresolved : g'.resolved = g.resolved) :
    SameTypes g g' :=
  ⟨hoptions, hprovider, hdone, fun id => by rw [hresolved]⟩

/-- An entry has the definition that it had before. -/
theorem definition (h : SameTypes g g') {id : String} {t' : Target}
    (ht' : g'.resolved.get? id = some t') :
    ∃ t, g.resolved.get? id = some t ∧ t.definition = t'.definition := by
  have hsame := h.definitions id
  rw [ht', Option.map_some] at hsame
  exact Option.map_eq_some_iff.1 hsame.symm

theorem settles (h : SameTypes g g') : Settles g g' := by
  rintro c ⟨id, t', d, ht', hd, hc, hneeded, hnew⟩
  obtain ⟨t, ht, hdefinition⟩ := h.definition ht'
  refine ⟨id, t, d, ht, hdefinition.trans hd, hc, ?_, fun hdone => hnew (h.containersDone c hdone)⟩
  rwa [needsContainer, h.options] at hneeded

theorem defined (h : SameTypes g g') (hd : Defined g) : Defined g' := by
  intro id t' ht'
  obtain ⟨t, ht, hdefinition⟩ := h.definition ht'
  unfold Finds
  rw [← hdefinition, h.provider]
  exact hd id t ht

end SameTypes

theorem sameTypes_logging (g : Generator) (r : LogRecord) : SameTypes g (g.logging r) :=
  .of_resolved rfl rfl (fun _ h => h) rfl

theorem sameTypes_lookup (g : Generator) (id : String) : SameTypes g (g.lookup id).2 := by
  rcases g.lookup_cases id with ⟨_, _, _, _, h⟩ | ⟨_, h⟩ | ⟨_, _, _, h⟩ | ⟨_, _, _, h⟩
  · rw [h]; exact .refl g
  · rw [h]; exact .refl g
  · rw [h]; exact .of_resolved rfl rfl (fun _ h => h) rfl
  · rw [h]; exact .of_resolved rfl rfl (fun _ h => h) rfl

theorem sameTypes_containerName (g : Generator) (id : String) :
    SameTypes g (g.containerName id).2 := by
  have hs := sameBeyondNames_containerName g id
  exact .of_resolved hs.options hs.provider (fun _ h => hs.containersDone ▸ h) hs.resolved

theorem sameTypes_resolveContainer (g : Generator) (id : String) :
    SameTypes g (g.resolveContainer id) := by
  unfold resolveContainer
  split
  · exact .refl g
  · have hopen : ∀ (g : Generator) name, SameTypes g (g.openContainer id name) := fun _ _ =>
      .of_resolved rfl rfl (fun _ h => List.mem_cons_of_mem _ h) rfl
    exact (g.sameTypes_containerName id).trans (hopen _ _)

theorem sameTypes_foldl {α : Type} {f : Generator → α → Generator}
    (h : ∀ g a, SameTypes g (f g a)) : ∀ (as : List α) (g : Generator), SameTypes g (as.foldl f g)
  | [], g => .refl g
  | a :: as, g => (h g a).trans (sameTypes_foldl h as (f g a))

theorem sameTypes_resolveContainers (g : Generator) (ids : List String) :
    SameTypes g (g.resolveContainers ids) := sameTypes_foldl sameTypes_resolveContainer ids g

theorem sameTypes_render (g : Generator) (path : String) (parent : Parent) (tag : String)
    (d : TaskDefinition) (className : String) :
    SameTypes g (g.render path parent tag d className) := by
  rcases g.render_cases path parent tag d className with h | ⟨log, h⟩ | ⟨_, _, h⟩
  · rw [h]; exact .refl g
  · rw [h]; exact .of_resolved rfl rfl (fun _ h => h) rfl
  · have hs := sameBeyondBuilders_build g path parent tag d className
    rw [h]
    exact .of_resolved hs.options hs.provider (fun _ h => hs.containersDone ▸ h) hs.resolved

theorem sameTypes_renderInContainer (path : String) (t : Target) (d : TaskDefinition) (tag : String)
    (g : Generator) (capability : String) :
    SameTypes g (renderInContainer path t d tag g capability) := by
  unfold renderInContainer
  split
  · exact sameTypes_logging g _
  · exact ((sameTypes_resolveContainer g capability).trans (sameTypes_containerName _ _)).trans
      (sameTypes_render _ _ _ _ _ _)

theorem sameTypes_placeTarget {id : String} {t : Target} (h : g.resolved.get? id = some t) :
    SameTypes g (g.placeTarget id t) := by
  refine ⟨rfl, rfl, fun _ h => h, fun i => ?_⟩
  show ((g.resolved.insert id _).get? i).map Target.definition = _
  rw [Dict.get?_insert]
  by_cases hi : i = id
  · rw [if_pos hi, hi, h]
    rfl
  · rw [if_neg hi]

theorem sameTypes_generateConstructors (g : Generator) (id tag : String) (topLevel : Bool) :
    SameTypes g (g.generateConstructors id tag topLevel) := by
  unfold generateConstructors
  split
  · exact .refl g
  · next t ht =>
    split
    · exact .refl g
    · next d _ =>
      refine (sameTypes_placeTarget ht).trans (SameTypes.trans ?_
        (sameTypes_foldl (sameTypes_renderInContainer _ _ d tag) d.capabilities _))
      split
      · exact sameTypes_render _ _ _ _ _ _
      · exact .refl _

/-- Containers that are resolved are written, if they are needed. -/
theorem mem_containersDone_resolveContainers {ids : List String} {c : String} (hc : c ∈ ids)
    (hneeded : g.needsContainer c = true) : c ∈ (g.resolveContainers ids).containersDone := by
  induction ids generalizing g with
  | nil => cases hc
  | cons id ids ih =>
    have hs := g.sameTypes_resolveContainer id
    rcases List.mem_cons.1 hc with rfl | hc
    · exact (sameTypes_resolveContainers _ ids).containersDone c
        (mem_containersDone_resolveContainer hneeded)
    · refine ih hc ?_
      rwa [needsContainer, hs.options]

/-! ## Resolving settles -/

/-- Entering a type begins to owe the containers of its nested types. -/
theorem owes_openTarget {d : TaskDefinition} {c : String} (h : (g.openTarget d).2.Owes c) :
    g.Owes c ∨ c ∈ d.nestedTypes ∧ g.needsContainer c = true := by
  obtain ⟨id, t, d', ht, hd', hc, hneeded, hnew⟩ := h
  obtain ⟨path, hresolved⟩ := g.resolved_openTarget d
  obtain ⟨_, _, _, hdone⟩ := g.openTarget_frame d
  rw [needsContainer, (g.openTarget_names d).1] at hneeded
  rw [hresolved] at ht
  rw [hdone] at hnew
  rcases Dict.get?_insert_cases ht with ⟨rfl, rfl⟩ | ht
  · obtain rfl := Option.some.inj hd'
    exact Or.inr ⟨hc, hneeded⟩
  · exact Or.inl ⟨id, t, d', ht, hd', hc, hneeded, hnew⟩

/-- What becomes of a nested element that breaks nothing: its owner has a builder for the tag, at first or
once its type is resolved, or its type is unresolved, or its builder is rendered. -/
theorem renderNested_cons_cases {r : Resolver} {owner : Target} {e : NestedElement}
    {es : List NestedElement} (h : (renderNested r owner (e :: es) g).1 = none) :
    ∃ g', renderNested r owner (e :: es) g = renderNested r owner es g' ∧
      (g.library.containsFunction owner.className e.tag = true ∧ g' = g ∨
        g.library.containsFunction owner.className e.tag = false ∧
          ((r e.type g).1 = .unresolved ∧ (∃ note, g' = (r e.type g).2.logging note) ∨
            (r e.type g).1 = .resolved ∧
              (((r e.type g).2.library.containsFunction owner.className e.tag = true ∧
                  g' = (r e.type g).2) ∨
                ∃ t d, (r e.type g).2.resolved.get? e.type = some t ∧ t.definition = some d ∧
                  g' = (r e.type g).2.render ((r e.type g).2.targetPath owner)
                    ⟨.owner, owner.className⟩ e.tag d t.className))) := by
  rw [renderNested] at h ⊢
  cases hc : g.library.containsFunction owner.className e.tag with
  | true =>
    rw [hc, if_pos rfl] at h
    exact ⟨g, if_pos rfl, Or.inl ⟨rfl, rfl⟩⟩
  | false =>
    rw [hc] at h
    rcases hx : r e.type g with ⟨res, g₁⟩
    rw [hx] at h
    cases res with
    | crashed c => cases h
    | unresolved => exact ⟨_, rfl, Or.inr ⟨rfl, Or.inl ⟨rfl, _, rfl⟩⟩⟩
    | resolved =>
      dsimp only [Bool.false_eq_true, if_false] at h ⊢
      rcases renderElement_cases owner e g₁ with ⟨hc', hr⟩ | ⟨t, d, ht, hd, hr⟩ | hr
      · rw [hr]
        exact ⟨_, rfl, Or.inr ⟨rfl, Or.inr ⟨rfl, Or.inl ⟨hc', rfl⟩⟩⟩⟩
      · rw [hr]
        exact ⟨_, rfl, Or.inr ⟨rfl, Or.inr ⟨rfl, Or.inr ⟨t, d, ht, hd, rfl⟩⟩⟩⟩
      · rw [hr] at h
        cases h

/-- A resolver that settles what it begins to owe, unless it breaks down. -/
def Resolver.Settling (r : Resolver) : Prop :=
  ∀ id g, g.provider.Faithful → Defined g → (∀ c, (r id g).1 ≠ .crashed c) → Settles g (r id g).2

theorem settles_renderNested {r : Resolver} (hmoves : r.ByMoves) (hr : r.Settling) (owner : Target) :
    ∀ (es : List NestedElement) (g : Generator), g.provider.Faithful → Defined g →
      (renderNested r owner es g).1 = none → Settles g (renderNested r owner es g).2
  | [], _, _, _, _ => fun _ hc => hc
  | e :: es, g, hp, hd, hnone => by
    have hstep := hmoves e.type g hp
    have hsettles := hr e.type g hp hd
    have hdefined : Defined (r e.type g).2 := hstep.keeps (fun _ _ hm h => h.move hm) hd
    obtain ⟨g', he, hturn⟩ := renderNested_cons_cases hnone
    -- what follows the resolution of the element's type enters no type
    have hturn : Settles g g' ∧ g'.provider = g.provider ∧ Defined g' := by
      rcases hturn with ⟨_, rfl⟩ | ⟨_, ⟨hres, note, rfl⟩ | ⟨hres, ⟨_, rfl⟩ | ⟨t, d, _, _, rfl⟩⟩⟩
      · exact ⟨fun _ h => h, rfl, hd⟩
      · have hlog := sameTypes_logging (r e.type g).2 note
        exact ⟨(hsettles (by simp [hres])).trans hlog.settles, hstep.extends.provider,
          hlog.defined hdefined⟩
      · exact ⟨hsettles (by simp [hres]), hstep.extends.provider, hdefined⟩
      · have hs := (r e.type g).2.sameTypes_render ((r e.type g).2.targetPath owner)
          ⟨.owner, owner.className⟩ e.tag d t.className
        exact ⟨(hsettles (by simp [hres])).trans hs.settles, hs.provider.trans hstep.extends.provider,
          hs.defined hdefined⟩
    rw [he] at hnone ⊢
    exact hturn.1.trans (settles_renderNested hmoves hr owner es g' (hturn.2.1 ▸ hp) hturn.2.2 hnone)

theorem settles_addTarget {r : Resolver} (hmoves : r.ByMoves) (hr : r.Settling) {d : TaskDefinition}
    (hp : g.provider.Faithful) (hd : Defined g) (hnew : g.resolved.get? d.id = none)
    (hfound : g.Finds d.id d) (hcrash : ∀ c, (addTarget r d g).1 ≠ .crashed c) :
    Settles g (addTarget r d g).2 := by
  have hopen : Move g (g.openTarget d).2 := .openTarget hnew hfound
  rcases addTarget_cases r d g with ⟨c, g', _, h⟩ | ⟨g', hnested, h⟩
  · rw [h] at hcrash
    exact absurd rfl (hcrash c)
  · have hsettles := settles_renderNested hmoves hr (g.openTarget d).1 d.nested (g.openTarget d).2
      (hopen.extends.provider ▸ hp) (hd.move hopen) (by rw [hnested])
    rw [hnested] at hsettles
    have hcapabilities := g'.sameTypes_resolveContainers d.capabilities
    have htypes := sameTypes_resolveContainers (g'.resolveContainers d.capabilities) d.nestedTypes
    rw [h]
    intro c hc
    have howes := hsettles c ((hcapabilities.trans htypes).settles c hc)
    refine (owes_openTarget howes).resolve_right fun hnested => ?_
    -- what the type itself owed was written at last
    obtain ⟨_, _, _, _, _, _, hneeded, hmissing⟩ := hc
    refine hmissing (mem_containersDone_resolveContainers hnested.1 ?_)
    rwa [needsContainer, htypes.options] at hneeded

/-- What resolving a type comes to when all entries have definitions: there is an entry, or the type is
unknown, or it is entered. -/
theorem resolveWithin_succ_cases (hp : g.provider.Faithful) (hd : Defined g) (n : Nat) (id : String) :
    resolveWithin (n + 1) id g = (.resolved, g) ∨
    resolveWithin (n + 1) id g = (.unresolved, (g.lookup id).2) ∨
    ∃ d, d.id = id ∧ (g.lookup id).2.resolved.get? id = none ∧ (g.lookup id).2.Finds id d ∧
      resolveWithin (n + 1) id g = addTarget (resolveWithin n) d (g.lookup id).2 := by
  unfold resolveWithin
  split
  · next t ht =>
    obtain ⟨d, hdefinition, _⟩ := hd id t ht
    rw [hdefinition]
    exact Or.inl rfl
  · next hnew =>
    have hfinds : ∀ {d}, (g.lookup id).1 = some d → g.Finds id d :=
      finds_of_lookup (by rw [hnew, Option.bind_none])
    have hsame := g.resolved_lookup id
    have hprovider := (g.moves_lookup id).extends.provider
    rcases hx : g.lookup id with ⟨_ | d, g'⟩
    · exact Or.inr (Or.inl rfl)
    · rw [hx] at hfinds hsame hprovider
      obtain ⟨m, hm⟩ := hfinds rfl
      refine Or.inr (Or.inr ⟨d, hp id m d hm, hsame ▸ hnew, ⟨m, ?_⟩, rfl⟩)
      rw [hprovider]
      exact hm

/-- **Resolving a type settles what it begins to owe**, unless it breaks down. -/
theorem settles_resolveWithin : ∀ n, (resolveWithin n).Settling
  | 0, _, _, _, _, hcrash => absurd rfl (hcrash .endlessNesting)
  | n + 1, id, g, hp, hd, hcrash => by
    have hlookup := g.sameTypes_lookup id
    rcases resolveWithin_succ_cases hp hd n id with h | h | ⟨d, rfl, hnew, hfound, h⟩
    · rw [h]
      exact fun _ hc => hc
    · rw [h]
      exact hlookup.settles
    · rw [h] at hcrash ⊢
      exact hlookup.settles.trans (settles_addTarget (byMoves_resolveWithin n)
        (settles_resolveWithin n) (hlookup.provider ▸ hp) (hlookup.defined hd) hnew hfound hcrash)

/-! ## Requests that complete -/

/-- How a resolution broke down. -/
def Resolution.crash? : Resolution → Option Crash
  | .crashed c => some c
  | _ => none

/-- How a run broke down. -/
def Outcome.crash? : Outcome → Option Crash
  | .crashed c => some c
  | _ => none

/-- How a request breaks down. -/
def crash? (g : Generator) : Request → Option Crash
  | .tagAlias a => (g.resolveAlias a).1.crash?
  | .resolve id => (g.resolveClass id).1.crash?
  | .defaults ids => (defaultAliases ids g).1
  | .generate aliases defaults cancelled => (g.generate aliases defaults cancelled).1.crash?
  | .constructors _ _ _ | .containers _ | .containerName _ => none

/-- All requests are served without breaking down. -/
def Completes : Generator → List Request → Prop
  | _, [] => True
  | g, r :: rs => g.crash? r = none ∧ Completes (g.serve r) rs

theorem Resolution.ne_crashed {r : Resolution} (h : r.crash? = none) (c : Crash) :
    r ≠ .crashed c := by
  rintro rfl
  cases h

/-- A relation between the states before and after whatever a request does, unless resolving breaks down.
States satisfy `I`, which moves keep. -/
structure RequestLaw (I : Generator → Prop) (R : Generator → Generator → Prop) : Prop where
  faithful : ∀ {g}, I g → g.provider.Faithful
  moves : ∀ {g g'}, I g → Moves g g' → I g'
  refl : ∀ g, R g g
  trans : ∀ {g g' g''}, R g g' → R g' g'' → R g g''
  logging : ∀ {g}, I g → ∀ r, R g (g.logging r)
  lookup : ∀ {g}, I g → ∀ id, R g (g.lookup id).2
  containerName : ∀ {g}, I g → ∀ id, R g (g.containerName id).2
  containers : ∀ {g}, I g → ∀ ids, R g (g.resolveContainers ids)
  constructors : ∀ {g}, I g → ∀ id tag topLevel, R g (g.generateConstructors id tag topLevel)
  resolve : ∀ {g}, I g → ∀ id, (g.resolveClass id).1.crash? = none → R g (g.resolveClass id).2

namespace RequestLaw

variable {I : Generator → Prop} {R : Generator → Generator → Prop} (law : RequestLaw I R)

include law

theorem resolveAlias (hg : I g) (a : TagAlias) (h : (g.resolveAlias a).1.crash? = none) :
    R g (g.resolveAlias a).2 := by
  have hclass := law.resolve hg a.type
  have hmoves := moves_resolveClass (law.faithful hg) a.type
  unfold Generator.resolveAlias at h ⊢
  rcases hx : g.resolveClass a.type with ⟨res, g'⟩
  rw [hx] at h hclass hmoves
  cases res with
  | resolved => exact law.trans (hclass rfl) (law.constructors (law.moves hg hmoves) _ _ _)
  | unresolved => exact law.trans (hclass rfl) (law.logging (law.moves hg hmoves) _)
  | crashed c => cases h

theorem defaultAlias (hg : I g) (id : String) (h : (g.defaultAlias id).1 = none) :
    R g (g.defaultAlias id).2 := by
  have hlookup := law.lookup hg id
  have hmoves := g.moves_lookup id
  unfold Generator.defaultAlias at h ⊢
  rcases hl : g.lookup id with ⟨_ | d, g'⟩
  · rw [hl] at hlookup
    exact hlookup
  · rw [hl] at hlookup hmoves h
    dsimp only at h ⊢
    split
    · exact hlookup
    · next htop =>
      rw [if_neg htop] at h
      have hg' := law.moves hg hmoves
      have hclass := law.resolve hg' id
      have hmoves' := moves_resolveClass (law.faithful hg') id
      rcases hx : g'.resolveClass id with ⟨res, g''⟩
      rw [hx] at hclass hmoves' h
      cases res with
      | crashed c => cases h
      | unresolved => exact law.trans hlookup (hclass rfl)
      | resolved =>
        have hresolved := law.trans hlookup (hclass rfl)
        dsimp only
        split
        · exact hresolved
        · split
          · exact hresolved
          · exact law.trans hresolved (law.constructors (law.moves hg' hmoves') _ _ _)

theorem defaultAliases : ∀ (ids : List String) {g : Generator}, I g →
    (Generator.defaultAliases ids g).1 = none → R g (Generator.defaultAliases ids g).2
  | [], g, _, _ => law.refl g
  | id :: ids, g, hg, h => by
    have hmoves := moves_defaultAlias (law.faithful hg) id
    have hfirst := law.defaultAlias hg id
    unfold Generator.defaultAliases at h ⊢
    rcases hx : g.defaultAlias id with ⟨_ | c, g'⟩
    · rw [hx] at h hfirst hmoves
      exact law.trans (hfirst rfl) (defaultAliases ids (law.moves hg hmoves) h)
    · rw [hx] at h
      cases h

theorem resolveAliases : ∀ (as : List TagAlias) {g : Generator}, I g →
    (Generator.resolveAliases as g).1 = none → R g (Generator.resolveAliases as g).2
  | [], g, _, _ => law.refl g
  | a :: as, g, hg, h => by
    have hmoves := moves_resolveAlias (law.faithful hg) a
    have hfirst := law.resolveAlias hg a
    unfold Generator.resolveAliases at h ⊢
    rcases hx : g.resolveAlias a with ⟨res, g'⟩
    rw [hx] at h hfirst hmoves
    have hrest := resolveAliases as (law.moves hg hmoves)
    cases res with
    | crashed c => cases h
    | resolved => exact law.trans (hfirst rfl) (hrest h)
    | unresolved => exact law.trans (hfirst rfl) (hrest h)

theorem generate (hg : I g) {aliases : List TagAlias} {defaults : List String}
    {cancelled : Cancellation} (h : (g.generate aliases defaults cancelled).1.crash? = none) :
    R g (g.generate aliases defaults cancelled).2 := by
  have hmoves := moves_resolveAliases (cancelled.reached aliases) g (law.faithful hg)
  have haliases := law.resolveAliases (cancelled.reached aliases) hg
  unfold Generator.generate at h ⊢
  rcases hx : Generator.resolveAliases (cancelled.reached aliases) g with ⟨_ | c, g'⟩
  · rw [hx] at h haliases hmoves
    have hdefaults := law.defaultAliases defaults (law.moves hg hmoves)
    dsimp only at h ⊢
    split
    · exact haliases rfl
    · next hrun =>
      rw [if_neg hrun] at h
      rcases hy : Generator.defaultAliases defaults g' with ⟨_ | c, g''⟩
      · rw [hy] at hdefaults
        exact law.trans (haliases rfl) (hdefaults rfl)
      · rw [hy] at h
        cases h
  · rw [hx] at h
    cases h

theorem serve (hg : I g) {r : Request} (h : g.crash? r = none) : R g (g.serve r) := by
  cases r with
  | tagAlias a => exact law.resolveAlias hg a h
  | resolve id => exact law.resolve hg id h
  | constructors id tag topLevel => exact law.constructors hg id tag topLevel
  | defaults ids => exact law.defaultAliases ids hg h
  | containers ids => exact law.containers hg ids
  | containerName id => exact law.containerName hg id
  | generate aliases defaults cancelled => exact law.generate hg h

/-- **What holds across everything that a request does holds across requests that complete.** -/
theorem serveAll : ∀ (rs : List Request) {g : Generator}, I g → g.Completes rs → R g (g.serveAll rs)
  | [], g, _, _ => law.refl g
  | r :: rs, _, hg, hcompletes => law.trans (law.serve hg hcompletes.1)
      (serveAll rs (law.moves hg (moves_serve (law.faithful hg) r)) hcompletes.2)

end RequestLaw

theorem requestLaw_settles : RequestLaw (fun g => g.provider.Faithful ∧ Defined g) Settles where
  faithful := And.left
  moves := fun h hm => ⟨hm.extends.provider ▸ h.1, hm.keeps (fun _ _ hm h => h.move hm) h.2⟩
  refl := fun _ _ hc => hc
  trans := Settles.trans
  logging := fun _ r => (sameTypes_logging _ r).settles
  lookup := fun _ id => (sameTypes_lookup _ id).settles
  containerName := fun _ id => (sameTypes_containerName _ id).settles
  containers := fun _ ids => (sameTypes_resolveContainers _ ids).settles
  constructors := fun _ id tag topLevel => (sameTypes_generateConstructors _ id tag topLevel).settles
  resolve := fun h id hcrash => settles_resolveWithin _ id _ h.1 h.2 (Resolution.ne_crashed hcrash)

/-- **After requests that complete nothing new is owed.** -/
theorem settles_serveAll (rs : List Request) (g : Generator) (hp : g.provider.Faithful)
    (hd : Defined g) (hcompletes : g.Completes rs) : Settles g (g.serveAll rs) :=
  requestLaw_settles.serveAll rs ⟨hp, hd⟩ hcompletes

/-! ## Providers that never make a run break down -/

section Listed

variable (hp : g.provider.Faithful) (hl : g.provider.Listed)

include hp hl

theorem answered_resolveClass (id : String) : Answered id (g.resolveClass id) :=
  answered_resolveWithin _ id g hp hl g.card_pending_lt_nestingBound

theorem crash?_resolveClass (id : String) : (g.resolveClass id).1.crash? = none := by
  rcases answered_resolveClass hp hl id with ⟨h, _⟩ | ⟨h, _⟩
  · rw [h]; rfl
  · rw [h]; rfl

theorem crash?_resolveAlias (a : TagAlias) : (g.resolveAlias a).1.crash? = none := by
  have hclass := crash?_resolveClass hp hl a.type
  unfold resolveAlias
  rcases hx : g.resolveClass a.type with ⟨res, g'⟩
  rw [hx] at hclass
  cases res with
  | resolved => rfl
  | unresolved => rfl
  | crashed c => cases hclass

theorem fst_defaultAlias (id : String) : (g.defaultAlias id).1 = none := by
  have hmoves := g.moves_lookup id
  unfold defaultAlias
  rcases hx : g.lookup id with ⟨_ | d, g'⟩
  · rfl
  · rw [hx] at hmoves
    have hanswered := answered_resolveClass (hmoves.extends.provider ▸ hp)
      (hmoves.extends.provider ▸ hl) id
    dsimp only
    split
    · rfl
    · rcases hy : g'.resolveClass id with ⟨res, g''⟩
      rw [hy] at hanswered
      rcases hanswered with ⟨rfl, t, d, ht, _⟩ | ⟨rfl, _⟩
      · dsimp only at ht ⊢
        rw [ht]
        dsimp only
        split <;> rfl
      · rfl

end Listed

theorem fst_defaultAliases : ∀ (ids : List String) (g : Generator), g.provider.Faithful →
    g.provider.Listed → (defaultAliases ids g).1 = none
  | [], _, _, _ => rfl
  | id :: ids, g, hp, hl => by
    have hmoves := moves_defaultAlias hp id
    have hfirst := fst_defaultAlias hp hl id
    unfold defaultAliases
    rcases hx : g.defaultAlias id with ⟨_ | c, g'⟩
    · rw [hx] at hmoves
      exact fst_defaultAliases ids g' (hmoves.extends.provider ▸ hp) (hmoves.extends.provider ▸ hl)
    · rw [hx] at hfirst
      cases hfirst

theorem fst_resolveAliases : ∀ (as : List TagAlias) (g : Generator), g.provider.Faithful →
    g.provider.Listed → (resolveAliases as g).1 = none
  | [], _, _, _ => rfl
  | a :: as, g, hp, hl => by
    have hmoves := moves_resolveAlias hp a
    have hfirst := crash?_resolveAlias hp hl a
    unfold resolveAliases
    rcases hx : g.resolveAlias a with ⟨res, g'⟩
    rw [hx] at hmoves hfirst
    have hrest := fst_resolveAliases as g' (hmoves.extends.provider ▸ hp)
      (hmoves.extends.provider ▸ hl)
    cases res with
    | crashed c => cases hfirst
    | resolved => exact hrest
    | unresolved => exact hrest

/-- Over a listed provider no request breaks down. -/
theorem crash?_of_listed (hp : g.provider.Faithful) (hl : g.provider.Listed) (r : Request) :
    g.crash? r = none := by
  cases r with
  | tagAlias a => exact crash?_resolveAlias hp hl a
  | resolve id => exact crash?_resolveClass hp hl id
  | constructors id tag topLevel => rfl
  | defaults ids => exact fst_defaultAliases ids g hp hl
  | containers ids => rfl
  | containerName id => rfl
  | generate aliases defaults cancelled =>
    have hmoves := moves_resolveAliases (cancelled.reached aliases) g hp
    have haliases := fst_resolveAliases (cancelled.reached aliases) g hp hl
    have hdefaults := fst_defaultAliases defaults (resolveAliases (cancelled.reached aliases) g).2
      (hmoves.extends.provider ▸ hp) (hmoves.extends.provider ▸ hl)
    show (g.generate aliases defaults cancelled).1.crash? = none
    unfold generate
    rcases hx : resolveAliases (cancelled.reached aliases) g with ⟨_ | c, g'⟩
    · rw [hx] at hdefaults
      dsimp only
      split
      · rfl
      · rcases hy : defaultAliases defaults g' with ⟨_ | c, g''⟩
        · show g''.outcome.crash? = none
          unfold outcome
          split <;> rfl
        · rw [hy] at hdefaults
          cases hdefaults
    · rw [hx] at haliases
      cases haliases

/-- **Over a listed provider all requests complete.** -/
theorem completes_of_listed : ∀ (rs : List Request) (g : Generator), g.provider.Faithful →
    g.provider.Listed → g.Completes rs
  | [], _, _, _ => trivial
  | r :: rs, g, hp, hl => by
    have hprovider := (moves_serve hp r).extends.provider
    exact ⟨crash?_of_listed hp hl r,
      completes_of_listed rs (g.serve r) (hprovider ▸ hp) (hprovider ▸ hl)⟩

end TaskBuilders.Generator
