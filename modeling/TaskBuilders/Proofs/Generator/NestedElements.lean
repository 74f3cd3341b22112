import TaskBuilders.Proofs.Generator.Carrying

/-!
# Methods for all nested elements

The methods of a type are written one after the other, while all types that are nested in it are resolved,
and these may nest the type again. What is resolved in between leaves the type alone, because it has its
entry already: it carries in the end what its list of nested elements alone decides.

* `Filled` — a type carries all its nested elements that are built
* `Fills` — types that are entered are filled, and no other type gets methods
* `carries_turn`, `fills_renderNested` — one nested element, and all of them
* `filling_resolveWithin` — resolving a type fills what it enters
* `nestedElements_complete` — all types, after requests that complete
-/

namespace TaskBuilders.Generator

open NestedElement Text

variable {g g' g'' : Generator}

/-! ## Types that are filled -/

/-- A type whose identifier is no key of a container has the methods of all its nested elements that are
built. -/
def Filled (g : Generator) (id : String) : Prop :=
  hasLeading "container:" id = false → ∀ t, g.resolved.get? id = some t →
    ∃ d, t.definition = some d ∧ Carries g t.className (builtElements g.provider.defines d.nested)

/-- A type without an entry has nothing to carry. -/
theorem filled_of_none {id : String} (h : g.resolved.get? id = none) : g.Filled id := by
  intro _ t ht
  rw [h] at ht
  cases ht

/-- A type that gets no methods stays filled. -/
theorem Filled.keep {id : String} {t : Target} (h : g.Filled id) (he : Extends g g')
    (ht : g.resolved.get? id = some t)
    (hmethods : ∀ b ∈ g'.decls, b.parent = ⟨.owner, t.className⟩ → b ∈ g.decls) : g'.Filled id := by
  intro hplain t' ht'
  obtain ⟨d, hd, hcarries⟩ := h hplain t ht
  obtain ⟨u, hu, hclass, hdefinition⟩ := he.resolved id t ht
  obtain rfl := Option.some.inj (hu.symm.trans ht')
  refine ⟨d, hdefinition d hd, ?_⟩
  rw [hclass, he.provider]
  exact hcarries.keep he hmethods

/-- Types that are entered are filled, and types that were there get no methods, but for some of them. -/
structure Fills (own : String → Prop) (g g' : Generator) : Prop where
  keeps : Extends g g'
  methods : ∀ id t, ¬ own id → g.resolved.get? id = some t →
    ∀ b ∈ g'.decls, b.parent = ⟨.owner, t.className⟩ → b ∈ g.decls
  entries : ∀ id, ¬ own id → g.resolved.get? id = none → g'.Filled id

namespace Fills

variable {own own' : String → Prop}

theorem refl (g : Generator) : Fills own g g where
  keeps := .refl g
  methods := fun _ _ _ _ _ hb _ => hb
  entries := fun _ _ hnew => filled_of_none hnew

theorem trans (h : Fills own g g') (h' : Fills own g' g'') : Fills own g g'' where
  keeps := h.keeps.trans h'.keeps
  methods := by
    intro id t hown ht b hb hparent
    obtain ⟨t', ht', hclass, _⟩ := h.keeps.resolved id t ht
    exact h.methods id t hown ht b (h'.methods id t' hown ht' b hb (hclass ▸ hparent)) hparent
  entries := by
    intro id hown hnew
    cases hid : g'.resolved.get? id with
    | none => exact h'.entries id hown hid
    | some t => exact (h.entries id hown hnew).keep h'.keeps hid (h'.methods id t hown hid)

theorem mono (h : Fills own g g') (hown : ∀ id, own id → own' id) : Fills own' g g' where
  keeps := h.keeps
  methods := fun id t hid => h.methods id t fun h => hid (hown id h)
  entries := fun id hid => h.entries id fun h => hid (hown id h)

/-- Nothing but functions of the package is written, and no type is entered. -/
theorem of_leaves (h : Leaves (·.kind ≠ .owner) (fun _ => False) g g') (hs : SameTypes g g') :
    Fills own g g' where
  keeps := h.keeps
  methods := by
    intro _ _ _ _ b hb hparent
    rcases h.decls b hb with hb | hkind | ⟨i, u, hnew, hu, _⟩
    · exact hb
    · exact absurd (by rw [hparent]) hkind
    · obtain ⟨v, hv, _⟩ := hs.definition hu
      rw [hnew] at hv
      cases hv
  entries := by
    intro id _ hnew
    refine filled_of_none ?_
    cases hid : g'.resolved.get? id with
    | none => rfl
    | some t =>
      obtain ⟨u, hu, _⟩ := hs.definition hid
      rw [hnew] at hu
      cases hu

/-- A type that is new and filled counts with the others. -/
theorem close {id : String} (h : Fills (· = id) g g') (hnew : g.resolved.get? id = none)
    (hfilled : g'.Filled id) : Fills (fun _ => False) g g' where
  keeps := h.keeps
  methods := by
    intro i t _ ht
    refine h.methods i t ?_ ht
    rintro rfl
    rw [hnew] at ht
    cases ht
  entries := by
    intro i _ hi
    by_cases he : i = id
    · exact he ▸ hfilled
    · exact h.entries i he hi

end Fills

/-- Entering a type writes no methods. -/
theorem fills_openTarget {d : TaskDefinition} (hnew : g.resolved.get? d.id = none)
    (hfound : g.Finds d.id d) : Fills (· = d.id) g (g.openTarget d).2 where
  keeps := (Move.openTarget hnew hfound).extends
  methods := by
    intro _ _ _ _ b hb _
    obtain ⟨w, _, hperm⟩ := g.blocks_openTarget d
    exact (decls_of_perm_wrapper hperm).subset hb
  entries := by
    intro id hid hnone
    obtain ⟨path, hresolved⟩ := g.resolved_openTarget d
    refine filled_of_none ?_
    rw [hresolved, Dict.get?_insert_of_ne _ _ hid]
    exact hnone

/-- Rendering a method of a type writes no methods of other types. -/
theorem fills_render (hn : Named g) {owner path tag type : String} {t u : Target} {d : TaskDefinition}
    (ht : g.resolved.get? owner = some t) (hbuilds : Builds path type u.className d g)
    (hhosts : g.Hosts ⟨.owner, t.className⟩) :
    Fills (· = owner) g (g.render path ⟨.owner, t.className⟩ tag d u.className) where
  keeps := (hbuilds.moves_render tag hhosts).extends
  methods := by
    intro id v hid hv b hb hparent
    rcases decls_render hbuilds.hasFile _ tag d u.className hb with hb | he
    · exact hb
    · have hclass : t.className = v.className := congrArg Parent.type (he.symm.trans hparent)
      exact absurd (hn.eq_of_className ht hv hclass).symm hid
  entries := by
    intro id _ hnew
    refine filled_of_none ?_
    have hsame := (g.sameTypes_render path ⟨.owner, t.className⟩ tag d u.className).definitions id
    rw [hnew, Option.map_none, Option.map_eq_none_iff] at hsame
    exact hsame

/-- A type carries nothing when it is entered. -/
theorem Coherent.carries_openTarget (h : Coherent g) {d : TaskDefinition}
    (hnew : g.resolved.get? d.id = none) (hfound : g.Finds d.id d) :
    Carries (g.openTarget d).2 (g.openTarget d).1.className [] where
  sound := by
    intro b hb hparent
    have hmove : Move g (g.openTarget d).2 := .openTarget hnew hfound
    obtain ⟨w, _, hperm⟩ := g.blocks_openTarget d
    have hhosts := h.hosted b ((decls_of_perm_wrapper hperm).subset hb)
    have hentry : (g.openTarget d).2.resolved.get? d.id = some (g.openTarget d).1 :=
      Dict.get?_insert_self _ d.id _
    -- the builder would hang off a type that was there before
    generalize b.parent = parent at hhosts hparent
    cases hhosts with
    | root => cases hparent
    | container _ _ => cases hparent
    | @owner w t _ ht =>
      obtain ⟨t', ht', hclass, _⟩ := hmove.extends.resolved w.source t ht
      have he : t'.className = (g.openTarget d).1.className := hclass.trans (Parent.mk.inj hparent).2
      rw [(h.move hmove).declared.named.eq_of_className ht' hentry he, hnew] at ht
      cases ht
  complete := fun _ he => absurd he List.not_mem_nil

/-! ## Resolving fills -/

/-- A resolver that fills what it enters, unless it breaks down, and that leaves unresolved what is not
known. -/
structure Resolver.Filling (r : Resolver) : Prop where
  fills : ∀ id g, Coherent g → (∀ c, (r id g).1 ≠ .crashed c) → Fills (fun _ => False) g (r id g).2
  unknown : ∀ id g, Coherent g → (r id g).1 = .unresolved → g.provider.definition? id = none

/-- **One nested element**: its owner carries it from then on if it is built, and all types that are
entered for it are filled. -/
theorem carries_turn {r : Resolver} (hmoves : r.ByMoves) (hr : r.Filling) {owner t : Target}
    {path : String} (hpath : owner.file = some path) (hclass : t.className = owner.className)
    (hg : Coherent g) (hfile : g.HasFile path) (hhosts : g.Hosts ⟨.owner, owner.className⟩)
    (ht : g.resolved.get? owner.id = some t) {e : NestedElement} {es : List NestedElement}
    (hnone : (renderNested r owner (e :: es) g).1 = none) :
    ∃ g', renderNested r owner (e :: es) g = renderNested r owner es g' ∧ Moves g g' ∧
      Fills (· = owner.id) g g' ∧ ∀ built, hasLeading "container:" owner.id = false →
        Carries g owner.className built →
          Carries g' owner.className (joining g.provider.defines built e) := by
  obtain ⟨g', he, hturn⟩ := renderNested_cons_cases hnone
  refine ⟨g', he, ?_⟩
  have hstep := hmoves e.type g hg.truthful.faithful
  have hg₁ := hg.moves hstep
  obtain ⟨t₁, ht₁, hclass₁, _⟩ := hstep.extends.resolved owner.id t ht
  -- resolving the type of the element leaves its owner alone
  have hfills := hr.fills e.type g hg
  have hkeep : ∀ built, (∀ c, (r e.type g).1 ≠ .crashed c) → Carries g owner.className built →
      Carries (r e.type g).2 owner.className built := fun built hcrash hcarries =>
    hcarries.keep hstep.extends (hclass ▸ (hfills hcrash).methods owner.id t not_false ht)
  rcases hturn with ⟨hc, rfl⟩ | ⟨hnew, ⟨hres, note, rfl⟩ | ⟨hres, ⟨hc, rfl⟩ | ⟨u, d, hu, hd, rfl⟩⟩⟩
  · refine ⟨.refl, .refl g', fun built hplain hcarries => ?_⟩
    have htaken : ¬ Vacant built (lowercase e.tag) := by
      rw [← hclass] at hcarries hc
      rw [← hcarries.containsFunction_eq_false_iff hg ht hplain, hc]
      nofun
    rw [joining, if_neg fun h => htaken h.2]
    exact hcarries
  · have hcrash : ∀ c, (r e.type g).1 ≠ .crashed c := by simp [hres]
    have hlog : Leaves (·.kind ≠ .owner) (fun _ => False) (r e.type g).2
        ((r e.type g).2.logging note) := leaves_logging _ note
    refine ⟨hstep.trans (moves_logging _ note), ((hfills hcrash).mono fun _ h => h.elim).trans
      (.of_leaves hlog (sameTypes_logging _ note)), fun built _ hcarries => ?_⟩
    have hunknown := Provider.defines_eq_false_iff.2 (hr.unknown e.type g hg hres)
    have hrefused : ¬ e.Suits g.provider.defines built := by
      rintro ⟨hknown, _⟩
      rw [hunknown] at hknown
      cases hknown
    rw [joining, if_neg fun h => hrefused h.1]
    exact (hkeep built hcrash hcarries).keep hlog.keeps fun _ hb _ => hb
  · -- the owner would carry the same elements before and after
    have hcrash : ∀ c, (r e.type g).1 ≠ .crashed c := by simp [hres]
    refine ⟨hstep, (hfills hcrash).mono fun _ h => h.elim, fun built hplain hcarries => ?_⟩
    have hafter := hkeep built hcrash hcarries
    rw [← hclass] at hcarries hnew
    rw [← hclass, ← hclass₁] at hafter hc
    rw [hcarries.containsFunction_eq_false_iff hg ht hplain] at hnew
    rw [(hafter.containsFunction_eq_false_iff hg₁ ht₁ hplain _).2 hnew] at hc
    cases hc
  · have hcrash : ∀ c, (r e.type g).1 ≠ .crashed c := by simp [hres]
    have htarget : (r e.type g).2.targetPath owner = path := by rw [targetPath, hpath, Option.getD_some]
    have hbuilds : Builds path e.type u.className d (r e.type g).2 :=
      ⟨hstep.extends.hasFile path hfile, u, hu, rfl, hd⟩
    have hhosts₁ := hstep.extends.hosts hhosts
    rw [htarget]
    rw [← hclass, ← hclass₁] at hhosts₁ hkeep ⊢
    refine ⟨hstep.trans (hbuilds.moves_render e.tag hhosts₁), ((hfills hcrash).mono fun _ h =>
      h.elim).trans (fills_render hg₁.declared.named ht₁ hbuilds hhosts₁), ?_⟩
    intro built hplain hcarries
    rw [← hstep.extends.provider]
    exact (hkeep built hcrash hcarries).render hg₁ ht₁ hplain hbuilds hu hd hhosts₁

/-- **All nested elements**: their owner carries those that are built. -/
theorem fills_renderNested {r : Resolver} (hmoves : r.ByMoves) (hr : r.Filling) {owner : Target}
    {path : String} (hpath : owner.file = some path) :
    ∀ (es : List NestedElement) (g : Generator), Coherent g → g.HasFile path →
      g.Hosts ⟨.owner, owner.className⟩ →
      (∃ t, g.resolved.get? owner.id = some t ∧ t.className = owner.className) →
      (renderNested r owner es g).1 = none →
      Fills (· = owner.id) g (renderNested r owner es g).2 ∧
        ∀ built, hasLeading "container:" owner.id = false → Carries g owner.className built →
          Carries (renderNested r owner es g).2 owner.className
            (es.foldl (joining g.provider.defines) built)
  | [], g, _, _, _, _, _ => ⟨.refl g, fun _ _ h => h⟩
  | e :: es, g, hg, hfile, hhosts, ⟨t, ht, hclass⟩, hnone => by
    obtain ⟨g', he, hstep, hfills, hcarries⟩ :=
      carries_turn hmoves hr hpath hclass hg hfile hhosts ht hnone
    obtain ⟨t', ht', hclass', _⟩ := hstep.extends.resolved owner.id t ht
    rw [he] at hnone ⊢
    have hrest := fills_renderNested hmoves hr hpath es g' (hg.moves hstep)
      (hstep.extends.hasFile path hfile) (hstep.extends.hosts hhosts)
      ⟨t', ht', hclass'.trans hclass⟩ hnone
    rw [hstep.extends.provider] at hrest
    exact ⟨hfills.trans hrest.1, fun built hplain h => hrest.2 _ hplain (hcarries built hplain h)⟩

theorem fills_resolveContainers (g : Generator) (ids : List String) {own : String → Prop} :
    Fills own g (g.resolveContainers ids) :=
  .of_leaves (leaves_resolveContainers ids g) (g.sameTypes_resolveContainers ids)

/-- A type that is entered is filled when its nested elements and its containers are done. -/
theorem fills_addTarget {r : Resolver} (hmoves : r.ByMoves) (hr : r.Filling) {d : TaskDefinition}
    (hg : Coherent g) (hnew : g.resolved.get? d.id = none) (hfound : g.Finds d.id d)
    (hcrash : ∀ c, (addTarget r d g).1 ≠ .crashed c) :
    Fills (fun _ => False) g (addTarget r d g).2 := by
  have hopen : Move g (g.openTarget d).2 := .openTarget hnew hfound
  obtain ⟨path, hpath, hfile, hhosts⟩ := g.openTarget_hosts d
  have hentry : (g.openTarget d).2.resolved.get? d.id = some (g.openTarget d).1 :=
    Dict.get?_insert_self _ d.id _
  rcases addTarget_cases r d g with ⟨c, g', _, h⟩ | ⟨g', hnested, h⟩
  · rw [h] at hcrash
    exact absurd rfl (hcrash c)
  · have hfills := fills_renderNested hmoves hr hpath d.nested (g.openTarget d).2 (hg.move hopen) hfile
      hhosts ⟨_, hentry, rfl⟩ (by rw [hnested])
    rw [hnested] at hfills
    have hcarries := fun hplain => hfills.2 [] hplain (hg.carries_openTarget hnew hfound)
    have hrest : ∀ own, Fills own g'
        ((g'.resolveContainers d.capabilities).resolveContainers d.nestedTypes) := fun _ =>
      (fills_resolveContainers g' _).trans (fills_resolveContainers _ _)
    rw [h]
    refine (((fills_openTarget hnew hfound).trans hfills.1).trans (hrest _)).close hnew ?_
    obtain ⟨t, ht, hclass, hdefinition⟩ := hfills.1.keeps.resolved d.id _ hentry
    have hfilled : g'.Filled d.id := by
      intro hplain t' ht'
      obtain rfl := Option.some.inj (ht.symm.trans ht')
      refine ⟨d, hdefinition d rfl, ?_⟩
      rw [hclass, hfills.1.keeps.provider]
      exact hcarries hplain
    -- the containers of the type add nothing to its methods
    have hall := hrest fun _ => False
    exact hfilled.keep hall.keeps ht (hall.methods d.id t not_false ht)

/-- **Resolving a type fills what it enters**, unless it breaks down. -/
theorem filling_resolveWithin : ∀ n, (resolveWithin n).Filling
  | 0 => ⟨fun _ _ _ hcrash => absurd rfl (hcrash .endlessNesting), nofun⟩
  | n + 1 => by
    refine ⟨fun id g hg hcrash => ?_, fun id g hg hres => ?_⟩
    · have hlookup : Fills (fun _ => False) g (g.lookup id).2 :=
        .of_leaves (g.leaves_lookup id) (g.sameTypes_lookup id)
      rcases resolveWithin_succ_cases hg.truthful.faithful hg.defined n id with
        h | h | ⟨d, rfl, hnew, hfound, h⟩
      · rw [h]
        exact .refl g
      · rw [h]
        exact hlookup
      · rw [h] at hcrash ⊢
        exact hlookup.trans (fills_addTarget (byMoves_resolveWithin n) (filling_resolveWithin n)
          (hg.moves (g.moves_lookup d.id)) hnew hfound hcrash)
    · rw [← (hg.truthful.lookup id).1]
      exact lookup_of_unresolved hres

/-! ## After requests -/

theorem requestLaw_fills : RequestLaw Coherent (Fills fun _ => False) where
  faithful := fun h => h.truthful.faithful
  moves := fun h hm => h.moves hm
  refl := Fills.refl
  trans := Fills.trans
  logging := fun _ r => .of_leaves (leaves_logging _ r) (sameTypes_logging _ r)
  lookup := fun _ id => .of_leaves (leaves_lookup _ id) (sameTypes_lookup _ id)
  containerName := fun _ id => .of_leaves (leaves_containerName _ id) (sameTypes_containerName _ id)
  containers := fun _ ids => fills_resolveContainers _ ids
  constructors := fun _ id tag topLevel => .of_leaves (leaves_generateConstructors _ id tag topLevel)
    (sameTypes_generateConstructors _ id tag topLevel)
  resolve := fun h id hcrash =>
    (filling_resolveWithin _).fills id _ h (Resolution.ne_crashed hcrash)

/-- **Nested elements are complete.** After requests that complete over a provider that always answers
alike, with definitions of the identifiers it is asked for; all requests complete if the provider finds
nothing that it does not list. For every resolved type whose identifier does not begin like the keys of
containers: each of its nested elements has a builder for its tag on the class, or its type is unknown, or
the method of an earlier element has one of the two names. Each builder on the class is for the first
nested element of its tag, whatever the case, that has a known type and whose names were free when its turn
came, and it makes the class of that type. The methods of the type are those of the elements that are
built. -/
theorem nestedElements_complete {p : Provider} {o : GeneratorOptions} {g₀ : Generator}
    (hf : p.Faithful) (hs : p.Stateless) (hnew : Generator.new p o = .ok g₀) (rs : List Request) :
    let g := g₀.serveAll rs
    (p.Listed → g₀.Completes rs) ∧
    (g₀.Completes rs → ∀ id t, g.resolved.get? id = some t →
      hasLeading "container:" id = false → ∃ d, p.definition? id = some d ∧
      (∀ pre e post, d.nested = pre ++ e :: post →
        g.library.containsFunction t.className e.tag = true ∨ p.definition? e.type = none ∨
        ∃ b ∈ g.decls, b.parent = ⟨.owner, t.className⟩ ∧ b.funcName ∈ e.methods ∧
          ∃ e' ∈ pre, b.tag = e'.tag) ∧
      (∀ key f, g.library.functionAt? t.className key = some f → ∃ pre e post,
        d.nested = pre ++ e :: post ∧ lowercase e.tag = key ∧
        e.Suits p.defines (builtElements p.defines pre) ∧
        (∀ pre' e' post', pre = pre' ++ e' :: post' → lowercase e'.tag = key →
          ¬ e'.Suits p.defines (builtElements p.defines pre')) ∧
        ∃ u, g.resolved.get? e.type = some u ∧ f.initReceiver = u.className) ∧
      ∀ name, (∃ b ∈ g.decls, b.parent = ⟨.owner, t.className⟩ ∧ b.funcName = name) ↔
        ∃ e ∈ builtElements p.defines d.nested, name ∈ e.methods) := by
  intro g
  have hfresh := fresh_of_new hnew
  have hg₀ : Coherent g₀ := .fresh hf hs hfresh
  have hg : Coherent g := hg₀.moves (moves_serveAll hg₀.truthful.faithful rs)
  refine ⟨fun hl => completes_of_listed rs g₀ hg₀.truthful.faithful (hfresh.provider ▸ hl.safe),
    fun hfilleds id t ht hplain => ?_⟩
  have hfills := requestLaw_fills.serveAll rs hg₀ hfilleds
  have hprovider : g.provider = p.safe := hfills.keeps.provider.trans hfresh.provider
  have hnone : g₀.resolved.get? id = none := by
    rw [hfresh.resolved]
    rfl
  obtain ⟨d, hd, hcarries⟩ := hfills.entries id not_false hnone hplain t ht
  rw [hprovider, Provider.defines_safe] at hcarries
  refine ⟨d, ?_, fun pre e post hes => ?_, fun key f hkey => ?_, hcarries.method_iff hg.indexed⟩
  · rw [← Provider.definition?_safe, ← hprovider]
    exact hg.truthful.definition id t d ht hd
  · rw [hcarries.containsFunction_iff hg ht hplain]
    refine (built_complete hes).imp_right (Or.imp Provider.defines_eq_false_iff.1 ?_)
    rintro ⟨x, hx, name, hname, hclash⟩
    obtain ⟨form, rfl⟩ := mem_methods_iff.1 hclash
    obtain ⟨b, hb, hparent, htag, rfl⟩ :=
      hcarries.complete x (hes ▸ builtElements_subset_append pre _ hx) form
    have hfunc := (hg.indexed.planned b hb).funcName_eq_method (by rw [hparent]) htag
    obtain ⟨_, _, hpre, _⟩ := mem_built_iff.1 hx
    exact ⟨b, hb, hparent, hfunc ▸ hname, x, by simp [hpre], htag⟩
  · obtain ⟨b, hb, hparent, rfl, helement⟩ := hg.exists_method ht hplain hkey
    obtain ⟨e, hmem, htag, u, hu, hclass⟩ := hcarries.sound b hb hparent
    obtain ⟨pre, post, hes, hsuits, hfirst⟩ := first_of_mem_built hmem
    rw [htag]
    exact ⟨pre, e, post, hes, rfl, hsuits, hfirst, u, hu, helement.symm.trans hclass⟩

/-- A stall whose elements compete: the first is of an unknown type, two differ in the case of their tags,
and one is called like the immediate form of another. -/
def stall : TaskDefinition :=
  { id := "x.Stall", nested := [⟨"gone", "x.None"⟩, ⟨"item", "x.Item"⟩, ⟨"ITEM", "x.Box"⟩,
      ⟨"itemWith", "x.Box"⟩, ⟨"Gone", "x.Box"⟩] }

/-- The items of the stall nest it again. -/
def stallTypes : List TaskDefinition :=
  [stall, { id := "x.Item", nested := [⟨"stall", "x.Stall"⟩] }, { id := "x.Box" }]

/-- The unknown type does not block the tag, the first of two cases wins, and the name that is taken leaves
its element without a builder. -/
theorem nestedElements_complete_stallTypes :
    (Provider.static stallTypes).Faithful ∧ (Provider.static stallTypes).Stateless ∧
    ∃ g₀, Generator.new (.static stallTypes) { importPath := "m/out", runtimePath := "m/rt" } = .ok g₀ ∧
      let g := g₀.serveAll [.tagAlias ⟨"stall", "x.Item", true⟩]
      (g.resolved.get? "x.Stall").map (·.className) = some "m/out.DSLStall" ∧
      ["item", "gone", "itemWith"].map (fun tag =>
          (g.library.function? "m/out.DSLStall" tag).map (·.initReceiver)) =
        [some "m/out.DSLItem", some "m/out.DSLBox", none] ∧
      (g.library.containsFunction "m/out.DSLStall" "itemWith" = true ∨
        (Provider.static stallTypes).definition? "x.Box" = none ∨
        ∃ b ∈ g.decls, b.parent = ⟨.owner, "m/out.DSLStall"⟩ ∧
          b.funcName ∈ (⟨"itemWith", "x.Box"⟩ : NestedElement).methods ∧
          ∃ e' ∈ ([⟨"gone", "x.None"⟩, ⟨"item", "x.Item"⟩, ⟨"ITEM", "x.Box"⟩] : List NestedElement),
            b.tag = e'.tag) := by
  refine ⟨Provider.faithful_static _, Provider.stateless_static _, _, rfl, ?_⟩
  have h := nestedElements_complete (p := .static stallTypes)
    (o := { importPath := "m/out", runtimePath := "m/rt" }) (Provider.faithful_static _)
    (Provider.stateless_static _) rfl [.tagAlias ⟨"stall", "x.Item", true⟩]
  dsimp only at h ⊢
  have hcompletes := h.1 (Provider.listed_static _)
  generalize hg : Generator.serveAll _ _ = g at h ⊢
  have hrun : (g.resolved.get? "x.Stall").map (·.className) = some "m/out.DSLStall" ∧
      ["item", "gone", "itemWith"].map (fun tag =>
          (g.library.function? "m/out.DSLStall" tag).map (·.initReceiver)) =
        [some "m/out.DSLItem", some "m/out.DSLBox", none] := by
    rw [← hg]
    decide +kernel
  refine ⟨hrun.1, hrun.2, ?_⟩
  obtain ⟨t, ht, hclass⟩ := Option.map_eq_some_iff.1 hrun.1
  obtain ⟨d, hd, hcomplete, _⟩ := h.2 hcompletes "x.Stall" t ht (by decide)
  have hstall : (Provider.static stallTypes).definition? "x.Stall" = some stall := rfl
  obtain rfl := Option.some.inj (hd.symm.trans hstall)
  rw [← hclass]
  exact hcomplete [⟨"gone", "x.None"⟩, ⟨"item", "x.Item"⟩, ⟨"ITEM", "x.Box"⟩] ⟨"itemWith", "x.Box"⟩
    [⟨"Gone", "x.Box"⟩] rfl

end TaskBuilders.Generator
