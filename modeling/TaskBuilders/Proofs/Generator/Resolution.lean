import Mathlib.Data.Finset.Card
import Mathlib.Data.List.Count
import TaskBuilders.Proofs.Generator.Names
import TaskBuilders.Proofs.Generator.Written

/-!
# Resolution

Types may nest each other in circles. A type is entered before its nested types are looked at, so
along a nesting the number of known types without an entry falls, and with one level more than there
are such types no bound is reached.

* `OneWrapperEach` — the wrappers that were written are those of the resolved types, each once
* `Informed` — what is resolved is known, and what is missing is not
* `resolveWithin_mono` — an answer within a bound is the answer within every larger bound
* `answered_resolveWithin` — a bound above the number of known types without an entry is enough
* `resolveClass_settles` — what resolving a type does after every sequence of requests
-/

namespace TaskBuilders.Generator

open Naming Source

variable {g g' : Generator}

/-! ## Wrappers -/

/-- The wrappers that were written are those of the resolved types, each once. -/
def OneWrapperEach (g : Generator) : Prop := (g.wrappers.map (·.source)).Perm g.resolved.keys

theorem OneWrapperEach.of_same (h : OneWrapperEach g) (hwrappers : g'.wrappers.Perm g.wrappers)
    (hkeys : g'.resolved.keys.Perm g.resolved.keys) : OneWrapperEach g' :=
  ((hwrappers.map _).trans h).trans hkeys.symm

theorem OneWrapperEach.move (h : OneWrapperEach g) (hm : Move g g') : OneWrapperEach g' := by
  cases hm with
  | note memory log => exact h
  | miss memory log _ => exact h
  | nameContainer id =>
    have hs := sameBeyondNames_containerName g id
    rw [OneWrapperEach, wrappers, blocks, hs.files, hs.resolved]
    exact h
  | @openContainer id name _ _ _ =>
    obtain ⟨c, _, hperm⟩ := g.blocks_openContainer id name
    exact h.of_same (hperm.filterMap Block.wrapper?) (.refl _)
  | @openTarget d hnew _ =>
    obtain ⟨w, ⟨hsource, _⟩, hperm⟩ := g.blocks_openTarget d
    obtain ⟨path, hresolved⟩ := g.resolved_openTarget d
    have hwrappers : ((g.openTarget d).2.wrappers.map (·.source)).Perm
        (d.id :: g.wrappers.map (·.source)) := hsource ▸ (hperm.filterMap Block.wrapper?).map _
    rw [OneWrapperEach, hresolved]
    exact (hwrappers.trans (h.cons _)).trans (Dict.keys_insert_of_none _ hnew).symm
  | define hresolved _ _ => exact h.of_same (.refl _) (Dict.keys_insert_of_some _ hresolved)
  | place hresolved =>
    exact h.of_same ((g.blocks_ensureFile _ _).filterMap _) (Dict.keys_insert_of_some _ hresolved)
  | @build path parent tag _ t d hfile _ _ _ _ _ =>
    obtain ⟨i, f, _, _, hperm⟩ := blocks_build hfile parent tag d t.className
    have hs := sameBeyondBuilders_build g path parent tag d t.className
    exact h.of_same (hperm.filterMap Block.wrapper?) (.of_eq (by rw [hs.resolved]))

theorem OneWrapperEach.fresh {p : Provider} (h : Fresh p g) : OneWrapperEach g := by
  rw [OneWrapperEach, wrappers, blocks, h.files, h.resolved]
  exact .nil

/-- A resolved type has one wrapper, and any other type has none. -/
theorem OneWrapperEach.count (h : OneWrapperEach g) (id : String) :
    (g.wrappers.map (·.source)).count id = if g.resolved.contains id then 1 else 0 := by
  rw [h.count_eq, g.resolved.nodup_keys.count]
  refine if_congr ?_ rfl rfl
  rw [Dict.mem_keys_iff, Dict.contains_iff]

/-! ## What is known -/

/-- What is resolved is known, and what is missing is not. -/
structure Informed (g : Generator) : Prop where
  resolved : ∀ id t, g.resolved.get? id = some t → ∃ d, t.definition = some d ∧ g.Finds id d
  missing : ∀ id ∈ g.missing, ¬ g.provider.Knows id

theorem Informed.of_same (h : Informed g) (hprovider : g'.provider = g.provider)
    (hresolved : g'.resolved = g.resolved) (hmissing : g'.missing = g.missing) : Informed g' where
  resolved := by unfold Finds; rw [hresolved, hprovider]; exact h.resolved
  missing := by rw [hmissing, hprovider]; exact h.missing

/-- An entry with a definition that the provider finds. -/
theorem Informed.insert (h : Informed g) {id : String} {t : Target} {d : TaskDefinition}
    (hd : t.definition = some d) (hfound : g.Finds id d) (hprovider : g'.provider = g.provider)
    (hresolved : g'.resolved = g.resolved.insert id t) (hmissing : g'.missing = g.missing) :
    Informed g' where
  resolved := by
    unfold Finds
    rw [hresolved, hprovider]
    intro i u hu
    rcases Dict.get?_insert_cases hu with ⟨rfl, rfl⟩ | hu
    · exact ⟨d, hd, hfound⟩
    · exact h.resolved i u hu
  missing := by rw [hmissing, hprovider]; exact h.missing

theorem Informed.move (h : Informed g) (hs : g.provider.Stateless) (hm : Move g g') :
    Informed g' := by
  have hprovider := hm.extends.provider
  cases hm with
  | note memory log => exact h.of_same rfl rfl rfl
  | @miss id memory log hunknown =>
    refine ⟨h.resolved, fun i hi hknows => ?_⟩
    rcases List.mem_cons.1 hi with rfl | hi
    · obtain ⟨d, hd⟩ := (hs.knows_iff i g.memory).1 hknows
      exact hunknown d hd
    · exact h.missing i hi hknows
  | nameContainer id =>
    have hs := sameBeyondNames_containerName g id
    exact h.of_same hs.provider hs.resolved hs.missing
  | openContainer _ _ _ => exact h.of_same rfl rfl rfl
  | @openTarget d _ hfound =>
    obtain ⟨path, hresolved⟩ := g.resolved_openTarget d
    obtain ⟨_, _, hmissing, _⟩ := g.openTarget_frame d
    exact h.insert rfl hfound hprovider hresolved hmissing
  | @define id t d hresolved _ hfound =>
    exact h.insert (t := { t with definition := some d }) rfl hfound rfl rfl rfl
  | @place id t hresolved =>
    obtain ⟨d, hd, hfound⟩ := h.resolved id t hresolved
    exact h.insert (t := { t with file := some (g.targetPath t) }) hd hfound rfl rfl rfl
  | @build path parent tag _ t d _ _ _ _ _ _ =>
    have hs := sameBeyondBuilders_build g path parent tag d t.className
    exact h.of_same hs.provider hs.resolved hs.missing

theorem Informed.fresh {p : Provider} (h : Fresh p g) : Informed g where
  resolved := by
    intro id t ht
    rw [h.resolved] at ht
    cases ht
  missing := by
    intro id hid
    rw [h.missing] at hid
    cases hid

/-! ## Larger bounds -/

/-- `r'` answers like `r` wherever `r` does not reach its bound. -/
def Resolver.Refines (r' r : Resolver) : Prop :=
  ∀ id g, (r id g).1 ≠ .crashed .endlessNesting → r' id g = r id g

theorem renderNested_refines {r r' : Resolver} (h : r'.Refines r) (owner : Target)
    (es : List NestedElement) (g : Generator)
    (hne : (renderNested r owner es g).1 ≠ some .endlessNesting) :
    renderNested r' owner es g = renderNested r owner es g := by
  induction es generalizing g with
  | nil => rfl
  | cons e es ih =>
    unfold renderNested at hne ⊢
    by_cases hc : g.library.containsFunction owner.className e.tag = true
    · rw [if_pos hc] at hne
      rw [if_pos hc, if_pos hc]
      exact ih g hne
    · rw [if_neg hc] at hne
      rw [if_neg hc, if_neg hc]
      have hr : (r e.type g).1 ≠ .crashed .endlessNesting → r' e.type g = r e.type g := h e.type g
      rcases hx : r e.type g with ⟨res, g'⟩
      rw [hx] at hne hr
      cases res with
      | crashed c =>
        have hcrash : c ≠ .endlessNesting := fun he => hne (congrArg some he)
        rw [hr fun he => hcrash (Resolution.crashed.inj he)]
      | unresolved =>
        rw [hr (by simp)]
        exact ih _ hne
      | resolved =>
        rw [hr (by simp)]
        dsimp only at hne ⊢
        split
        · rfl
        · next g'' hrendered =>
          rw [hrendered] at hne
          exact ih _ hne

theorem addTarget_refines {r r' : Resolver} (h : r'.Refines r) (d : TaskDefinition) (g : Generator)
    (hne : (addTarget r d g).1 ≠ .crashed .endlessNesting) : addTarget r' d g = addTarget r d g := by
  have hnested : (renderNested r (g.openTarget d).1 d.nested (g.openTarget d).2).1
      ≠ some .endlessNesting := by
    rcases addTarget_cases r d g with ⟨c, g', hr, ha⟩ | ⟨g', hr, ha⟩
    · rw [hr]
      rw [ha] at hne
      exact fun he => hne (congrArg Resolution.crashed (Option.some.inj he))
    · rw [hr]
      nofun
  have heq := renderNested_refines h (g.openTarget d).1 d.nested (g.openTarget d).2 hnested
  simp only [addTarget, heq]

/-- A larger bound answers alike. -/
theorem refines_succ : ∀ n, (resolveWithin (n + 1)).Refines (resolveWithin n)
  | 0, _, _, hne => absurd rfl hne
  | n + 1, id, g, hne => by
    rw [resolveWithin] at hne
    rw [resolveWithin, resolveWithin]
    split
    · rfl
    · next hnew =>
      rw [hnew] at hne
      dsimp only at hne
      split
      · rfl
      · next d g' hl =>
        rw [hl] at hne
        exact addTarget_refines (refines_succ n) d g' hne

/-- **An answer within a bound is the answer within every larger bound.** -/
theorem resolveWithin_mono {n m : Nat} (hnm : n ≤ m) : (resolveWithin m).Refines (resolveWithin n) := by
  induction hnm with
  | refl => exact fun _ _ _ => rfl
  | @step m _ ih =>
    intro id g hne
    have heq := ih id g hne
    exact (refines_succ m id g (heq ▸ hne)).trans heq

/-! ## Enough of a bound -/

/-- The known types without an entry. -/
def pending (g : Generator) : Finset String :=
  g.provider.known.toFinset.filter fun id => g.resolved.get? id = none

theorem pending_subset (h : Extends g g') : g'.pending ⊆ g.pending := by
  intro id hid
  rw [pending, Finset.mem_filter, h.provider] at hid
  rw [pending, Finset.mem_filter]
  refine ⟨hid.1, ?_⟩
  cases ht : g.resolved.get? id with
  | none => rfl
  | some t =>
    obtain ⟨t', ht', _⟩ := h.resolved id t ht
    rw [ht'] at hid
    cases hid.2

/-- Entering a known type leaves fewer. -/
theorem card_pending_lt (h : Extends g g') {id : String} (hknown : id ∈ g.provider.known)
    (hnew : g.resolved.get? id = none) (hentry : g'.resolved.get? id ≠ none) :
    g'.pending.card < g.pending.card := by
  refine Finset.card_lt_card ⟨pending_subset h, fun hsub => ?_⟩
  have hmem : id ∈ g.pending := Finset.mem_filter.2 ⟨List.mem_toFinset.2 hknown, hnew⟩
  exact hentry (Finset.mem_filter.1 (hsub hmem)).2

/-- A type is resolved and has a definition, or it is unresolved and missing. -/
def Answered (id : String) (x : Resolution × Generator) : Prop :=
  (x.1 = .resolved ∧ ∃ t d, x.2.resolved.get? id = some t ∧ t.definition = some d) ∨
  (x.1 = .unresolved ∧ id ∈ x.2.missing)

/-- A resolver answers in every state that follows `g`. -/
def Resolver.AnswersFrom (r : Resolver) (g : Generator) : Prop :=
  ∀ id g', Moves g g' → Answered id (r id g')

/-- Nested elements break nothing when their types are answered. -/
theorem renderNested_answered {r : Resolver} (hmoves : r.ByMoves) {owner : Target} {path : String}
    (hpath : owner.file = some path) : ∀ (es : List NestedElement) (g : Generator),
    g.provider.Faithful → g.HasFile path → g.Hosts ⟨.owner, owner.className⟩ → r.AnswersFrom g →
    (renderNested r owner es g).1 = none
  | [], _, _, _, _, _ => rfl
  | e :: es, g, hp, hfile, hhosts, hr => by
    -- whatever the element does by moves, the others follow it unbroken
    have hrest : ∀ g', Moves g g' → (renderNested r owner es g').1 = none := fun g' hm =>
      renderNested_answered hmoves hpath es g' (hm.extends.provider ▸ hp)
        (hm.extends.hasFile path hfile) (hm.extends.hosts hhosts)
        fun id g'' hm' => hr id g'' (hm.trans hm')
    have hstep := hmoves e.type g hp
    have hanswer := hr e.type g .refl
    unfold renderNested
    split
    · exact hrest g .refl
    · rcases hx : r e.type g with ⟨res, g'⟩
      rw [hx] at hstep hanswer
      rcases hanswer with ⟨rfl, t, d, ht, hd⟩ | ⟨rfl, _⟩
      · dsimp only at ht ⊢
        have helement := moves_renderElement hpath e (hstep.extends.hasFile path hfile)
          (hstep.extends.hosts hhosts)
        rw [renderElement_of_entry ht hd] at helement ⊢
        exact hrest _ (hstep.trans helement)
      · exact hrest _ (hstep.trans (moves_logging _ _))

/-- The entry made at the beginning is there at the end. -/
theorem entry_addTarget {r : Resolver} (hmoves : r.ByMoves) {d : TaskDefinition}
    (hp : (g.openTarget d).2.provider.Faithful) :
    ∃ t, (addTarget r d g).2.resolved.get? d.id = some t ∧ t.definition = some d := by
  obtain ⟨path, hresolved⟩ := g.resolved_openTarget d
  obtain ⟨t, ht, _, hdef⟩ := (moves_openTarget_addTarget hmoves hp).extends.resolved d.id
    ⟨d.id, some d, (g.namer.resultName d.id).1, some path⟩
    (by rw [hresolved, Dict.get?_insert_self])
  exact ⟨t, ht, hdef d rfl⟩

theorem addTarget_answered {r : Resolver} (hmoves : r.ByMoves) {d : TaskDefinition}
    (hp : g.provider.Faithful) (hnew : g.resolved.get? d.id = none) (hfound : g.Finds d.id d)
    (hr : r.AnswersFrom (g.openTarget d).2) : Answered d.id (addTarget r d g) := by
  have hopen : Moves g (g.openTarget d).2 := .single (.openTarget hnew hfound)
  obtain ⟨path, hpath, hfile, hhosts⟩ := g.openTarget_hosts d
  have hfaithful : (g.openTarget d).2.provider.Faithful := hopen.extends.provider ▸ hp
  have hnone := renderNested_answered hmoves hpath d.nested (g.openTarget d).2 hfaithful hfile
    hhosts hr
  obtain ⟨t, ht, hdef⟩ := entry_addTarget hmoves hfaithful
  rcases addTarget_cases r d g with ⟨c, g', hn, _⟩ | ⟨g', hn, ha⟩
  · rw [hn] at hnone
    cases hnone
  · rw [ha] at ht ⊢
    exact Or.inl ⟨rfl, t, d, ht, hdef⟩

/-- Over a faithful provider a type that counts as resolved has an entry with a definition. -/
theorem entry_resolveWithin {n : Nat} {id : String} (hp : g.provider.Faithful)
    (h : (resolveWithin n id g).1 = .resolved) :
    ∃ t d, (resolveWithin n id g).2.resolved.get? id = some t ∧ t.definition = some d := by
  cases n with
  | zero => cases h
  | succ n =>
    unfold resolveWithin at h ⊢
    cases ht : g.resolved.get? id with
    | some t =>
      rw [ht] at h
      dsimp only at h ⊢
      by_cases hd : t.definition.isSome = true
      · rw [if_pos hd]
        obtain ⟨d, hd⟩ := Option.isSome_iff_exists.1 hd
        exact ⟨t, d, ht, hd⟩
      · rw [if_neg hd] at h ⊢
        rcases hx : g.lookup id with ⟨_ | d, g'⟩
        · rw [hx] at h
          cases h
        · exact ⟨_, d, Dict.get?_insert_self _ _ _, rfl⟩
    | none =>
      have hprovider := (g.moves_lookup id).extends.provider
      rw [ht] at h
      dsimp only at h ⊢
      rcases hx : g.lookup id with ⟨_ | d, g'⟩
      · rw [hx] at h
        cases h
      · obtain ⟨m, hm⟩ := finds_of_lookup (g := g) (d := d) (by rw [ht, Option.bind_none])
          (by rw [hx])
        obtain rfl := hp id m d hm
        rw [hx] at hprovider
        have hfaithful : (g'.openTarget d).2.provider.Faithful := by
          rw [provider_openTarget, hprovider]
          exact hp
        obtain ⟨t, ht, hd⟩ := entry_addTarget (byMoves_resolveWithin n) hfaithful
        exact ⟨t, d, ht, hd⟩

theorem entry_resolveClass (hp : g.provider.Faithful) (id : String)
    (h : (g.resolveClass id).1 = .resolved) :
    ∃ t d, (g.resolveClass id).2.resolved.get? id = some t ∧ t.definition = some d :=
  entry_resolveWithin hp h

theorem mem_missing_of_lookup {id : String} (h : (g.lookup id).1 = none) :
    id ∈ (g.lookup id).2.missing := by
  rcases g.lookup_cases id with ⟨_, _, _, _, hl⟩ | ⟨hm, hl⟩ | ⟨_, _, _, hl⟩ | ⟨_, _, _, hl⟩
  · rw [hl] at h
    cases h
  · rw [hl]
    exact hm
  · rw [hl] at h
    cases h
  · rw [hl]
    exact List.mem_cons_self

/-- **A bound above the number of known types without an entry is enough.** -/
theorem answered_resolveWithin (n : Nat) (id : String) (g : Generator) (hp : g.provider.Faithful)
    (hl : g.provider.Listed) (hn : g.pending.card < n) : Answered id (resolveWithin n id g) := by
  induction n generalizing id g with
  | zero => exact absurd hn (Nat.not_lt_zero _)
  | succ n ih =>
    have hlookup := g.moves_lookup id
    have hsame := g.resolved_lookup id
    have hmissing : (g.lookup id).1 = none → id ∈ (g.lookup id).2.missing := mem_missing_of_lookup
    unfold resolveWithin
    split
    · next t ht =>
      split
      · next hd =>
        obtain ⟨d, hd⟩ := Option.isSome_iff_exists.1 hd
        exact Or.inl ⟨rfl, t, d, ht, hd⟩
      · split
        · next h => rw [h] at hmissing; exact Or.inr ⟨rfl, hmissing rfl⟩
        · next d g' h => exact Or.inl ⟨rfl, _, d, Dict.get?_insert_self _ _ _, rfl⟩
    · next hnew =>
      split
      · next h => rw [h] at hmissing; exact Or.inr ⟨rfl, hmissing rfl⟩
      · next d g' h =>
        obtain ⟨m, hm⟩ := finds_of_lookup (g := g) (d := d) (by rw [hnew, Option.bind_none])
          (by rw [h])
        obtain rfl := hp id m d hm
        rw [h] at hlookup hsame
        have hprovider := hlookup.extends.provider
        have hfound : g'.Finds d.id d := ⟨m, by rw [hprovider]; exact hm⟩
        have hnew' : g'.resolved.get? d.id = none := hsame ▸ hnew
        have hopen : Moves g (g'.openTarget d).2 := hlookup.tail (.openTarget hnew' hfound)
        have hentry : (g'.openTarget d).2.resolved.get? d.id ≠ none := by
          obtain ⟨path, hresolved⟩ := g'.resolved_openTarget d
          rw [hresolved, Dict.get?_insert_self]
          exact Option.some_ne_none _
        have hless := card_pending_lt hopen.extends (hl d.id m d hm) hnew hentry
        refine addTarget_answered (byMoves_resolveWithin n) (hprovider ▸ hp) hnew' hfound ?_
        -- further down, fewer types are pending
        intro i g'' hm'
        have hall : Moves g g'' := hopen.trans hm'
        refine ih i g'' (hall.extends.provider ▸ hp)
          (hall.extends.provider ▸ hl) ?_
        have hle := Finset.card_le_card (pending_subset hm'.extends)
        omega

/-- Resolution fails only where the definition is missing. -/
theorem lookup_of_unresolved {n : Nat} {id : String} (h : (resolveWithin n id g).1 = .unresolved) :
    (g.lookup id).1 = none := by
  cases n with
  | zero => cases h
  | succ n =>
    unfold resolveWithin at h
    rcases hx : g.lookup id with ⟨_ | d, g₁⟩
    · rfl
    · rw [hx] at h
      split at h
      · split at h
        · cases h
        · cases h
      · dsimp only at h
        rcases addTarget_cases (resolveWithin n) d g₁ with ⟨c, _, _, ha⟩ | ⟨_, _, ha⟩
        · rw [ha] at h
          cases h
        · rw [ha] at h
          cases h

theorem nestingBound_eq_succ (g : Generator) : ∃ n, g.nestingBound = n + 1 :=
  Nat.exists_eq_succ_of_ne_zero (by simp [nestingBound])

theorem card_pending_lt_nestingBound (g : Generator) : g.pending.card < g.nestingBound := by
  have hle : g.pending.card ≤ g.provider.known.length :=
    (Finset.card_filter_le _ _).trans (List.toFinset_card_le _)
  have hmul : (2 * g.provider.known.length + g.provider.elements + 2) * 1
      ≤ (2 * g.provider.known.length + g.provider.elements + 2) * (g.provider.known.length + 2) :=
    Nat.mul_le_mul_left _ (by omega)
  unfold nestingBound
  omega

/-! ## Resolving after any requests -/

/-- A type is resolved exactly when its provider knows it. -/
theorem resolved_iff_knows {x : Resolution × Generator} {id : String} (ha : Answered id x)
    (hi : Informed x.2) (hs : x.2.provider.Stateless) :
    x.1 = .resolved ↔ x.2.provider.Knows id := by
  constructor
  · intro hres
    rcases ha with ⟨_, t, d, ht, hd⟩ | ⟨hun, _⟩
    · obtain ⟨_, _, m, hm⟩ := hi.resolved id t ht
      exact (hs.knows_iff id m).2 ⟨_, hm⟩
    · rw [hun] at hres
      cases hres
  · intro hknows
    rcases ha with ⟨hres, _⟩ | ⟨_, hmissing⟩
    · exact hres
    · exact absurd hknows (hi.missing id hmissing)

/-- **Resolving a type settles after every sequence of requests**, whatever circles the nested types
make. The recursion ends within its bound, so that a larger bound changes nothing, and tells whether
the provider knows the type. After it every resolved type has one wrapper and any other type none;
resolved types have class names of their own, and only a type that is called like the key of a
container can share its name with one. -/
theorem resolveClass_settles {p : Provider} {o : GeneratorOptions} {g₀ : Generator}
    (hf : p.Faithful) (hs : p.Stateless) (hl : p.Listed) (hnew : Generator.new p o = .ok g₀)
    (rs : List Request) (id : String) :
    let g := g₀.serveAll rs
    let x := g.resolveClass id
    (x.1 = .resolved ∨ x.1 = .unresolved) ∧
    (∀ n, g.nestingBound ≤ n → resolveWithin n id g = x) ∧
    (x.1 = .resolved ↔ p.Knows id) ∧
    (∀ i, (x.2.wrappers.map (·.source)).count i = if x.2.resolved.contains i then 1 else 0) ∧
    (∀ i j t u, x.2.resolved.get? i = some t → x.2.resolved.get? j = some u →
      t.className = u.className → i = j) ∧
    (∀ i t c, Text.hasLeading "container:" i = false → x.2.resolved.get? i = some t →
      x.2.containerNames.get? c ≠ some t.className) := by
  intro g x
  have hfresh := fresh_of_new hnew
  have hfaithful : g₀.provider.Faithful := hfresh.provider ▸ hf.safe
  have hserved : Moves g₀ g := moves_serveAll hfaithful rs
  have hprovider : g.provider = p.safe := hserved.extends.provider.trans hfresh.provider
  have hx : Moves g x.2 := moves_resolveClass (hprovider ▸ hf.safe) id
  have hprovider' : x.2.provider = p.safe := hx.extends.provider.trans hprovider
  have hanswered : Answered id x := answered_resolveWithin _ id g (hprovider ▸ hf.safe)
    (hprovider ▸ hl.safe) g.card_pending_lt_nestingBound
  obtain ⟨_, hinformed, hone, hnamed⟩ := Moves.keeps
    (I := fun g => g.provider.Stateless ∧ Informed g ∧ OneWrapperEach g ∧ Named g)
    (fun _ _ hm hi => ⟨hm.extends.provider ▸ hi.1, hi.2.1.move hi.1 hm, hi.2.2.1.move hm,
      hi.2.2.2.move hm⟩)
    (hserved.trans hx)
    ⟨hfresh.provider ▸ hs.safe, .fresh hfresh, .fresh hfresh, .fresh hfresh⟩
  have hsettled : x.1 = .resolved ∨ x.1 = .unresolved := hanswered.imp And.left And.left
  refine ⟨hsettled, fun n hn => ?_, ?_, hone.count, ?_, ?_⟩
  · refine resolveWithin_mono hn id g ?_
    rcases hsettled with h | h
    · exact fun hc => nomatch h.symm.trans hc
    · exact fun hc => nomatch h.symm.trans hc
  · rw [resolved_iff_knows hanswered hinformed (hprovider' ▸ hs.safe), hprovider',
      Provider.knows_safe_iff]
  · exact fun i j t u hi hj he => hnamed.eq_of_className hi hj he
  · exact fun i t c hi ht hc => ne_containerKey hi c (hnamed.eq_containerKey ht hc)

/-- A type that nests itself, two that nest each other, and one that all of them share. -/
def nestedRing : List TaskDefinition :=
  [{ id := "a.Loop", nested := [⟨"loop", "a.Loop"⟩, ⟨"left", "a.Left"⟩, ⟨"leaf", "b.Leaf"⟩] },
   { id := "a.Left", nested := [⟨"right", "a.Right"⟩, ⟨"leaf", "b.Leaf"⟩] },
   { id := "a.Right", nested := [⟨"left", "a.Left"⟩, ⟨"none", "b.None"⟩] },
   { id := "b.Leaf", capabilities := ["b.Green"] }]

theorem resolveClass_settles_nestedRing :
    (Provider.static nestedRing).Faithful ∧ (Provider.static nestedRing).Stateless ∧
    (Provider.static nestedRing).Listed ∧
    ∃ g₀, Generator.new (Provider.static nestedRing)
        { importPath := "example.com/out", runtimePath := "example.com/rt" } = .ok g₀ ∧
      let x := (g₀.serveAll [.containers ["b.Green"]]).resolveClass "a.Loop"
      (x.1 = .resolved ∨ x.1 = .unresolved) ∧
      (x.1 = .resolved ↔ (Provider.static nestedRing).Knows "a.Loop") := by
  obtain ⟨g₀, hnew⟩ := exists_new (Provider.static nestedRing)
    (o := { importPath := "example.com/out", runtimePath := "example.com/rt" })
    (by decide) (by decide)
  have hf := Provider.faithful_static nestedRing
  have hs := Provider.stateless_static nestedRing
  have hl := Provider.listed_static nestedRing
  obtain ⟨hsettled, _, hknows, _⟩ :=
    resolveClass_settles hf hs hl hnew [.containers ["b.Green"]] "a.Loop"
  exact ⟨hf, hs, hl, g₀, hnew, hsettled, hknows⟩

end TaskBuilders.Generator
