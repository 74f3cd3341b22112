import TaskBuilders.Proofs.Generator.Notes
import TaskBuilders.Proofs.Generator.Resolution

/-!
# Skipped requests

An alias of a type that the provider does not know and a default alias of a type that may not stand under
the root container are skipped. Skipping notes something, and resolution does not look at notes, so a run
goes on as if the request had never been made, wherever it stood.

* `blind_resolveWithin` — resolution does not look at notes
* `resolveAlias_unresolved_iff` — an alias fails exactly when the provider does not know its type
* `matches_resolveAliases`, `matches_defaultAliases` — lists of requests without those that are skipped
* `Cancellation.among` — where a cancelled run stands in the list without them
* `generate_without_skipped` — full runs without requests that are skipped
-/

namespace TaskBuilders.Generator

variable {g g' : Generator}

/-! ## Resolution does not look at notes -/

theorem Truthful.matches_lookup (h : Truthful g) (h' : Truthful g') (ha : Alike g g') (id : String) :
    Matches (g.lookup id) (g'.lookup id) := by
  obtain ⟨hd, hl⟩ := h.lookup id
  obtain ⟨hd', hl'⟩ := h'.lookup id
  refine ⟨?_, (hl.symm.trans ha).trans hl'⟩
  obtain ⟨n, rfl⟩ := ha
  rw [hd, hd', provider_noting]

/-- A resolver that does not look at notes. -/
def Resolver.Blind (r : Resolver) : Prop :=
  ∀ id g g', Truthful g → Truthful g' → Alike g g' → Matches (r id g) (r id g')

theorem matches_renderElement (ha : Alike g g') (owner : Target) (e : NestedElement) :
    Matches (renderElement owner e g) (renderElement owner e g') := by
  unfold renderElement
  rw [ha.library, ha.resolved]
  by_cases hc : g.library.containsFunction owner.className e.tag = true
  · rw [if_pos hc, if_pos hc]
    exact ⟨rfl, ha⟩
  · rw [if_neg hc, if_neg hc]
    cases g.resolved.get? e.type with
    | none => exact ⟨rfl, ha⟩
    | some t =>
      dsimp only
      cases t.definition with
      | none => exact ⟨rfl, ha⟩
      | some d =>
        obtain ⟨n, rfl⟩ := ha
        exact ⟨rfl, Alike.render ⟨n, rfl⟩ _ rfl _ _ _⟩

theorem matches_renderNested {r : Resolver} (hmoves : r.ByMoves) (hr : r.Blind) (owner : Target) :
    ∀ (es : List NestedElement) (g g' : Generator), Truthful g → Truthful g' → Alike g g' →
      Matches (renderNested r owner es g) (renderNested r owner es g')
  | [], _, _, _, _, ha => ⟨rfl, ha⟩
  | e :: es, g, g', h, h', ha => by
    obtain ⟨res, g₁, n, hx, hy⟩ := (hr e.type g g' h h' ha).forms
    have htruth := h.moves (hmoves e.type g h.faithful)
    have htruth' := h'.moves (hmoves e.type g' h'.faithful)
    rw [hx] at htruth
    rw [hy] at htruth'
    have hrest := matches_renderNested hmoves hr owner es
    unfold renderNested
    rw [ha.library]
    by_cases hc : g.library.containsFunction owner.className e.tag = true
    · rw [if_pos hc, if_pos hc]
      exact hrest g g' h h' ha
    · rw [if_neg hc, if_neg hc, hx, hy]
      cases res with
      | crashed c => exact ⟨rfl, n, rfl⟩
      | unresolved =>
        exact hrest _ _ (htruth.logging _) (htruth'.logging _) (Alike.logging ⟨n, rfl⟩ _ _)
      | resolved =>
        obtain ⟨c, g₂, n', hx', hy'⟩ := (matches_renderElement ⟨n, rfl⟩ owner e).forms
        have hlast := htruth.renderElement owner e
        have hlast' := htruth'.renderElement owner e
        rw [hx'] at hlast
        rw [hy'] at hlast'
        dsimp only
        rw [hx', hy']
        cases c with
        | some c => exact ⟨rfl, n', rfl⟩
        | none => exact hrest _ _ hlast hlast' ⟨n', rfl⟩

theorem matches_addTarget {r : Resolver} (hmoves : r.ByMoves) (hr : r.Blind) {d : TaskDefinition}
    (h : Truthful g) (h' : Truthful g') (ha : Alike g g') (hnew : g.resolved.get? d.id = none)
    (hfound : g.Finds d.id d) : Matches (addTarget r d g) (addTarget r d g') := by
  obtain ⟨htarget, hopen⟩ := ha.openTarget d
  have htruth : Truthful (g.openTarget d).2 := h.move (.openTarget hnew hfound)
  have htruth' : Truthful (g'.openTarget d).2 := by
    obtain ⟨n, rfl⟩ := ha
    exact h'.move (.openTarget hnew hfound)
  obtain ⟨c, g₁, n, hx, hy⟩ :=
    (matches_renderNested hmoves hr (g.openTarget d).1 d.nested _ _ htruth htruth' hopen).forms
  simp only [addTarget]
  rw [← htarget, hx, hy]
  have hs : Alike g₁ (g₁.noting n) := ⟨n, rfl⟩
  cases c with
  | some c => exact ⟨rfl, hs⟩
  | none => exact ⟨rfl, (hs.resolveContainers d.capabilities).resolveContainers d.nestedTypes⟩

/-- **Resolution does not look at notes.** -/
theorem blind_resolveWithin : ∀ n, (resolveWithin n).Blind
  | 0, _, _, _, _, _, ha => ⟨rfl, ha⟩
  | n + 1, id, g, g', h, h', ha => by
    obtain ⟨a, g₁, n, hx, hy⟩ := (h.matches_lookup h' ha id).forms
    have htruth := h.moves (g.moves_lookup id)
    have htruth' := h'.moves (g'.moves_lookup id)
    have hsame := g.resolved_lookup id
    have hprovider := (g.moves_lookup id).extends.provider
    rw [hx] at htruth hsame hprovider
    rw [hy] at htruth'
    unfold resolveWithin
    rw [ha.resolved]
    cases ht : g.resolved.get? id with
    | some t =>
      dsimp only
      by_cases hd : t.definition.isSome = true
      · rw [if_pos hd, if_pos hd]
        exact ⟨rfl, ha⟩
      · rw [if_neg hd, if_neg hd, hx, hy]
        cases a with
        | none => exact ⟨rfl, n, rfl⟩
        | some d => exact ⟨rfl, n, rfl⟩
    | none =>
      dsimp only
      rw [hx, hy]
      cases a with
      | none => exact ⟨rfl, n, rfl⟩
      | some d =>
        obtain ⟨m, hm⟩ : g.Finds id d :=
          finds_of_lookup (by rw [ht, Option.bind_none]) (by rw [hx])
        obtain rfl := h.faithful id m d hm
        exact matches_addTarget (byMoves_resolveWithin _) (blind_resolveWithin _) htruth htruth'
          ⟨n, rfl⟩ (hsame ▸ ht) ⟨m, hprovider ▸ hm⟩

theorem matches_resolveClass (h : Truthful g) (h' : Truthful g') (ha : Alike g g') (id : String) :
    Matches (g.resolveClass id) (g'.resolveClass id) := by
  have hbound : g'.nestingBound = g.nestingBound := by obtain ⟨n, rfl⟩ := ha; rfl
  unfold resolveClass
  rw [hbound]
  exact blind_resolveWithin _ id g g' h h' ha

theorem matches_resolveAlias (h : Truthful g) (h' : Truthful g') (ha : Alike g g') (a : TagAlias) :
    Matches (g.resolveAlias a) (g'.resolveAlias a) := by
  obtain ⟨res, g₁, n, hx, hy⟩ := (matches_resolveClass h h' ha a.type).forms
  have hs : Alike g₁ (g₁.noting n) := ⟨n, rfl⟩
  unfold resolveAlias
  rw [hx, hy]
  cases res with
  | resolved => exact ⟨rfl, hs.generateConstructors _ _ _⟩
  | unresolved => exact ⟨rfl, hs.logging _ _⟩
  | crashed c => exact ⟨rfl, hs⟩

theorem matches_defaultAlias (h : Truthful g) (h' : Truthful g') (ha : Alike g g') (id : String) :
    Matches (g.defaultAlias id) (g'.defaultAlias id) := by
  obtain ⟨a, g₁, n, hx, hy⟩ := (h.matches_lookup h' ha id).forms
  have htruth := h.moves (g.moves_lookup id)
  have htruth' := h'.moves (g'.moves_lookup id)
  rw [hx] at htruth
  rw [hy] at htruth'
  unfold defaultAlias
  rw [hx, hy]
  cases a with
  | none => exact ⟨rfl, n, rfl⟩
  | some d =>
    dsimp only
    by_cases hd : (!d.topLevel) = true
    · rw [if_pos hd, if_pos hd]
      exact ⟨rfl, n, rfl⟩
    · obtain ⟨res, g₂, n', hx, hy⟩ := (matches_resolveClass htruth htruth' ⟨n, rfl⟩ id).forms
      rw [if_neg hd, if_neg hd, hx, hy]
      cases res with
      | crashed c => exact ⟨rfl, n', rfl⟩
      | unresolved => exact ⟨rfl, n', rfl⟩
      | resolved =>
        dsimp only
        rw [resolved_noting, library_noting]
        cases g₂.resolved.get? id with
        | none => exact ⟨rfl, n', rfl⟩
        | some t =>
          dsimp only
          by_cases hc : g₂.library.containsFunction t.className (defaultTag id) = true
          · rw [if_pos hc, if_pos hc]
            exact ⟨rfl, n', rfl⟩
          · rw [if_neg hc, if_neg hc]
            exact ⟨rfl, Alike.generateConstructors ⟨n', rfl⟩ _ _ _⟩

/-! ## Requests that are skipped -/

/-- A type without a definition stays unresolved, and only looking it up leaves notes. -/
theorem resolveClass_of_unknown (h : Truthful g) {id : String}
    (hno : g.provider.definition? id = none) : g.resolveClass id = (.unresolved, (g.lookup id).2) := by
  have hlookup := (h.lookup id).1
  obtain ⟨n, hn⟩ := g.nestingBound_eq_succ
  rw [hno] at hlookup
  rw [resolveClass, hn, resolveWithin]
  rcases hx : g.lookup id with ⟨_ | d, g₁⟩
  · split
    · next t ht =>
      split
      · next hd =>
        obtain ⟨d, hd⟩ := Option.isSome_iff_exists.1 hd
        rw [h.definition id t d ht hd] at hno
        cases hno
      · rfl
    · rfl
  · rw [hx] at hlookup
    cases hlookup

/-- **An alias fails exactly when the provider does not know its type.** -/
theorem resolveAlias_unresolved_iff (h : Truthful g) (a : TagAlias) :
    (g.resolveAlias a).1 = .unresolved ↔ g.provider.definition? a.type = none := by
  constructor
  · intro hun
    rw [← (h.lookup a.type).1]
    refine lookup_of_unresolved (n := g.nestingBound) ?_
    show (g.resolveClass a.type).1 = .unresolved
    unfold resolveAlias at hun
    rcases hx : g.resolveClass a.type with ⟨res, g₁⟩
    rw [hx] at hun
    cases res with
    | resolved => cases hun
    | unresolved => rfl
    | crashed c => cases hun
  · intro hno
    rw [resolveAlias, resolveClass_of_unknown h hno]

/-- An alias of an unknown type is noted, and its type is missing. -/
theorem resolveAlias_of_unknown (h : Truthful g) {a : TagAlias}
    (hno : g.provider.definition? a.type = none) : ∃ n, (g.resolveAlias a).2 = g.noting n ∧
      ∀ id, id ∈ n.missing ↔ id = a.type ∨ id ∈ g.missing := by
  have hmissing := h.mem_missing_lookup hno
  obtain ⟨n, hn⟩ := (h.lookup a.type).2
  rw [hn] at hmissing
  rw [resolveAlias, resolveClass_of_unknown h hno, hn]
  exact ⟨{ n with log := _ }, rfl, hmissing⟩

/-- A default alias of a type that is unknown or may not stand under the root container is noted. -/
theorem defaultAlias_of_skipped (h : Truthful g) {id : String}
    (hskip : (g.provider.definition? id).any (·.topLevel) = false) :
    (g.defaultAlias id).1 = none ∧ Alike g (g.defaultAlias id).2 := by
  obtain ⟨hd, hl⟩ := h.lookup id
  rw [← hd] at hskip
  unfold defaultAlias
  rcases hx : g.lookup id with ⟨_ | d, g₁⟩
  · rw [hx] at hl
    exact ⟨rfl, hl⟩
  · rw [hx] at hl hskip
    have htop : (!d.topLevel) = true := by simpa using hskip
    dsimp only
    rw [if_pos htop]
    exact ⟨rfl, hl⟩

/-! ## Lists of requests -/

variable {q : Provider}

theorem matches_resolveAliases : ∀ (as : List TagAlias) (g g' : Generator), g.provider = q →
    Truthful g → Truthful g' → Alike g g' → Matches (resolveAliases as g)
      (resolveAliases (as.filter fun a => (q.definition? a.type).isSome) g')
  | [], _, _, _, _, _, ha => ⟨rfl, ha⟩
  | a :: as, g, g', hq, h, h', ha => by
    have hmoves := moves_resolveAlias h.faithful a
    have hprovider : (g.resolveAlias a).2.provider = q := hmoves.extends.provider.trans hq
    have hrest := matches_resolveAliases as (g.resolveAlias a).2
    rw [resolveAliases]
    cases hd : q.definition? a.type with
    | none =>
      -- the other run does not see this alias
      rw [← hq] at hd
      obtain ⟨n, hn, _⟩ := resolveAlias_of_unknown h hd
      have hun := (resolveAlias_unresolved_iff h a).2 hd
      rw [hq] at hd
      rw [List.filter_cons_of_neg (by simp [hd])]
      rcases hx : g.resolveAlias a with ⟨res, g₁⟩
      rw [hx] at hun hn hmoves hprovider hrest
      obtain rfl : res = .unresolved := hun
      have hs : Alike g₁ g' := Alike.trans (.symm ⟨n, hn⟩) ha
      exact hrest g' hprovider (h.moves hmoves) h' hs
    | some d =>
      have hmoves' := moves_resolveAlias h'.faithful a
      obtain ⟨res, g₁, n, hx, hy⟩ := (matches_resolveAlias h h' ha a).forms
      rw [List.filter_cons_of_pos (by simp [hd]), resolveAliases, hx, hy]
      rw [hx] at hmoves hprovider hrest
      rw [hy] at hmoves'
      have hrest := hrest _ hprovider (h.moves hmoves) (h'.moves hmoves') ⟨n, rfl⟩
      cases res with
      | crashed c => exact ⟨rfl, n, rfl⟩
      | resolved => exact hrest
      | unresolved => exact hrest

theorem matches_defaultAliases : ∀ (ids : List String) (g g' : Generator), g.provider = q →
    Truthful g → Truthful g' → Alike g g' → Matches (defaultAliases ids g)
      (defaultAliases (ids.filter fun id => (q.definition? id).any (·.topLevel)) g')
  | [], _, _, _, _, _, ha => ⟨rfl, ha⟩
  | id :: ids, g, g', hq, h, h', ha => by
    have hmoves := moves_defaultAlias h.faithful id
    have hprovider : (g.defaultAlias id).2.provider = q := hmoves.extends.provider.trans hq
    have hrest := matches_defaultAliases ids (g.defaultAlias id).2
    rw [defaultAliases]
    cases hd : (q.definition? id).any (·.topLevel) with
    | false =>
      -- the other run does not see this identifier
      obtain ⟨hnone, hs⟩ := defaultAlias_of_skipped h (hq ▸ hd)
      rw [List.filter_cons_of_neg (by simp [hd])]
      rcases hx : g.defaultAlias id with ⟨res, g₁⟩
      rw [hx] at hnone hs hmoves hprovider hrest
      obtain rfl : res = none := hnone
      exact hrest g' hprovider (h.moves hmoves) h' (hs.symm.trans ha)
    | true =>
      have hmoves' := moves_defaultAlias h'.faithful id
      obtain ⟨res, g₁, n, hx, hy⟩ := (matches_defaultAlias h h' ha id).forms
      rw [List.filter_cons_of_pos (by simp [hd]), defaultAliases, hx, hy]
      rw [hx] at hmoves hprovider hrest
      rw [hy] at hmoves'
      cases res with
      | some c => exact ⟨rfl, n, rfl⟩
      | none => exact hrest _ hprovider (h.moves hmoves) (h'.moves hmoves') ⟨n, rfl⟩

/-! ## Cancelled runs -/

namespace Cancellation

/-- The same moment in a run of the aliases that are kept. -/
def among (keep : TagAlias → Bool) (aliases : List TagAlias) : Cancellation → Cancellation
  | never => never
  | after questions => after ((aliases.take questions).countP keep + (questions - aliases.length))

variable {keep : TagAlias → Bool} {aliases : List TagAlias}

/-- The kept aliases that a run comes to are those among the ones that the full run comes to. -/
theorem reached_among (c : Cancellation) :
    (c.among keep aliases).reached (aliases.filter keep) = (c.reached aliases).filter keep := by
  cases c with
  | never => rfl
  | after n =>
    show (aliases.filter keep).take _ = (aliases.take n).filter keep
    rcases Nat.lt_or_ge n aliases.length with hn | hn
    · have hsplit : aliases.filter keep = (aliases.take n).filter keep ++ (aliases.drop n).filter keep := by
        rw [← List.filter_append, List.take_append_drop]
      rw [Nat.sub_eq_zero_of_le hn.le, Nat.add_zero, hsplit, List.countP_eq_length_filter,
        List.take_left]
    · rw [List.take_of_length_le hn, List.take_of_length_le]
      rw [List.countP_eq_length_filter]
      exact Nat.le_add_right _ _

theorem strikes_among (c : Cancellation) :
    (c.among keep aliases).strikes (aliases.filter keep).length = c.strikes aliases.length := by
  cases c with
  | never => rfl
  | after n =>
    refine decide_eq_decide.2 ?_
    rw [← List.countP_eq_length_filter]
    rcases Nat.lt_or_ge aliases.length n with hn | hn
    · rw [List.take_of_length_le hn.le]
      omega
    · have htake : (aliases.take n).countP keep ≤ aliases.countP keep :=
        (List.take_sublist n aliases).countP_le
      omega

end Cancellation

theorem matches_generate (h : Truthful g) (hq : g.provider = q) (aliases : List TagAlias)
    (defaults : List String) (cancelled : Cancellation) :
    Matches (g.generate aliases defaults cancelled)
      (g.generate (aliases.filter fun a => (q.definition? a.type).isSome)
        (defaults.filter fun id => (q.definition? id).any (·.topLevel))
        (cancelled.among (fun a => (q.definition? a.type).isSome) aliases)) := by
  obtain ⟨c, g₁, n, hx, hy⟩ :=
    (matches_resolveAliases (cancelled.reached aliases) g g hq h h (.refl g)).forms
  have hmoves := moves_resolveAliases (cancelled.reached aliases) g h.faithful
  have hmoves' := moves_resolveAliases
    ((cancelled.reached aliases).filter fun a => (q.definition? a.type).isSome) g h.faithful
  rw [hx] at hmoves
  rw [hy] at hmoves'
  unfold generate
  rw [cancelled.reached_among, cancelled.strikes_among, hx, hy]
  cases c with
  | some c => exact ⟨rfl, n, rfl⟩
  | none =>
    obtain ⟨c, g₂, n', hx, hy⟩ := (matches_defaultAliases defaults g₁ (g₁.noting n)
      (hmoves.extends.provider.trans hq) (h.moves hmoves) (h.moves hmoves') ⟨n, rfl⟩).forms
    dsimp only
    by_cases hc : cancelled.strikes aliases.length = true
    · rw [if_pos hc, if_pos hc]
      exact ⟨rfl, n, rfl⟩
    · rw [if_neg hc, if_neg hc, hx, hy]
      cases c with
      | some c => exact ⟨rfl, n', rfl⟩
      | none => exact ⟨rfl, n', rfl⟩

/-- **Skipped requests leave no trace.** After any operations, a full run does what it does without the
aliases of types that the provider does not know and without the default aliases of types that it does not
know or that may not stand under the root container; only the notes may differ. That goes for runs that are
cancelled on the way too, if the other run is cancelled at the same moment. An alias fails exactly when
the provider does not know its type, and then that type is missing and nothing else changes. -/
theorem generate_without_skipped {p : Provider} {o : GeneratorOptions} {g₀ : Generator}
    (hf : p.Faithful) (hs : p.Stateless) (hnew : Generator.new p o = .ok g₀) (ops : List Operation) :
    let g := g₀.performAll ops
    (∀ aliases defaults (cancelled : Cancellation),
      let all := g.generate aliases defaults cancelled
      let kept := g.generate (aliases.filter fun a => (p.definition? a.type).isSome)
        (defaults.filter fun id => (p.definition? id).any (·.topLevel))
        (cancelled.among (fun a => (p.definition? a.type).isSome) aliases)
      all.1 = kept.1 ∧ ∃ n, kept.2 = all.2.noting n) ∧
    ∀ a, ((g.resolveAlias a).1 = .unresolved ↔ p.definition? a.type = none) ∧
      ((g.resolveAlias a).1 = .unresolved → ∃ n, (g.resolveAlias a).2 = g.noting n ∧
        ∀ id, id ∈ n.missing ↔ id = a.type ∨ id ∈ g.missing) := by
  intro g
  have htruth : Truthful g := .performAll hf hs hnew ops
  have hprovider : g.provider = p.safe :=
    (provider_performAll ops g₀).trans (fresh_of_new hnew).provider
  refine ⟨fun aliases defaults cancelled => ?_, fun a => ?_⟩
  · have hall := matches_generate htruth hprovider aliases defaults cancelled
    simp only [Provider.definition?_safe] at hall
    exact hall
  · have hiff := resolveAlias_unresolved_iff htruth a
    rw [hprovider, Provider.definition?_safe] at hiff
    refine ⟨hiff, fun hun => resolveAlias_of_unknown htruth ?_⟩
    exact (resolveAlias_unresolved_iff htruth a).1 hun

/-- A crane that nests a hook and something unknown; a hook may not stand under the root container. -/
def craneTypes : List TaskDefinition :=
  [{ id := "x.Crane", executable := true, nested := [⟨"hook", "x.Hook"⟩, ⟨"ghost", "x.Ghost"⟩] },
   { id := "x.Hook" }]

/-- Requests for unknown types come first, between others and last; only what is missing tells the runs
apart. -/
theorem generate_without_skipped_craneTypes :
    ∃ g₀, Generator.new (.static craneTypes) { importPath := "m/out", runtimePath := "m/rt" } = .ok g₀ ∧
      let all := g₀.generate
        [⟨"ghost", "x.Ghost", true⟩, ⟨"crane", "x.Crane", true⟩, ⟨"spook", "x.Spook", true⟩]
        ["x.Hook", "x.Crane", "x.Ghost"] false
      let kept := g₀.generate [⟨"crane", "x.Crane", true⟩] ["x.Crane"] false
      (all.1 = kept.1 ∧ ∃ n, kept.2 = all.2.noting n) ∧ kept.1 = .done ∧
      all.2.missing = ["x.Spook", "x.Ghost"] ∧ kept.2.missing = ["x.Ghost"] := by
  have hlaw := generate_without_skipped (Provider.faithful_static craneTypes)
    (Provider.stateless_static craneTypes) (o := { importPath := "m/out", runtimePath := "m/rt" }) rfl []
  obtain ⟨hrun, _⟩ := hlaw
  have hrun := hrun
    [⟨"ghost", "x.Ghost", true⟩, ⟨"crane", "x.Crane", true⟩, ⟨"spook", "x.Spook", true⟩]
    ["x.Hook", "x.Crane", "x.Ghost"] false
  refine ⟨_, rfl, ?_, ?_, ?_, ?_⟩
  · have haliases : [(⟨"ghost", "x.Ghost", true⟩ : TagAlias), ⟨"crane", "x.Crane", true⟩,
        ⟨"spook", "x.Spook", true⟩].filter
          (fun a => ((Provider.static craneTypes).definition? a.type).isSome) =
        [⟨"crane", "x.Crane", true⟩] := by decide +kernel
    have hdefaults : ["x.Hook", "x.Crane", "x.Ghost"].filter
        (fun id => ((Provider.static craneTypes).definition? id).any (·.topLevel)) = ["x.Crane"] := by
      decide +kernel
    rw [haliases, hdefaults] at hrun
    exact hrun
  · decide +kernel
  · decide +kernel
  · decide +kernel

end TaskBuilders.Generator
