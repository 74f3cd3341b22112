import TaskBuilders.Proofs.Generator.Agreement
import TaskBuilders.Proofs.Generator.Loading
import TaskBuilders.Proofs.Generator.NamingStep
import TaskBuilders.Proofs.Generator.Settlement

/-!
# Runs that break down

A type is entered under the identifier of its definition and looked for under the identifier that was asked
for. Over a faithful provider the two are the same, and no run breaks down. A provider that answers with a
definition of another identifier is found out by the first run that resolves such a type: the type counts as
resolved and has no entry, for no resolution that ends makes one.

An entry for it could only come from a type that nests an element of yet another such type. That element
needs an entry as well, unless its owner gets a builder for the tag in the meantime, and the owner could only
get one if its own definition were entered again. So the argument is about entries and builders at once.

* `resolveWithin_of_le` — the bound on the depth of nestings decides about nothing but endless ones
* `Dependable` — what callers of resolution rely on
* `Spared` — what becomes of foreign types without entries and of the builders of entered types
* `sparing_resolveWithin` — a resolution that does not break down spares all types but the one it enters
* `Entangled.endless` — a definition that nests the type it is filed under is entered without end
* `unentered_of_foreign` — a foreign type counts as resolved and has no entry, at whatever depth
* `dependable_over_faithful` — over faithful providers runs are dependable, and over no other stateless ones
* `foreign_answer_breaks_run` — what happens otherwise
-/

namespace TaskBuilders.Generator

variable {g g' g'' : Generator}

/-! ## The bound -/

/-- One resolver does what another one does, unless the nesting is too deep for the first. -/
def Resolver.Within (r r' : Resolver) : Prop :=
  ∀ id g, (r id g).1 ≠ .crashed .endlessNesting → r' id g = r id g

theorem Resolver.Within.renderNested {r r' : Resolver} (h : r.Within r') (owner : Target) :
    ∀ (es : List NestedElement) (g : Generator),
      (renderNested r owner es g).1 ≠ some .endlessNesting →
        renderNested r' owner es g = renderNested r owner es g
  | [], _, _ => rfl
  | e :: es, g, hends => by
    have hrest := h.renderNested owner es
    have hsame := h e.type g
    unfold Generator.renderNested at hends ⊢
    split at hends
    · next hc => rw [if_pos hc, if_pos hc, hrest _ hends]
    · next hc =>
      rw [if_neg hc, if_neg hc]
      rcases hx : r e.type g with ⟨res, g'⟩
      rw [hx] at hends hsame
      cases res with
      | crashed c =>
        rw [hsame fun he => hends (congrArg Resolution.crash? he)]
      | unresolved =>
        rw [hsame (by simp)]
        exact hrest _ hends
      | resolved =>
        rw [hsame (by simp)]
        dsimp only at hends ⊢
        rcases hy : renderElement owner e g' with ⟨_ | c, g''⟩
        · rw [hy] at hends
          exact hrest _ hends
        · rfl

theorem Resolver.Within.addTarget {r r' : Resolver} (h : r.Within r') {d : TaskDefinition}
    (hends : (addTarget r d g).1 ≠ .crashed .endlessNesting) : addTarget r' d g = addTarget r d g := by
  have hsame := h.renderNested (g.openTarget d).1 d.nested (g.openTarget d).2
  simp only [Generator.addTarget] at hends ⊢
  rcases hx : Generator.renderNested r (g.openTarget d).1 d.nested (g.openTarget d).2 with ⟨_ | c, g'⟩
  · rw [hx] at hsame
    rw [hsame (by simp)]
  · rw [hx] at hsame hends
    rw [hsame fun he => hends (congrArg Resolution.crashed (Option.some.inj he))]

theorem within_succ (n : Nat) : (resolveWithin n).Within (resolveWithin (n + 1)) := by
  induction n with
  | zero => exact fun _ _ hends => absurd rfl hends
  | succ n ih =>
    intro id g hends
    unfold resolveWithin at hends ⊢
    cases ht : g.resolved.get? id with
    | some t => rfl
    | none =>
      rw [ht] at hends
      dsimp only at hends ⊢
      rcases hx : g.lookup id with ⟨_ | d, g'⟩
      · rfl
      · rw [hx] at hends
        exact ih.addTarget hends

/-- **The bound decides about nothing but endless nestings.** A resolution that ends within some depth ends
alike within every greater one. -/
theorem resolveWithin_of_le {n m : Nat} (hle : n ≤ m) : (resolveWithin n).Within (resolveWithin m) := by
  induction hle with
  | refl => exact fun _ _ _ => rfl
  | step _ ih =>
    intro id g hends
    have hsame := ih id g hends
    rw [within_succ _ id g (hsame ▸ hends), hsame]

/-! ## Dependable runs -/

/-- Whatever came before, a type that counts as resolved has an entry with a definition, and no request
breaks down. -/
def Dependable (g₀ : Generator) : Prop :=
  ∀ ops, let g := g₀.performAll ops
    (∀ id, (g.resolveClass id).1 = .resolved →
      ∃ t d, (g.resolveClass id).2.resolved.get? id = some t ∧ t.definition = some d) ∧
    ∀ r, g.crash? r = none

/-- Runs over faithful providers are dependable, whatever else the providers do. -/
theorem dependable_of_listed {p : Provider} {o : GeneratorOptions} {g₀ : Generator} (hl : p.Listed)
    (hf : p.Faithful) (hnew : Generator.new p o = .ok g₀) : g₀.Dependable := by
  intro ops g
  have hprovider : g.provider = p.safe :=
    (provider_performAll ops g₀).trans (fresh_of_new hnew).provider
  have hfaithful : g.provider.Faithful := hprovider ▸ hf.safe
  exact ⟨fun id h => entry_resolveClass hfaithful id h,
    fun r => crash?_of_listed hfaithful (hprovider ▸ hl.safe) r⟩

/-! ## Builders of a class -/

/-- A class has the same builders in both states. -/
def SameBuilders (name : String) (g g' : Generator) : Prop :=
  ∀ key, g'.library.functionAt? name key = g.library.functionAt? name key

namespace SameBuilders

variable {name : String}

theorem of_library (h : g'.library = g.library) : SameBuilders name g g' := fun _ => by rw [h]

theorem trans (h : SameBuilders name g g') (h' : SameBuilders name g' g'') : SameBuilders name g g'' :=
  fun key => (h' key).trans (h key)

theorem containsFunction_eq (h : SameBuilders name g g') (tag : String) :
    g'.library.containsFunction name tag = g.library.containsFunction name tag :=
  congrArg Option.isSome (h (Text.lowercase tag))

end SameBuilders

theorem sameBuilders_lookup (name : String) (g : Generator) (id : String) :
    SameBuilders name g (g.lookup id).2 := by
  rcases g.lookup_cases id with ⟨_, _, _, _, h⟩ | ⟨_, h⟩ | ⟨_, _, _, h⟩ | ⟨_, _, _, h⟩
  all_goals exact .of_library (by rw [h])

theorem sameBuilders_openTarget (name : String) (g : Generator) (d : TaskDefinition) :
    SameBuilders name g (g.openTarget d).2 := by
  obtain ⟨traits, hlibrary⟩ := g.library_openTarget d
  intro key
  rw [hlibrary, Structure.functionAt?_register rfl]

theorem sameBuilders_resolveContainer (name : String) (g : Generator) (id : String) :
    SameBuilders name g (g.resolveContainer id) := by
  unfold resolveContainer
  split
  · exact .of_library rfl
  · refine .trans (.of_library (sameBeyondNames_containerName g id).library) fun key => ?_
    exact Structure.functionAt?_register rfl name key

theorem sameBuilders_resolveContainers (name : String) : ∀ (ids : List String) (g : Generator),
    SameBuilders name g (g.resolveContainers ids)
  | [], _ => .of_library rfl
  | id :: ids, g =>
    (sameBuilders_resolveContainer name g id).trans (sameBuilders_resolveContainers name ids _)

/-- A builder is declared under the class of its parent. -/
theorem sameBuilders_render {name : String} {parent : Parent} (hne : name ≠ parent.type) (g : Generator)
    (path tag : String) (d : TaskDefinition) (className : String) :
    SameBuilders name g (g.render path parent tag d className) := by
  rcases g.render_cases path parent tag d className with h | ⟨log, h⟩ | ⟨_, _, h⟩
  · exact .of_library (by rw [h])
  · exact .of_library (by rw [h])
  · rw [h, build_eq]
    rcases declare_cases (g.writeForms path (g.immediate parent tag d className)) parent tag
        (d.descriptors className g.framework) className with ⟨_, hadd, h⟩ | ⟨_, _, h⟩
    · rw [h]
      exact Structure.functionAt?_addFunction_of_ne hadd hne
    · exact .of_library (by rw [h]; rfl)

/-! ## Entries -/

/-- A type has an entry, with the name of its class. -/
def Entered (g : Generator) (id name : String) : Prop :=
  ∃ t, g.resolved.get? id = some t ∧ t.className = name

/-- A step adds at most one entry, which may take the place of another. -/
theorem resolved_step (h : Step g g') :
    g'.resolved = g.resolved ∨ ∃ id t, g'.resolved = g.resolved.insert id t := by
  cases h with
  | note _ _ _ | openContainer _ => exact Or.inl rfl
  | nameContainer id => exact Or.inl (sameBeyondNames_containerName g id).resolved
  | @openTarget _ d _ =>
    obtain ⟨path, h⟩ := g.resolved_openTarget d
    exact Or.inr ⟨_, _, h⟩
  | define _ _ | place _ => exact Or.inr ⟨_, _, rfl⟩
  | build path parent tag d className =>
    exact Or.inl (sameBeyondBuilders_build g path parent tag d className).resolved

/-- An entered type keeps the name of its class, for the namer keeps it. -/
theorem Entered.step {id name : String} (h : g.Entered id name) (hnamed : Named g) (hm : Step g g') :
    g'.Entered id name := by
  obtain ⟨t, ht, rfl⟩ := h
  obtain ⟨t', ht'⟩ : ∃ t', g'.resolved.get? id = some t' := by
    rcases resolved_step hm with hr | ⟨i, u, hr⟩
    · exact ⟨t, hr ▸ ht⟩
    · rw [hr, Dict.get?_insert]
      split
      · exact ⟨u, rfl⟩
      · exact ⟨t, ht⟩
  obtain ⟨ident, hident, hclass⟩ := hnamed.types id t ht
  obtain ⟨ident', hident', hclass'⟩ := (hnamed.namingStep hm.namingStep).types id t' ht'
  rw [get?_names_namingStep hident hm.namingStep, Option.some.injEq] at hident'
  exact ⟨t', ht', by rw [hclass', hclass, hident', options_step hm]⟩

/-- The provider gives one answer per type, and the tables follow the namer. -/
structure Steady (g : Generator) : Prop where
  stateless : g.provider.Stateless
  named : Named g

theorem Steady.steps (h : Steady g) (hs : Steps g g') : Steady g' where
  stateless := provider_steps hs ▸ h.stateless
  named := hs.keeps (fun _ _ hm hn => hn.namingStep hm.namingStep) h.named

theorem Steady.entered (h : Steady g) (hs : Steps g g') {id name : String} (he : g.Entered id name) :
    g'.Entered id name :=
  (hs.keeps (I := fun g => Named g ∧ g.Entered id name)
    (fun _ _ hm hi => ⟨hi.1.namingStep hm.namingStep, hi.2.step hi.1 hm⟩) ⟨h.named, he⟩).2

/-- The provider answers for a type with another one, and the type has no entry. -/
structure Unentered (g : Generator) (x : String) : Prop where
  foreign : g.provider.Foreign x
  absent : g.resolved.get? x = none

/-! ## What a resolution spares -/

/-- But for some types, foreign types without an entry still have none, and the classes of entered types have
the builders that they had. -/
structure Spared (exempt : String → Prop) (g g' : Generator) : Prop where
  steps : Steps g g'
  absent : ∀ x, ¬ exempt x → g.Unentered x → g'.resolved.get? x = none
  builders : ∀ x name, ¬ exempt x → g.Entered x name → SameBuilders name g g'

namespace Spared

variable {exempt exempt' : String → Prop}

theorem refl (g : Generator) : Spared exempt g g :=
  ⟨.refl, fun _ _ h => h.absent, fun _ _ _ _ => .of_library rfl⟩

theorem trans (hs : Steady g) (h : Spared exempt g g') (h' : Spared exempt g' g'') :
    Spared exempt g g'' where
  steps := h.steps.trans h'.steps
  absent := fun x hx hu =>
    h'.absent x hx ⟨provider_steps h.steps ▸ hu.foreign, h.absent x hx hu⟩
  builders := fun x name hx he =>
    (h.builders x name hx he).trans (h'.builders x name hx (hs.entered h.steps he))

/-- Fewer types are spared. Types that are neither entered nor foreign do not matter. -/
theorem mono (h : Spared exempt g g')
    (he : ∀ x, exempt x → (g.Unentered x ∨ ∃ name, g.Entered x name) → exempt' x) :
    Spared exempt' g g' where
  steps := h.steps
  absent := fun x hx hu => h.absent x (fun hex => hx (he x hex (Or.inl hu))) hu
  builders := fun x name hx hn => h.builders x name (fun hex => hx (he x hex (Or.inr ⟨name, hn⟩))) hn

/-- An operation that enters no type spares those whose builders it leaves. -/
theorem of_sameTypes (hsteps : Steps g g') (h : SameTypes g g')
    (hbuilders : ∀ x name, ¬ exempt x → g.Entered x name → SameBuilders name g g') :
    Spared exempt g g' where
  steps := hsteps
  absent := by
    intro x _ hu
    have hsame := h.definitions x
    rwa [hu.absent, Option.map_none, Option.map_eq_none_iff] at hsame
  builders := hbuilders

end Spared

theorem spared_lookup {exempt : String → Prop} (g : Generator) (id : String) :
    Spared exempt g (g.lookup id).2 :=
  .of_sameTypes (g.steps_lookup id) (g.sameTypes_lookup id) fun _ name _ _ => sameBuilders_lookup name g id

/-- The type whose definition is filled in has an entry already. -/
theorem spared_define {exempt : String → Prop} {id : String} {t : Target}
    (hentry : g.resolved.get? id = some t) (d : TaskDefinition) :
    Spared exempt g { g with resolved := g.resolved.insert id { t with definition := some d } } where
  steps := .single (.define hentry d)
  absent := by
    intro x _ hu
    have hne : x ≠ id := by
      rintro rfl
      rw [hu.absent] at hentry
      cases hentry
    exact (Dict.get?_insert_of_ne _ _ hne).trans hu.absent
  builders := fun _ _ _ _ => .of_library rfl

/-- A builder on the wrapper of an entered type spares all other types, for no two have one name. -/
theorem spared_render {owner : Target} (hs : Steady g) (howner : g.Entered owner.id owner.className)
    (path tag : String) (d : TaskDefinition) (className : String) :
    Spared (· = owner.id) g (g.render path ⟨.owner, owner.className⟩ tag d className) := by
  refine .of_sameTypes (steps_render (by simp) _ _ _ _) (g.sameTypes_render _ _ _ _ _) ?_
  rintro x name hx ⟨u, hu, rfl⟩
  obtain ⟨t, ht, hclass⟩ := howner
  exact sameBuilders_render (fun he => hx (hs.named.eq_of_className hu ht (he.trans hclass.symm))) _ _ _ _ _

/-- The resolver enters a type for the one that is asked for. -/
def Resolver.Enters (r : Resolver) (y : String) (g : Generator) (x : String) : Prop :=
  (r y g).1 = .resolved ∧ g.resolved.get? y = none ∧ ∃ d, g.provider.definition? y = some d ∧ d.id = x

/-- A resolver that spares all types but the one it enters, unless it breaks down. -/
def Resolver.Sparing (r : Resolver) : Prop :=
  ∀ y g, Steady g → (r y g).1.crash? = none → Spared (r.Enters y g) g (r y g).2

/-- **A nested element that enters a type other than its owner under a foreign identifier breaks the
run**: it gets no entry of its own, and its owner no builder for the tag. -/
theorem Resolver.Sparing.eq_owner {r : Resolver} (hr : r.Sparing) (hs : Steady g) {owner : Target}
    {e : NestedElement} (howner : g.Entered owner.id owner.className)
    (hnew : g.library.containsFunction owner.className e.tag = false)
    (hturn : (r e.type g).2.library.containsFunction owner.className e.tag = true ∨
      ∃ t, (r e.type g).2.resolved.get? e.type = some t) {x : String} (hx : r.Enters e.type g x)
    (hknown : g.Unentered x ∨ ∃ name, g.Entered x name) : x = owner.id := by
  obtain ⟨hresolved, habsent, d, hd, rfl⟩ := hx
  have hforeign : d.id ≠ e.type := by
    intro he
    rcases hknown with hu | ⟨_, t, ht, _⟩
    · exact hu.foreign.id_ne (he ▸ hd) rfl
    · rw [he, habsent] at ht
      cases ht
  have hother : ∀ x, r.Enters e.type g x → x = d.id := by
    rintro _ ⟨_, _, d', hd', rfl⟩
    rw [hd] at hd'
    rw [Option.some.inj hd']
  have hspared := hr e.type g hs (by rw [hresolved]; rfl)
  by_contra hne
  rcases hturn with hc | ⟨t, ht⟩
  · have hsame := hspared.builders owner.id owner.className (fun h => hne (hother _ h).symm) howner
    rw [hsame.containsFunction_eq, hnew] at hc
    cases hc
  · rw [hspared.absent e.type (fun h => hforeign (hother _ h).symm) ⟨⟨d, hd, hforeign⟩, habsent⟩] at ht
    cases ht

/-- A task that nests another one, which is filed under the first and nests a third. -/
def refiledTasks : Dict (Option TaskDefinition) :=
  Dict.ofList [("b.Task", some { id := "b.Task", nested := [⟨"x", "a.Task"⟩] }),
    ("a.Task", some { id := "b.Task", nested := [⟨"x", "c.Task"⟩] }), ("c.Task", some { id := "c.Task" })]

/-- The owner itself may be entered: its builder is there then, and nothing breaks. -/
example : (Generator.new (.table refiledTasks) { importPath := "m/out", runtimePath := "m/rt" }).toOption.map
    (fun g => ((g.resolveClass "b.Task").1, (g.resolveClass "b.Task").2.resolved.contains "a.Task")) =
      some (.resolved, false) := by
  decide +kernel

theorem spared_renderNested {r : Resolver} (hr : r.Sparing) (owner : Target) :
    ∀ (es : List NestedElement) {g : Generator}, Steady g → g.Entered owner.id owner.className →
      (renderNested r owner es g).1 = none → Spared (· = owner.id) g (renderNested r owner es g).2
  | [], g, _, _, _ => .refl g
  | e :: es, g, hs, howner, hnone => by
    have hspared := hr e.type g hs
    obtain ⟨g', he, hturn⟩ := renderNested_cons_cases hnone
    have hturn : Spared (· = owner.id) g g' := by
      rcases hturn with ⟨_, rfl⟩ | ⟨hnew, ⟨hres, note, rfl⟩ | ⟨hres, ⟨hc, rfl⟩ | ⟨t, d, ht, _, rfl⟩⟩⟩
      · exact .refl g'
      · -- nothing is entered for a type that is not resolved
        have hfirst : Spared (· = owner.id) g (r e.type g).2 :=
          (hspared (by rw [hres]; rfl)).mono fun x hx _ => by
            rw [Resolver.Enters, hres] at hx
            cases hx.1
        exact hfirst.trans hs (.of_sameTypes (steps_logging _ _) (sameTypes_logging _ _)
          fun _ _ _ _ => .of_library rfl)
      · exact (hspared (by rw [hres]; rfl)).mono fun x hx hknown =>
          hr.eq_owner hs howner hnew (Or.inl hc) hx hknown
      · have hfirst : Spared (· = owner.id) g (r e.type g).2 :=
          (hspared (by rw [hres]; rfl)).mono fun x hx hknown =>
            hr.eq_owner hs howner hnew (Or.inr ⟨t, ht⟩) hx hknown
        exact hfirst.trans hs
          (spared_render (hs.steps hfirst.steps) (hs.entered hfirst.steps howner) _ _ _ _)
    rw [he] at hnone ⊢
    exact hturn.trans hs (spared_renderNested hr owner es (hs.steps hturn.steps)
      (hs.entered hturn.steps howner) hnone)

theorem addTarget_of_uncrashed {r : Resolver} {d : TaskDefinition}
    (h : (addTarget r d g).1.crash? = none) : (addTarget r d g).1 = .resolved := by
  rcases addTarget_cases r d g with ⟨c, _, _, ha⟩ | ⟨_, _, ha⟩
  · rw [ha] at h
    cases h
  · rw [ha]

theorem spared_addTarget {r : Resolver} (hr : r.Sparing) {id : String} {d : TaskDefinition}
    (hs : Steady g) (hfound : g.Finds id d) (hcrash : (addTarget r d g).1.crash? = none) :
    Spared (· = d.id) g (addTarget r d g).2 := by
  obtain ⟨path, hresolved⟩ := g.resolved_openTarget d
  have hopen : Spared (· = d.id) g (g.openTarget d).2 :=
    ⟨.single (.openTarget hfound),
      fun x hx hu => by rw [hresolved, Dict.get?_insert_of_ne _ _ hx, hu.absent],
      fun _ name _ _ => sameBuilders_openTarget name g d⟩
  have howner : (g.openTarget d).2.Entered (g.openTarget d).1.id (g.openTarget d).1.className :=
    ⟨⟨d.id, some d, (g.namer.resultName d.id).1, some path⟩,
      by rw [hresolved]; exact Dict.get?_insert_self _ _ _, rfl⟩
  have hnested := spared_renderNested hr (g.openTarget d).1 d.nested (hs.steps hopen.steps) howner
  rcases addTarget_cases r d g with ⟨c, g', _, ha⟩ | ⟨g', hn, ha⟩
  · rw [ha] at hcrash
    cases hcrash
  · rw [hn] at hnested
    have hinner := hopen.trans hs (hnested rfl)
    have hcontainers : ∀ (ids : List String) (g : Generator),
        Spared (· = d.id) g (g.resolveContainers ids) := fun ids g =>
      .of_sameTypes (g.steps_resolveContainers ids) (g.sameTypes_resolveContainers ids)
        fun _ name _ _ => sameBuilders_resolveContainers name ids g
    rw [ha]
    exact (hinner.trans hs (hcontainers d.capabilities g')).trans hs (hcontainers d.nestedTypes _)

/-- **A resolution that does not break down spares all types but the one it enters.** -/
theorem sparing_resolveWithin (n : Nat) : (resolveWithin n).Sparing := by
  induction n with
  | zero =>
    intro y g _ hcrash
    cases hcrash
  | succ n ih =>
    intro y g hs hcrash
    have hlookup (exempt : String → Prop) : Spared exempt g (g.lookup y).2 := g.spared_lookup y
    have hsteps := g.steps_lookup y
    have hsame := g.resolved_lookup y
    cases ht : g.resolved.get? y with
    | some t =>
      by_cases hd : t.definition.isSome = true
      · have hr : resolveWithin (n + 1) y g = (.resolved, g) := by simp [resolveWithin, ht, hd]
        rw [hr]
        exact .refl g
      · rcases hx : g.lookup y with ⟨_ | d, g'⟩
        · have hr : resolveWithin (n + 1) y g = (.unresolved, g') := by simp [resolveWithin, ht, hd, hx]
          rw [hx] at hlookup
          rw [hr]
          exact hlookup _
        · have hr : resolveWithin (n + 1) y g = (.resolved,
              { g' with resolved := g'.resolved.insert y { t with definition := some d } }) := by
            simp [resolveWithin, ht, hd, hx]
          rw [hx] at hlookup hsame
          have hentry : g'.resolved.get? y = some t := hsame ▸ ht
          rw [hr]
          exact (hlookup _).trans hs (spared_define hentry d)
    | none =>
      rcases hx : g.lookup y with ⟨_ | d, g'⟩
      · have hr : resolveWithin (n + 1) y g = (.unresolved, g') := by simp [resolveWithin, ht, hx]
        rw [hx] at hlookup
        rw [hr]
        exact hlookup _
      · have hr : resolveWithin (n + 1) y g = addTarget (resolveWithin n) d g' := by
          simp [resolveWithin, ht, hx]
        have hfound : g.Finds y d := finds_of_lookup (by rw [ht, Option.bind_none]) (by rw [hx])
        have hdefinition : g.provider.definition? y = some d := by
          obtain ⟨m, hm⟩ := hfound
          exact hs.stateless.found_iff.1 hm
        rw [hx] at hlookup hsteps
        have hfound' : g'.Finds y d := by
          rw [Finds, provider_steps hsteps]
          exact hfound
        rw [hr] at hcrash
        have hresolved : (resolveWithin (n + 1) y g).1 = .resolved := by
          rw [hr, addTarget_of_uncrashed hcrash]
        have hadd := spared_addTarget ih (hs.steps hsteps) hfound' hcrash
        rw [← hr] at hadd
        exact ((hlookup _).trans hs hadd).mono fun x hx _ => ⟨hresolved, ht, d, hdefinition, hx.symm⟩

/-! ## Nestings without end -/

/-- The provider answers for a type with another one that nests the type first. Nothing is known about the
type, and no class has a builder for the tag. -/
structure Entangled (g : Generator) (id : String) (d : TaskDefinition) (tag : String) : Prop where
  stateless : g.provider.Stateless
  answer : g.provider.definition? id = some d
  foreign : d.id ≠ id
  first : ∃ rest, d.nested = ⟨tag, id⟩ :: rest
  absent : g.resolved.get? id = none
  unasked : id ∉ g.missing
  unbuilt : ∀ name, g.library.containsFunction name tag = false

namespace Entangled

variable {id tag : String} {d : TaskDefinition}

theorem lookup (h : Entangled g id d tag) : ∃ memory, g.lookup id = (some d, { g with memory }) := by
  rcases g.lookup_cases id with ⟨_, _, ht, _⟩ | ⟨hm, _⟩ | ⟨d', memory, hfound, hl⟩ | ⟨_, _, hno, _⟩
  · rw [h.absent] at ht
    cases ht
  · exact absurd hm h.unasked
  · have hd := h.stateless.found_iff.1 hfound
    rw [h.answer] at hd
    exact ⟨memory, by rw [hl, Option.some.inj hd]⟩
  · exact absurd (h.stateless.found_iff.2 h.answer) (hno d)

theorem remember (h : Entangled g id d tag) (memory : Memory) : Entangled { g with memory } id d tag :=
  ⟨h.stateless, h.answer, h.foreign, h.first, h.absent, h.unasked, h.unbuilt⟩

/-- Entering the definition changes nothing of that. -/
theorem openTarget (h : Entangled g id d tag) : Entangled (g.openTarget d).2 id d tag := by
  obtain ⟨path, hresolved⟩ := g.resolved_openTarget d
  obtain ⟨_, _, hmissing, _⟩ := g.openTarget_frame d
  have hprovider := provider_openTarget g d
  exact {
    stateless := hprovider ▸ h.stateless
    answer := hprovider ▸ h.answer
    foreign := h.foreign
    first := h.first
    absent := by rw [hresolved, Dict.get?_insert_of_ne _ _ (Ne.symm h.foreign), h.absent]
    unasked := hmissing ▸ h.unasked
    unbuilt := fun name => by
      rw [(sameBuilders_openTarget name g d).containsFunction_eq, h.unbuilt] }

/-- **Such a type is entered again and again**, however deep nestings may be. -/
theorem endless (n : Nat) {g : Generator} (h : Entangled g id d tag) :
    (resolveWithin n id g).1 = .crashed .endlessNesting := by
  induction n generalizing g with
  | zero => rfl
  | succ n ih =>
    obtain ⟨memory, hl⟩ := h.lookup
    obtain ⟨rest, hnested⟩ := h.first
    have hopen := (h.remember memory).openTarget
    have hagain := ih hopen
    have hr : resolveWithin (n + 1) id g = addTarget (resolveWithin n) d { g with memory } := by
      simp [resolveWithin, h.absent, hl]
    rcases hx : resolveWithin n id (Generator.openTarget { g with memory } d).2 with ⟨res, g'⟩
    rw [hx] at hagain
    obtain rfl : res = .crashed .endlessNesting := hagain
    simp [hr, addTarget, hnested, renderNested, hopen.unbuilt, hx]

/-- A fresh run knows nothing and has no builders. -/
theorem of_new {p : Provider} {o : GeneratorOptions} {g₀ : Generator} (hs : p.Stateless)
    (hnew : Generator.new p o = .ok g₀) (hd : p.definition? id = some d) (hforeign : d.id ≠ id)
    (hfirst : ∃ rest, d.nested = ⟨tag, id⟩ :: rest) : Entangled g₀ id d tag := by
  have hfresh := fresh_of_new hnew
  exact {
    stateless := hfresh.provider ▸ hs.safe
    answer := by rw [hfresh.provider, Provider.definition?_safe, hd]
    foreign := hforeign
    first := hfirst
    absent := by simp [hfresh.resolved]
    unasked := by simp [hfresh.missing]
    unbuilt := fun name => by
      rw [Structure.containsFunction_eq_false_iff, functionAt?_of_fresh hfresh] }

end Entangled

/-! ## Providers that answer with other types -/

/-- **A foreign type is resolved without an entry** by a fresh run, however deep nestings may be, unless
the run breaks down. -/
theorem unentered_of_foreign {p : Provider} {o : GeneratorOptions} {g₀ : Generator}
    (hs : p.Stateless) (hnew : Generator.new p o = .ok g₀) {id : String} (hforeign : p.Foreign id)
    {depth : Nat} (hends : (resolveWithin depth id g₀).1.crash? = none) :
    (resolveWithin depth id g₀).1 = .resolved ∧ (resolveWithin depth id g₀).2.resolved.get? id = none := by
  have hfresh := fresh_of_new hnew
  have hforeign : g₀.provider.Foreign id := by rwa [hfresh.provider, Provider.foreign_safe_iff]
  have hstateless : g₀.provider.Stateless := hfresh.provider ▸ hs.safe
  have hspared := sparing_resolveWithin depth id g₀ ⟨hstateless, .fresh hfresh⟩ hends
  have habsent : (resolveWithin depth id g₀).2.resolved.get? id = none :=
    hspared.absent id (fun ⟨_, _, _, hd, he⟩ => hforeign.id_ne hd he)
      ⟨hforeign, by simp [hfresh.resolved]⟩
  refine ⟨?_, habsent⟩
  cases hr : (resolveWithin depth id g₀).1 with
  | resolved => rfl
  | crashed c =>
    rw [hr] at hends
    cases hends
  | unresolved =>
    -- nothing is missing yet, and the provider has an answer
    obtain ⟨d, hd, _⟩ := hforeign
    have hlookup := lookup_of_unresolved hr
    rcases g₀.lookup_cases id with ⟨_, _, _, _, hl⟩ | ⟨hm, _⟩ | ⟨_, _, _, hl⟩ | ⟨_, _, hno, _⟩
    · rw [hl] at hlookup
      cases hlookup
    · rw [hfresh.missing] at hm
      cases hm
    · rw [hl] at hlookup
      cases hlookup
    · exact absurd (hstateless.found_iff.2 hd) (hno d)

/-- A fresh run over a provider that answers with another type is not dependable. -/
theorem faithful_of_dependable {p : Provider} {o : GeneratorOptions} {g₀ : Generator}
    (hs : p.Stateless) (hnew : Generator.new p o = .ok g₀) (h : g₀.Dependable) : p.Faithful := by
  refine hs.faithful_of_not_foreign fun id hforeign => ?_
  obtain ⟨hentry, hcrash⟩ := h []
  obtain ⟨hresolved, habsent⟩ := unentered_of_foreign hs hnew hforeign (hcrash (.resolve id))
  obtain ⟨t, _, ht, _⟩ := hentry id hresolved
  have habsent : (g₀.resolveClass id).2.resolved.get? id = none := habsent
  exact Option.some_ne_none t (ht.symm.trans habsent)

/-- **Runs are dependable over faithful providers, and over no other stateless ones.** A faithful provider
may answer with nothing, fail, crash and answer differently the next time, as long as it knows no types
beyond its list. The bound on nestings plays no part in that: a type that is answered for with another one
counts as resolved and has no entry at whatever depth its resolution ends. -/
theorem dependable_over_faithful {p : Provider} {o : GeneratorOptions} {g₀ : Generator}
    (hnew : Generator.new p o = .ok g₀) :
    (p.Listed → p.Faithful → g₀.Dependable) ∧ (p.Stateless → g₀.Dependable → p.Faithful) ∧
    (p.Stateless → ∀ id, p.Foreign id → ∀ depth, (resolveWithin depth id g₀).1.crash? = none →
      (resolveWithin depth id g₀).1 = .resolved ∧
        (resolveWithin depth id g₀).2.resolved.get? id = none) :=
  ⟨fun hl hf => dependable_of_listed hl hf hnew, fun hs h => faithful_of_dependable hs hnew h,
    fun hs _ hforeign _ hends => unentered_of_foreign hs hnew hforeign hends⟩

/-- An anvil that nests a type for which there is no answer, and itself. -/
def anvilTable : Dict (Option TaskDefinition) :=
  Dict.ofList [("x.Gone", none),
    ("x.Anvil", some {
      id := "x.Anvil"
      executable := true
      nested := [⟨"gone", "x.Gone"⟩, ⟨"next", "x.Anvil"⟩] })]

theorem dependable_over_faithful_anvilTable :
    ∃ g₀, Generator.new (.table anvilTable) { importPath := "m/out", runtimePath := "m/rt" } = .ok g₀ ∧
      (Provider.table anvilTable).Listed ∧ (Provider.table anvilTable).Faithful ∧ g₀.Dependable := by
  have hl := Provider.listed_table anvilTable
  have hf : (Provider.table anvilTable).Faithful := by
    intro id m d h
    have hmem := Dict.mem_of_get?_ofList (Provider.get?_of_table h)
    simp only [List.mem_cons, Prod.mk.injEq, Option.some.injEq, reduceCtorEq, and_false, false_or,
      List.not_mem_nil, or_false] at hmem
    rw [hmem.1, hmem.2]
  refine ⟨_, rfl, hl, hf, ?_⟩
  exact (dependable_over_faithful (o := { importPath := "m/out", runtimePath := "m/rt" }) rfl).1 hl hf

/-- A type that is filed under the identifier of another one. -/
def misfiledTask : Dict (Option TaskDefinition) :=
  Dict.ofList [("a.Task", some { id := "b.Task", executable := true })]

/-- A misfiled type that nests what it is filed under. -/
def misfiledNest : Dict (Option TaskDefinition) :=
  Dict.ofList [("a.Task", some { id := "b.Task", nested := [⟨"inner", "a.Task"⟩] })]

/-- The misfiled type counts as resolved and has no entry, which breaks its default alias; the one that
nests what it is filed under is entered without end, whatever the bound on nestings. -/
theorem foreign_answer_breaks_run :
    (Provider.table misfiledTask).Listed ∧ (Provider.table misfiledNest).Listed ∧
    ∃ g h, Generator.new (.table misfiledTask) { importPath := "m/out", runtimePath := "m/rt" } = .ok g ∧
      Generator.new (.table misfiledNest) { importPath := "m/out", runtimePath := "m/rt" } = .ok h ∧
      (g.resolveClass "a.Task").1 = .resolved ∧
      (g.resolveClass "a.Task").2.resolved.contains "a.Task" = false ∧
      g.crash? (.defaults ["a.Task"]) = some .missingTarget ∧
      h.crash? (.tagAlias ⟨"task", "a.Task", true⟩) = some .endlessNesting ∧
      (∀ depth, (resolveWithin depth "a.Task" h).1 = .crashed .endlessNesting) ∧
      ¬ g.Dependable ∧ ¬ h.Dependable := by
  refine ⟨Provider.listed_table _, Provider.listed_table _, _, _, rfl, rfl, ?_, ?_, ?_, ?_, ?_, ?_, ?_⟩
  · decide +kernel
  · decide +kernel
  · decide +kernel
  · decide +kernel
  · have hstateless : (Provider.table misfiledNest).Stateless := fun _ _ _ => rfl
    have hentangled := Entangled.of_new hstateless
      (o := { importPath := "m/out", runtimePath := "m/rt" }) rfl
      (d := { id := "b.Task", nested := [⟨"inner", "a.Task"⟩] }) rfl (by decide) ⟨[], rfl⟩
    exact fun depth => hentangled.endless depth
  · intro hdependable
    have hcrash := (hdependable []).2 (.defaults ["a.Task"])
    revert hcrash
    decide +kernel
  · intro hdependable
    have hcrash := (hdependable []).2 (.tagAlias ⟨"task", "a.Task", true⟩)
    revert hcrash
    decide +kernel

end TaskBuilders.Generator
