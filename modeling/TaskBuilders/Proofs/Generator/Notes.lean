import TaskBuilders.Proofs.Generator.Loading

/-!
# What a run only notes

Beside its results a run keeps a log, a list of the identifiers that turned out to be missing, and what its
providers remember. Nothing of that has a say in the results when the provider answers alike every time:
a missing identifier is one that the provider would not find again.

* `Alike` — states that differ in their notes only
* `Truthful` — what is noted and what is resolved is what the provider says
* `Truthful.lookup` — looking a definition up gives the answer of the provider, and only notes something
* `Alike.openTarget`, `Alike.generateConstructors`, … — operations take alike states to alike states
-/

namespace TaskBuilders.Generator

open Naming

variable {g g' g'' : Generator}

/-! ## Alike states -/

/-- What a run keeps beside its results. -/
structure Notes where
  /-- The identifiers that the provider does not know. -/
  missing : List String
  /-- What providers remember. -/
  memory : Memory
  log : List LogRecord

/-- The run with other notes. -/
def noting (g : Generator) (n : Notes) : Generator :=
  { g with missing := n.missing, memory := n.memory, log := n.log }

/-- The notes of a run. -/
def notes (g : Generator) : Notes := ⟨g.missing, g.memory, g.log⟩

section noting

variable (g : Generator) (n : Notes)

@[simp] theorem options_noting : (g.noting n).options = g.options := rfl

@[simp] theorem provider_noting : (g.noting n).provider = g.provider := rfl

@[simp] theorem library_noting : (g.noting n).library = g.library := rfl

@[simp] theorem resolved_noting : (g.noting n).resolved = g.resolved := rfl

@[simp] theorem functions_noting : (g.noting n).functions = g.functions := rfl

@[simp] theorem containersDone_noting : (g.noting n).containersDone = g.containersDone := rfl

@[simp] theorem needsContainer_noting (id : String) :
    (g.noting n).needsContainer id = g.needsContainer id := rfl

@[simp] theorem plan_noting (parent : Parent) (tag : String) (d : TaskDefinition) (className : String) :
    (g.noting n).plan parent tag d className = g.plan parent tag d className := rfl

end noting

/-- `g'` differs from `g` in its notes at most. -/
def Alike (g g' : Generator) : Prop := ∃ n, g' = g.noting n

/-- The same answer, with alike states. -/
def Matches {α : Type} (x y : α × Generator) : Prop := x.1 = y.1 ∧ Alike x.2 y.2

theorem Matches.forms {α : Type} {x y : α × Generator} (h : Matches x y) :
    ∃ a g n, x = (a, g) ∧ y = (a, g.noting n) := by
  obtain ⟨ha, n, hn⟩ := h
  exact ⟨x.1, x.2, n, rfl, Prod.ext ha.symm hn⟩

namespace Alike

theorem refl (g : Generator) : Alike g g := ⟨g.notes, rfl⟩

theorem symm (h : Alike g g') : Alike g' g := by
  obtain ⟨n, rfl⟩ := h
  exact ⟨g.notes, rfl⟩

theorem trans (h : Alike g g') (h' : Alike g' g'') : Alike g g'' := by
  obtain ⟨n, rfl⟩ := h
  obtain ⟨n', rfl⟩ := h'
  exact ⟨n', rfl⟩

theorem library (h : Alike g g') : g'.library = g.library := by
  obtain ⟨n, rfl⟩ := h
  rfl

theorem resolved (h : Alike g g') : g'.resolved = g.resolved := by
  obtain ⟨n, rfl⟩ := h
  rfl

theorem logging (h : Alike g g') (r r' : LogRecord) : Alike (g.logging r) (g'.logging r') := by
  obtain ⟨n, rfl⟩ := h
  exact ⟨{ n with log := n.log ++ [r'] }, rfl⟩

/-- A record more is a note. -/
theorem logging_right (h : Alike g g') (r : LogRecord) : Alike g (g'.logging r) := by
  obtain ⟨n, rfl⟩ := h
  exact ⟨{ n with log := n.log ++ [r] }, rfl⟩

theorem containerName (h : Alike g g') (id : String) :
    Matches (g.containerName id) (g'.containerName id) := by
  obtain ⟨n, rfl⟩ := h
  cases hid : g.containerNames.get? id with
  | some name =>
    rw [containerName_of_some hid, containerName_of_some (g := g.noting n) hid]
    exact ⟨rfl, n, rfl⟩
  | none =>
    rw [containerName_of_none hid, containerName_of_none (g := g.noting n) hid]
    exact ⟨rfl, n, rfl⟩

theorem containerNamesOf : ∀ (ids : List String) {g g' : Generator}, Alike g g' →
    Matches (containerNamesOf ids g) (containerNamesOf ids g')
  | [], _, _, h => ⟨rfl, h⟩
  | id :: ids, g, g', h => by
    obtain ⟨hname, hstate⟩ := h.containerName id
    obtain ⟨hnames, hstate'⟩ := containerNamesOf ids hstate
    exact ⟨congrArg₂ List.cons hname hnames, hstate'⟩

theorem enterTarget (h : Alike g g') (d : TaskDefinition) (name : String)
    (containers : List String) :
    Matches (g.enterTarget d name containers) (g'.enterTarget d name containers) := by
  obtain ⟨n, rfl⟩ := h
  exact ⟨rfl, ((g.noting n).enterTarget d name containers).2.notes, rfl⟩

theorem openTarget (h : Alike g g') (d : TaskDefinition) :
    Matches (g.openTarget d) (g'.openTarget d) := by
  obtain ⟨n, rfl⟩ := h
  have hnamed : Alike { g with namer := (g.namer.resultName d.id).2 }
      { g.noting n with namer := (g.namer.resultName d.id).2 } := ⟨n, rfl⟩
  obtain ⟨hnames, hstate⟩ := hnamed.containerNamesOf (d.nestedTypes.filter g.needsContainer)
  have hcontainers : ((g.noting n).nameTarget d).2.1 = (g.nameTarget d).2.1 := hnames.symm
  rw [openTarget_eq, openTarget_eq, hcontainers]
  exact hstate.enterTarget d _ _

theorem openContainer (h : Alike g g') (id : String) {name name' : String} (hname : name = name') :
    Alike (g.openContainer id name) (g'.openContainer id name') := by
  obtain ⟨n, rfl⟩ := h
  subst hname
  exact ⟨((g.noting n).openContainer id name).notes, rfl⟩

theorem resolveContainer (h : Alike g g') (id : String) :
    Alike (g.resolveContainer id) (g'.resolveContainer id) := by
  have hname := h.containerName id
  obtain ⟨n, rfl⟩ := h
  unfold Generator.resolveContainer
  rw [containersDone_noting, needsContainer_noting]
  by_cases hguard : (g.containersDone.contains id || !g.needsContainer id) = true
  · rw [if_pos hguard, if_pos hguard]
    exact ⟨n, rfl⟩
  · rw [if_neg hguard, if_neg hguard]
    exact hname.2.openContainer id hname.1

/-- What a step keeps alike, a walk over a list keeps alike. -/
theorem foldl {α : Type} {f : Generator → α → Generator}
    (hf : ∀ {g g'} a, Alike g g' → Alike (f g a) (f g' a)) :
    ∀ (as : List α) {g g' : Generator}, Alike g g' → Alike (as.foldl f g) (as.foldl f g')
  | [], _, _, h => h
  | a :: as, _, _, h => foldl hf as (hf a h)

theorem resolveContainers (h : Alike g g') (ids : List String) :
    Alike (g.resolveContainers ids) (g'.resolveContainers ids) :=
  foldl (fun id h => h.resolveContainer id) ids h

theorem declare (h : Alike g g') (parent : Parent) (tag : String)
    (attrs : List AttributeDescriptor) (className : String) :
    Alike (g.declare parent tag attrs className) (g'.declare parent tag attrs className) := by
  obtain ⟨n, rfl⟩ := h
  unfold Generator.declare
  rw [library_noting, options_noting]
  cases g.library.addFunction parent.type tag (builderName parent tag) g.options.importPath attrs
      className with
  | ok library => exact ⟨n, rfl⟩
  | error e => exact ⟨n, rfl⟩

theorem build (h : Alike g g') (path : String) (parent : Parent) (tag : String)
    (d : TaskDefinition) (className : String) :
    Alike (g.build path parent tag d className) (g'.build path parent tag d className) := by
  obtain ⟨n, rfl⟩ := h
  rw [build_eq, build_eq]
  exact declare ⟨n, rfl⟩ _ _ _ _

theorem render (h : Alike g g') (path : String) {parent parent' : Parent} (hparent : parent = parent')
    (tag : String) (d : TaskDefinition) (className : String) :
    Alike (g.render path parent tag d className) (g'.render path parent' tag d className) := by
  subst hparent
  have hbuild := h.build path parent tag d className
  obtain ⟨n, rfl⟩ := h
  unfold Generator.render
  rw [library_noting, functions_noting, plan_noting]
  by_cases hc : g.library.containsFunction parent.type tag = true
  · rw [if_pos hc, if_pos hc]
    exact ⟨n, rfl⟩
  · rw [if_neg hc, if_neg hc]
    cases (g.plan parent tag d className).find?
        (fun b => g.functions.contains (functionScope parent ++ b.funcName)) with
    | some b => exact logging ⟨n, rfl⟩ _ _
    | none => exact hbuild

theorem renderInContainer (h : Alike g g') (path : String) (t : Target) (d : TaskDefinition)
    (tag capability : String) : Alike (renderInContainer path t d tag g capability)
      (renderInContainer path t d tag g' capability) := by
  have hname := (h.resolveContainer capability).containerName capability
  obtain ⟨n, rfl⟩ := h
  unfold Generator.renderInContainer
  rw [needsContainer_noting]
  by_cases hc : (!g.needsContainer capability) = true
  · rw [if_pos hc, if_pos hc]
    exact logging ⟨n, rfl⟩ _ _
  · rw [if_neg hc, if_neg hc]
    exact hname.2.render _ (congrArg (Parent.mk .container) hname.1) _ _ _

theorem generateConstructors (h : Alike g g') (id tag : String) (topLevel : Bool) :
    Alike (g.generateConstructors id tag topLevel) (g'.generateConstructors id tag topLevel) := by
  obtain ⟨n, rfl⟩ := h
  unfold Generator.generateConstructors
  rw [resolved_noting]
  cases g.resolved.get? id with
  | none => exact ⟨n, rfl⟩
  | some t =>
    dsimp only
    cases t.definition with
    | none => exact ⟨n, rfl⟩
    | some d =>
      have hplace : Alike (g.placeTarget id t) ((g.noting n).placeTarget id t) := ⟨n, rfl⟩
      refine foldl (fun c h => h.renderInContainer _ _ d tag c) d.capabilities ?_
      by_cases hroot : (topLevel && d.topLevel) = true
      · rw [if_pos hroot, if_pos hroot]
        exact hplace.render _ rfl tag d _
      · rw [if_neg hroot, if_neg hroot]
        exact hplace

end Alike

/-! ## Truthful states -/

/-- The provider answers with definitions of the identifiers that it is asked for, and alike every time;
definitions in the table are those that it answers with, and it does not know what is missing. -/
structure Truthful (g : Generator) : Prop where
  faithful : g.provider.Faithful
  stateless : g.provider.Stateless
  definition : ∀ id t d, g.resolved.get? id = some t → t.definition = some d →
    g.provider.definition? id = some d
  missing : ∀ id ∈ g.missing, g.provider.definition? id = none

theorem missing_adoptClass (g : Generator) (c : StructureClass) :
    (g.adoptClass c).missing = g.missing := by
  unfold adoptClass
  split
  · rfl
  · split <;> rfl

theorem missing_settleRuntime (g : Generator) (s : Structure) :
    (g.settleRuntime s).missing = g.missing := by
  unfold settleRuntime
  split
  · rfl
  · split <;> rfl

theorem missing_load (g : Generator) (l : Loading) : (g.load l).missing = g.missing := by
  cases h : g.samePackage l with
  | true => rw [load_of_own h]
  | false =>
    rw [load_of_other h]
    show (l.library.listing.foldl adoptClass _).missing = _
    rw [foldl_adoptClass (f := missing) missing_adoptClass]
    exact missing_settleRuntime g l.library

namespace Truthful

theorem of_same (h : Truthful g) (hprovider : g'.provider = g.provider)
    (hresolved : g'.resolved = g.resolved) (hmissing : g'.missing = g.missing) : Truthful g' where
  faithful := hprovider ▸ h.faithful
  stateless := hprovider ▸ h.stateless
  definition := by rw [hresolved, hprovider]; exact h.definition
  missing := by rw [hmissing, hprovider]; exact h.missing

/-- An entry that has no definition, or the provider's. -/
theorem insert (h : Truthful g) {id : String} {t : Target}
    (ht : ∀ d, t.definition = some d → g.provider.definition? id = some d)
    (hprovider : g'.provider = g.provider) (hresolved : g'.resolved = g.resolved.insert id t)
    (hmissing : g'.missing = g.missing) : Truthful g' where
  faithful := hprovider ▸ h.faithful
  stateless := hprovider ▸ h.stateless
  definition := by
    rw [hresolved, hprovider]
    intro i u d hu hd
    rcases Dict.get?_insert_cases hu with ⟨rfl, rfl⟩ | hu
    · exact ht d hd
    · exact h.definition i u d hu hd
  missing := by rw [hmissing, hprovider]; exact h.missing

theorem definition?_of_finds (h : Truthful g) {id : String} {d : TaskDefinition}
    (hfound : g.Finds id d) : g.provider.definition? id = some d := by
  obtain ⟨m, hm⟩ := hfound
  exact h.stateless.found_iff.1 hm

theorem definition?_eq_none (h : Truthful g) {id : String} {m : Memory}
    (hunknown : ∀ d, (g.provider.ask id m).1 ≠ .found d) : g.provider.definition? id = none := by
  cases hd : g.provider.definition? id with
  | none => rfl
  | some d => exact absurd (h.stateless.found_iff.2 hd) (hunknown d)

theorem move (h : Truthful g) (hm : Move g g') : Truthful g' := by
  have hprovider := hm.extends.provider
  cases hm with
  | note memory log => exact h.of_same rfl rfl rfl
  | @miss id memory log hunknown =>
    refine ⟨h.faithful, h.stateless, h.definition, fun i hi => ?_⟩
    rcases List.mem_cons.1 hi with rfl | hi
    · exact h.definition?_eq_none hunknown
    · exact h.missing i hi
  | nameContainer id =>
    have hs := sameBeyondNames_containerName g id
    exact h.of_same hs.provider hs.resolved hs.missing
  | openContainer _ _ _ => exact h.of_same rfl rfl rfl
  | @openTarget d _ hfound =>
    obtain ⟨path, hresolved⟩ := g.resolved_openTarget d
    obtain ⟨_, _, hmissing, _⟩ := g.openTarget_frame d
    refine h.insert (fun d' hd' => ?_) hprovider hresolved hmissing
    obtain rfl := Option.some.inj hd'
    exact h.definition?_of_finds hfound
  | @define id t d _ _ hfound =>
    refine h.insert (t := { t with definition := some d }) (fun d' hd' => ?_) rfl rfl rfl
    obtain rfl := Option.some.inj hd'
    exact h.definition?_of_finds hfound
  | @place id t hresolved =>
    exact h.insert (t := { t with file := some (g.targetPath t) })
      (fun d hd => h.definition id t d hresolved hd) rfl rfl rfl
  | @build path parent tag _ t d _ _ _ _ _ _ =>
    have hs := sameBeyondBuilders_build g path parent tag d t.className
    exact h.of_same hs.provider hs.resolved hs.missing

theorem moves (h : Truthful g) (hm : Moves g g') : Truthful g' :=
  hm.keeps (fun _ _ hm h => h.move hm) h

/-- The types of another library come without definitions. -/
theorem load (h : Truthful g) (l : Loading) : Truthful (g.load l) := by
  cases hpackage : g.samePackage l with
  | true =>
    rw [load_of_own hpackage]
    exact h.of_same rfl rfl rfl
  | false =>
    have hadopts := adopts_load hpackage
    refine ⟨hadopts.provider ▸ h.faithful, hadopts.provider ▸ h.stateless, ?_, ?_⟩
    · rw [hadopts.provider]
      intro id t d ht hd
      rcases hadopts.origin id t ht with hold | ⟨c, _, _, _, rfl⟩
      · exact h.definition id t d hold hd
      · cases hd
    · rw [hadopts.provider, missing_load]
      exact h.missing

theorem logging (h : Truthful g) (r : LogRecord) : Truthful (g.logging r) := h.of_same rfl rfl rfl

theorem render (h : Truthful g) (path : String) (parent : Parent) (tag : String) (d : TaskDefinition)
    (className : String) : Truthful (g.render path parent tag d className) := by
  rcases g.render_cases path parent tag d className with he | ⟨log, he⟩ | ⟨_, _, he⟩
  · rwa [he]
  · rw [he]
    exact h.of_same rfl rfl rfl
  · have hs := sameBeyondBuilders_build g path parent tag d className
    rw [he]
    exact h.of_same hs.provider hs.resolved hs.missing

theorem renderElement (h : Truthful g) (owner : Target) (e : NestedElement) :
    Truthful (renderElement owner e g).2 := by
  rcases renderElement_cases owner e g with ⟨_, he⟩ | ⟨_, _, _, _, he⟩ | he
  · rwa [he]
  · rw [he]
    exact h.render _ _ _ _ _
  · rwa [he]

theorem fresh {p : Provider} (hf : p.Faithful) (hs : p.Stateless) (h : Fresh p g) : Truthful g where
  faithful := h.provider ▸ hf.safe
  stateless := h.provider ▸ hs.safe
  definition := by simp [h.resolved]
  missing := by simp [h.missing]

/-- **Looking a definition up gives the answer of the provider, and only notes something.** -/
theorem lookup (h : Truthful g) (id : String) :
    (g.lookup id).1 = g.provider.definition? id ∧ Alike g (g.lookup id).2 := by
  rcases g.lookup_cases id with ⟨t, d, ht, hd, hl⟩ | ⟨hm, hl⟩ | ⟨d, m, hd, hl⟩ | ⟨m, log, hno, hl⟩
  · rw [hl]
    exact ⟨(h.definition id t d ht hd).symm, .refl g⟩
  · rw [hl]
    exact ⟨(h.missing id hm).symm, .refl g⟩
  · rw [hl]
    exact ⟨(h.stateless.found_iff.1 hd).symm, ⟨g.missing, m, g.log⟩, rfl⟩
  · rw [hl]
    exact ⟨(h.definition?_eq_none hno).symm, ⟨id :: g.missing, m, log⟩, rfl⟩

/-- A definition that the provider does not have is missing from then on. -/
theorem mem_missing_lookup (h : Truthful g) {id : String} (hno : g.provider.definition? id = none)
    (i : String) : i ∈ (g.lookup id).2.missing ↔ i = id ∨ i ∈ g.missing := by
  rcases g.lookup_cases id with ⟨t, d, ht, hd, hl⟩ | ⟨hm, hl⟩ | ⟨d, m, hd, hl⟩ | ⟨m, log, _, hl⟩
  · rw [h.definition id t d ht hd] at hno
    cases hno
  · rw [hl]
    constructor
    · exact Or.inr
    · rintro (rfl | hi)
      · exact hm
      · exact hi
  · rw [h.stateless.found_iff.1 hd] at hno
    cases hno
  · rw [hl]
    exact List.mem_cons

/-- The state of a truthful run after operations is truthful. -/
theorem performAll {p : Provider} {o : GeneratorOptions} {g₀ : Generator} (hf : p.Faithful)
    (hs : p.Stateless) (hnew : Generator.new p o = .ok g₀) (ops : List Operation) :
    Truthful (g₀.performAll ops) := by
  have hfresh := fresh hf hs (fresh_of_new hnew)
  exact keeps_performAll (fun _ _ hm h => h.move hm) ops g₀ hfresh.faithful
    (fun l _ _ h => h.load l) hfresh

end Truthful

end TaskBuilders.Generator
