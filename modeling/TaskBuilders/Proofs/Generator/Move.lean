import Mathlib.Logic.Relation
import TaskBuilders.Generator.Run
import TaskBuilders.Proofs.Definition.Provider
import TaskBuilders.Proofs.Generator.Effects

/-!
# Runs as sequences of moves

Resolution is recursive, and most of what it does is to decide what to do next. What it does to the
state is one of eight moves. A move says under which circumstances it is made, so that an invariant
of runs is shown move by move, without a look at the recursion.

* `Moves.keeps` — what every move keeps, every run keeps
* `Moves.extends` — nothing that was resolved, named or created goes away
* `moves_resolveClass`, `moves_generateConstructors`, … — all operations are made of moves, over a
  provider that answers with definitions of the identifiers it is asked for
-/

namespace TaskBuilders.Generator

open Naming Source

/-! ## Moves -/

/-- Where builders may be put: under the root container, under a container that was written, and on
the wrapper of a resolved type, once it is written. -/
inductive Hosts (g : Generator) : Parent → Prop where
  | root : Hosts g ⟨.root, g.rootContainer⟩
  | container {c name : String} (done : c ∈ g.containersDone)
      (named : g.containerNames.get? c = some name) : Hosts g ⟨.container, name⟩
  | owner {w : WrapperBlock} {t : Target} (written : w ∈ g.wrappers)
      (resolved : g.resolved.get? w.source = some t) : Hosts g ⟨.owner, t.className⟩

/-- The provider answers at some time with a definition. -/
def Finds (g : Generator) (id : String) (d : TaskDefinition) : Prop :=
  ∃ m, (g.provider.ask id m).1 = .found d

/-- What a run does to the state at once. -/
inductive Move : Generator → Generator → Prop where
  /-- Providers remember and the log grows. -/
  | note (g : Generator) (memory : Memory) (log : List LogRecord) : Move g { g with memory, log }
  /-- An identifier turns out to be unknown. -/
  | miss {g : Generator} {id : String} (memory : Memory) (log : List LogRecord)
      (unknown : ∀ d, (g.provider.ask id g.memory).1 ≠ .found d) :
      Move g { g with memory, log, missing := id :: g.missing }
  /-- The container of a capability is named. -/
  | nameContainer (g : Generator) (id : String) : Move g (g.containerName id).2
  /-- The container of a capability is written. -/
  | openContainer {g : Generator} {id name : String} (new : id ∉ g.containersDone)
      (needed : g.needsContainer id = true) (named : g.containerNames.get? id = some name) :
      Move g (g.openContainer id name)
  /-- A type is entered and its wrapper written. -/
  | openTarget {g : Generator} {d : TaskDefinition} (new : g.resolved.get? d.id = none)
      (found : g.Finds d.id d) : Move g (g.openTarget d).2
  /-- A type of an earlier library gets its definition. -/
  | define {g : Generator} {id : String} {t : Target} {d : TaskDefinition}
      (resolved : g.resolved.get? id = some t) (undefined : t.definition = none)
      (found : g.Finds id d) :
      Move g { g with resolved := g.resolved.insert id { t with definition := some d } }
  /-- A type gets the file that its builders go to. -/
  | place {g : Generator} {id : String} {t : Target} (resolved : g.resolved.get? id = some t) :
      Move g (g.placeTarget id t)
  /-- A builder is written in both forms and declared. -/
  | build {g : Generator} {path : String} {parent : Parent} {tag id : String} {t : Target}
      {d : TaskDefinition} (file : g.HasFile path) (hosts : g.Hosts parent)
      (resolved : g.resolved.get? id = some t) (defined : t.definition = some d)
      (new : g.library.containsFunction parent.type tag = false)
      (free : ∀ b ∈ g.plan parent tag d t.className,
        functionScope parent ++ b.funcName ∉ g.functions) :
      Move g (g.build path parent tag d t.className)

/-- A sequence of moves. -/
abbrev Moves : Generator → Generator → Prop := Relation.ReflTransGen Move

/-- **What every move keeps, every run keeps.** -/
theorem Moves.keeps {I : Generator → Prop} (step : ∀ g g', Move g g' → I g → I g')
    {g g' : Generator} (h : Moves g g') (hg : I g) : I g' := by
  induction h with
  | refl => exact hg
  | tail _ hm ih => exact step _ _ hm ih

/-! ## What stays -/

/-- Nothing of `g` is gone in `g'`. -/
structure Extends (g g' : Generator) : Prop where
  options : g'.options = g.options
  provider : g'.provider = g.provider
  emitter : g'.emitter = g.emitter
  hasFile : ∀ path, g.HasFile path → g'.HasFile path
  blocks : g.blocks ⊆ g'.blocks
  resolved : ∀ id t, g.resolved.get? id = some t → ∃ t', g'.resolved.get? id = some t' ∧
    t'.className = t.className ∧ ∀ d, t.definition = some d → t'.definition = some d
  containersDone : ∀ c ∈ g.containersDone, c ∈ g'.containersDone
  containerNames : ∀ c name, g.containerNames.get? c = some name →
    g'.containerNames.get? c = some name

namespace Extends

variable {g g' g'' : Generator}

theorem refl (g : Generator) : Extends g g :=
  ⟨rfl, rfl, rfl, fun _ h => h, fun _ h => h, fun _ t h => ⟨t, h, rfl, fun _ hd => hd⟩,
    fun _ h => h, fun _ _ h => h⟩

theorem trans (h : Extends g g') (h' : Extends g' g'') : Extends g g'' where
  options := h'.options.trans h.options
  provider := h'.provider.trans h.provider
  emitter := h'.emitter.trans h.emitter
  hasFile := fun path hf => h'.hasFile path (h.hasFile path hf)
  blocks := List.Subset.trans h.blocks h'.blocks
  resolved := by
    intro id t ht
    obtain ⟨t', ht', hc', hd'⟩ := h.resolved id t ht
    obtain ⟨t'', ht'', hc'', hd''⟩ := h'.resolved id t' ht'
    exact ⟨t'', ht'', hc''.trans hc', fun d hd => hd'' d (hd' d hd)⟩
  containersDone := fun c hc => h'.containersDone c (h.containersDone c hc)
  containerNames := fun c name hc => h'.containerNames c name (h.containerNames c name hc)

/-- A state that keeps the table of types and the files, and adds to the containers. -/
theorem of_same (hoptions : g'.options = g.options) (hprovider : g'.provider = g.provider)
    (hemitter : g'.emitter = g.emitter) (hfiles : g'.files = g.files)
    (hresolved : g'.resolved = g.resolved) (hdone : g'.containersDone = g.containersDone)
    (hnames : ∀ c name, g.containerNames.get? c = some name →
      g'.containerNames.get? c = some name) : Extends g g' where
  options := hoptions
  provider := hprovider
  emitter := hemitter
  hasFile := by unfold HasFile; rw [hfiles]; exact fun _ h => h
  blocks := by unfold Generator.blocks; rw [hfiles]; exact fun _ h => h
  resolved := by rw [hresolved]; exact fun _ t h => ⟨t, h, rfl, fun _ hd => hd⟩
  containersDone := by rw [hdone]; exact fun _ h => h
  containerNames := hnames

/-- An entry that takes the place of another keeps the table. -/
theorem resolved_insert {id : String} {t' : Target}
    (ht : ∀ u, g.resolved.get? id = some u →
      t'.className = u.className ∧ ∀ d, u.definition = some d → t'.definition = some d)
    (hresolved : g'.resolved = g.resolved.insert id t') (i : String) (u : Target)
    (hu : g.resolved.get? i = some u) : ∃ u', g'.resolved.get? i = some u' ∧
      u'.className = u.className ∧ ∀ d, u.definition = some d → u'.definition = some d := by
  rw [hresolved, Dict.get?_insert]
  by_cases hi : i = id
  · rw [if_pos hi]
    exact ⟨t', rfl, ht u (hi ▸ hu)⟩
  · rw [if_neg hi]
    exact ⟨u, hu, rfl, fun _ hd => hd⟩

theorem hosts (h : Extends g g') {parent : Parent} (hp : g.Hosts parent) : g'.Hosts parent := by
  cases hp with
  | root =>
    have hroot : g.rootContainer = g'.rootContainer := by
      unfold rootContainer; rw [h.emitter]
    rw [hroot]
    exact .root
  | container hdone hname =>
    exact .container (h.containersDone _ hdone) (h.containerNames _ _ hname)
  | owner hw ht =>
    obtain ⟨t', ht', hclass, _⟩ := h.resolved _ _ ht
    rw [← hclass]
    exact .owner (subset_wrappers h.blocks hw) ht'

end Extends

/-- Types keep their class names when an entry takes the place of another with its name. -/
theorem className_of_insert {g g' : Generator} {id : String} {t u : Target}
    (ht : g.resolved.get? id = some t) (hclass : u.className = t.className)
    (hresolved : g'.resolved = g.resolved.insert id u) (i : String) (v : Target)
    (hv : g'.resolved.get? i = some v) :
    ∃ t, g.resolved.get? i = some t ∧ v.className = t.className := by
  rw [hresolved] at hv
  rcases Dict.get?_insert_cases hv with ⟨rfl, rfl⟩ | hv
  · exact ⟨t, ht, hclass⟩
  · exact ⟨v, hv, rfl⟩

theorem extends_nameTarget (g : Generator) (d : TaskDefinition) :
    Extends g (g.nameTarget d).2.2 := by
  have hs := sameBeyondNames_nameTarget g d
  refine .of_same hs.options hs.provider hs.emitter hs.files hs.resolved hs.containersDone ?_
  intro c name hc
  exact nameTarget_keeps (I := fun g => g.containerNames.get? c = some name) hc
    fun _ id h => get?_containerName_of_some id h

theorem extends_enterTarget {g : Generator} {d : TaskDefinition}
    (hnew : g.resolved.get? d.id = none) (name : String) (containers : List String) :
    Extends g (g.enterTarget d name containers).2 := by
  refine ⟨rfl, rfl, rfl, fun path h => (h.ensureFile _ _).editFile _ _,
    List.Subset.trans (g.subset_blocks_ensureFile _ _) (subset_blocks_emit _ _ _),
    Extends.resolved_insert (fun u hu => ?_) rfl, fun _ h => h, fun _ _ h => h⟩
  rw [hnew] at hu
  cases hu

/-- Nothing goes away in a move. -/
theorem Move.extends {g g' : Generator} (h : Move g g') : Extends g g' := by
  cases h with
  | note memory log => exact .of_same rfl rfl rfl rfl rfl rfl fun _ _ h => h
  | miss memory log _ => exact .of_same rfl rfl rfl rfl rfl rfl fun _ _ h => h
  | nameContainer id =>
    have hs := sameBeyondNames_containerName g id
    exact .of_same hs.options hs.provider hs.emitter hs.files hs.resolved hs.containersDone
      fun _ _ h => get?_containerName_of_some id h
  | openContainer _ _ _ =>
    exact ⟨rfl, rfl, rfl, fun path h => (h.ensureFile _ _).editFile _ _,
      List.Subset.trans (g.subset_blocks_ensureFile _ _) (subset_blocks_emit _ _ _),
      fun _ t h => ⟨t, h, rfl, fun _ hd => hd⟩, fun _ h => List.mem_cons_of_mem _ h,
      fun _ _ h => h⟩
  | @openTarget d hnew _ =>
    rw [openTarget_eq]
    refine (extends_nameTarget g d).trans (extends_enterTarget ?_ _ _)
    rw [(sameBeyondNames_nameTarget g d).resolved, hnew]
  | define hresolved hundefined _ =>
    refine ⟨rfl, rfl, rfl, fun _ h => h, fun _ h => h,
      Extends.resolved_insert (fun u hu => ?_) rfl, fun _ h => h, fun _ _ h => h⟩
    obtain rfl := Option.some.inj (hresolved.symm.trans hu)
    -- there was no definition that could be lost
    exact ⟨rfl, fun d hd => by rw [hundefined] at hd; cases hd⟩
  | place hresolved =>
    refine ⟨rfl, rfl, rfl, fun _ h => h.ensureFile _ _, g.subset_blocks_ensureFile _ _,
      Extends.resolved_insert (fun u hu => ?_) rfl, fun _ h => h, fun _ _ h => h⟩
    obtain rfl := Option.some.inj (hresolved.symm.trans hu)
    exact ⟨rfl, fun _ hd => hd⟩
  | @build path parent tag _ t d _ _ _ _ _ _ =>
    have hs := sameBeyondBuilders_build g path parent tag d t.className
    exact ⟨hs.options, hs.provider, hs.emitter, hs.hasFile, hs.blocks,
      fun _ t h => ⟨t, hs.resolved ▸ h, rfl, fun _ hd => hd⟩,
      fun _ h => hs.containersDone ▸ h, fun _ _ h => hs.containerNames ▸ h⟩

/-- **Nothing goes away in a run.** -/
theorem Moves.extends {g g' : Generator} (h : Moves g g') : Extends g g' := by
  induction h with
  | refl => exact .refl g
  | tail _ hm ih => exact ih.trans hm.extends

/-! ## Operations are made of moves -/

variable {g : Generator}

theorem moves_logging (g : Generator) (r : LogRecord) : Moves g (g.logging r) :=
  .single (.note g g.memory (g.log ++ [r]))

theorem moves_lookup (g : Generator) (id : String) : Moves g (g.lookup id).2 := by
  rcases g.lookup_cases id with ⟨_, _, _, _, h⟩ | ⟨_, h⟩ | ⟨_, m, _, h⟩ | ⟨m, l, hno, h⟩
  · rw [h]
  · rw [h]
  · rw [h]; exact .single (.note g m g.log)
  · rw [h]; exact .single (.miss m l hno)

/-- A definition that is not in the table comes from the provider. -/
theorem finds_of_lookup {id : String} {d : TaskDefinition}
    (hnone : (g.resolved.get? id).bind (·.definition) = none) (h : (g.lookup id).1 = some d) :
    g.Finds id d := by
  rcases g.lookup_cases id with ⟨t, d', ht, hd', _⟩ | ⟨_, h'⟩ | ⟨d', m, hm, h'⟩ | ⟨m, l, _, h'⟩
  · rw [ht, Option.bind_some, hd'] at hnone
    cases hnone
  · rw [h'] at h
    cases h
  · rw [h'] at h
    obtain rfl := Option.some.inj h
    exact ⟨g.memory, hm⟩
  · rw [h'] at h
    cases h

theorem resolved_lookup (g : Generator) (id : String) :
    (g.lookup id).2.resolved = g.resolved := by
  rcases g.lookup_cases id with ⟨_, _, _, _, h⟩ | ⟨_, h⟩ | ⟨_, _, _, h⟩ | ⟨_, _, _, h⟩ <;> rw [h]

theorem moves_resolveContainer (g : Generator) (id : String) :
    Moves g (g.resolveContainer id) := by
  unfold resolveContainer
  split
  · exact .refl
  · next hguard =>
    have hs := sameBeyondNames_containerName g id
    rw [Bool.or_eq_true, not_or] at hguard
    obtain ⟨hnew, hneeded⟩ := hguard
    refine .tail (.single (.nameContainer g id)) (.openContainer ?_ ?_ (g.get?_containerName_self id))
    · rw [hs.containersDone]
      exact fun h => hnew (List.contains_iff_mem.2 h)
    · unfold needsContainer at hneeded ⊢
      rw [hs.options]
      simpa using hneeded

/-- What a step does by moves, a walk over a list does by moves, while `P` holds and stays. -/
theorem moves_foldl {α : Type} {P : Generator → Prop} {f : Generator → α → Generator}
    (hstay : ∀ g g', Moves g g' → P g → P g') (hstep : ∀ g a, P g → Moves g (f g a)) :
    ∀ (as : List α) (g : Generator), P g → Moves g (as.foldl f g)
  | [], _, _ => .refl
  | a :: as, g, hg =>
    (hstep g a hg).trans (moves_foldl hstay hstep as (f g a) (hstay _ _ (hstep g a hg) hg))

theorem moves_resolveContainers (g : Generator) (ids : List String) :
    Moves g (g.resolveContainers ids) :=
  moves_foldl (P := fun _ => True) (fun _ _ _ h => h) (fun g id _ => g.moves_resolveContainer id)
    ids g trivial

theorem moves_render {path id : String} {parent : Parent} {t : Target} {d : TaskDefinition}
    (tag : String) (hfile : g.HasFile path) (hhosts : g.Hosts parent)
    (hresolved : g.resolved.get? id = some t) (hdefined : t.definition = some d) :
    Moves g (g.render path parent tag d t.className) := by
  rcases g.render_cases path parent tag d t.className with h | ⟨log, h⟩ | ⟨hnew, hfree, h⟩
  · rw [h]
  · rw [h]; exact .single (.note g g.memory log)
  · rw [h]; exact .single (.build hfile hhosts hresolved hdefined hnew hfree)

/-- What `renderNested` and `generateConstructors` need to know of the type that builders make. -/
structure Builds (path id className : String) (d : TaskDefinition) (g : Generator) : Prop where
  hasFile : g.HasFile path
  resolved : ∃ t, g.resolved.get? id = some t ∧ t.className = className ∧ t.definition = some d

theorem Builds.extend {path id className : String} {d : TaskDefinition} {g g' : Generator}
    (h : Builds path id className d g) (hm : Moves g g') : Builds path id className d g' := by
  obtain ⟨t, ht, hclass, hd⟩ := h.resolved
  obtain ⟨t', ht', hclass', hd'⟩ := hm.extends.resolved id t ht
  exact ⟨hm.extends.hasFile path h.hasFile, t', ht', hclass'.trans hclass, hd' d hd⟩

theorem Builds.moves_render {path id className : String} {d : TaskDefinition} {parent : Parent}
    (h : Builds path id className d g) (tag : String) (hhosts : g.Hosts parent) :
    Moves g (g.render path parent tag d className) := by
  obtain ⟨t, ht, rfl, hd⟩ := h.resolved
  exact Generator.moves_render tag h.hasFile hhosts ht hd

theorem mem_containersDone_resolveContainer {id : String} (hneeded : g.needsContainer id = true) :
    id ∈ (g.resolveContainer id).containersDone := by
  unfold resolveContainer
  split
  · next hguard =>
    rw [hneeded, Bool.not_true, Bool.or_false] at hguard
    exact List.contains_iff_mem.1 hguard
  · exact List.mem_cons_self

theorem Builds.moves_renderInContainer {path id : String} {t : Target} {d : TaskDefinition}
    (h : Builds path id t.className d g) (tag capability : String) :
    Moves g (renderInContainer path t d tag g capability) := by
  unfold renderInContainer
  split
  · exact moves_logging g _
  · next hneeded =>
    have hopen := g.moves_resolveContainer capability
    have hname : Moves (g.resolveContainer capability)
        ((g.resolveContainer capability).containerName capability).2 :=
      .single (.nameContainer _ capability)
    -- the container is there before its first builder
    have hdone : capability ∈ (g.resolveContainer capability).containersDone :=
      mem_containersDone_resolveContainer (by simpa using hneeded)
    have hhosts : ((g.resolveContainer capability).containerName capability).2.Hosts
        ⟨.container, ((g.resolveContainer capability).containerName capability).1⟩ :=
      .container (hname.extends.containersDone _ hdone) (get?_containerName_self _ _)
    exact (hopen.trans hname).trans
      ((h.extend (hopen.trans hname)).moves_render tag hhosts)

theorem moves_generateConstructors (g : Generator) (id tag : String) (topLevel : Bool) :
    Moves g (g.generateConstructors id tag topLevel) := by
  unfold generateConstructors
  split
  · exact .refl
  · next t ht =>
    split
    · exact .refl
    · next d hd =>
      have hplace : Moves g (g.placeTarget id t) := .single (.place ht)
      have hbuilds : Builds (g.targetPath t) id t.className d (g.placeTarget id t) :=
        ⟨hasFile_ensureFile g _ _, _, Dict.get?_insert_self _ _ _, rfl, hd⟩
      -- the builder under the root container comes first
      have hroot : Moves (g.placeTarget id t)
          (if topLevel && d.topLevel then
            (g.placeTarget id t).render (g.targetPath t)
              ⟨.root, (g.placeTarget id t).rootContainer⟩ tag d t.className
          else g.placeTarget id t) := by
        split
        · exact hbuilds.moves_render tag .root
        · exact .refl
      refine (hplace.trans hroot).trans ?_
      exact moves_foldl (P := Builds (g.targetPath t) id t.className d)
        (fun _ _ hm hb => hb.extend hm)
        (fun _ capability hb => Builds.moves_renderInContainer (t := { t with id }) hb tag capability)
        d.capabilities _ (hbuilds.extend hroot)

/-! ## Resolution is made of moves -/

/-- A resolver that does nothing but moves. -/
def Resolver.ByMoves (r : Resolver) : Prop :=
  ∀ id g, g.provider.Faithful → Moves g (r id g).2

theorem moves_renderElement {owner : Target} {path : String} (hpath : owner.file = some path)
    (e : NestedElement) (hfile : g.HasFile path) (hhosts : g.Hosts ⟨.owner, owner.className⟩) :
    Moves g (renderElement owner e g).2 := by
  rcases renderElement_cases owner e g with ⟨_, h⟩ | ⟨t, d, ht, hd, h⟩ | h
  · rw [h]
  · have htarget : g.targetPath owner = path := by rw [targetPath, hpath, Option.getD_some]
    rw [h, htarget]
    exact moves_render e.tag hfile hhosts ht hd
  · rw [h]

theorem moves_renderNested {r : Resolver} (hr : r.ByMoves) {owner : Target} {path : String}
    (hpath : owner.file = some path) : ∀ (es : List NestedElement) (g : Generator),
    g.provider.Faithful → g.HasFile path → g.Hosts ⟨.owner, owner.className⟩ →
    Moves g (renderNested r owner es g).2
  | [], _, _, _, _ => .refl
  | e :: es, g, hp, hfile, hhosts => by
    -- whatever the element does by moves, the others follow by moves
    have hrest : ∀ g', Moves g g' → Moves g (renderNested r owner es g').2 := fun g' hm =>
      hm.trans (moves_renderNested hr hpath es g' (hm.extends.provider ▸ hp)
        (hm.extends.hasFile path hfile) (hm.extends.hosts hhosts))
    unfold renderNested
    split
    · exact hrest g .refl
    · have hstep := hr e.type g hp
      split
      · next h => rw [h] at hstep; exact hstep
      · next h =>
        rw [h] at hstep
        exact hrest _ (hstep.trans (moves_logging _ _))
      · next g' h =>
        rw [h] at hstep
        have helement := moves_renderElement hpath e (hstep.extends.hasFile path hfile)
          (hstep.extends.hosts hhosts)
        split
        · next h' => rw [h'] at helement; exact hstep.trans helement
        · next h' => rw [h'] at helement; exact hrest _ (hstep.trans helement)

/-- An entered target has a file that exists, and its wrapper hosts builders. -/
theorem openTarget_hosts (g : Generator) (d : TaskDefinition) :
    ∃ path, (g.openTarget d).1.file = some path ∧ (g.openTarget d).2.HasFile path ∧
      (g.openTarget d).2.Hosts ⟨.owner, (g.openTarget d).1.className⟩ := by
  obtain ⟨w, ⟨hsource, _⟩, hperm⟩ := g.blocks_openTarget d
  have hwritten : w ∈ (g.openTarget d).2.wrappers :=
    List.mem_filterMap.2 ⟨.wrapper w, hperm.symm.subset List.mem_cons_self, rfl⟩
  have hresolved : (g.openTarget d).2.resolved.get? w.source = some (g.openTarget d).1 := by
    rw [hsource]
    exact Dict.get?_insert_self _ d.id _
  refine ⟨_, rfl, ?_, .owner hwritten hresolved⟩
  exact (hasFile_ensureFile _ _ _).editFile _ _

/-- The nested elements break the resolution of their owner, or its containers follow them. -/
theorem addTarget_cases (r : Resolver) (d : TaskDefinition) (g : Generator) :
    (∃ c g', renderNested r (g.openTarget d).1 d.nested (g.openTarget d).2 = (some c, g') ∧
      addTarget r d g = (.crashed c, g')) ∨
    (∃ g', renderNested r (g.openTarget d).1 d.nested (g.openTarget d).2 = (none, g') ∧
      addTarget r d g =
        (.resolved, (g'.resolveContainers d.capabilities).resolveContainers d.nestedTypes)) := by
  rcases h : renderNested r (g.openTarget d).1 d.nested (g.openTarget d).2 with ⟨_ | c, g'⟩
  · exact Or.inr ⟨g', rfl, by simp only [addTarget, h]⟩
  · exact Or.inl ⟨c, g', rfl, by simp only [addTarget, h]⟩

/-- After a type is entered, its nested elements and its containers follow by moves. -/
theorem moves_openTarget_addTarget {r : Resolver} (hr : r.ByMoves) {d : TaskDefinition}
    (hp : (g.openTarget d).2.provider.Faithful) : Moves (g.openTarget d).2 (addTarget r d g).2 := by
  obtain ⟨path, hpath, hfile, hhosts⟩ := g.openTarget_hosts d
  have hnested := moves_renderNested hr hpath d.nested (g.openTarget d).2 hp hfile hhosts
  rcases addTarget_cases r d g with ⟨c, g', hr', h⟩ | ⟨g', hr', h⟩
  · rw [hr'] at hnested
    rw [h]
    exact hnested
  · rw [hr'] at hnested
    rw [h]
    exact hnested.trans ((g'.moves_resolveContainers d.capabilities).trans
      (moves_resolveContainers _ _))

theorem moves_addTarget {r : Resolver} (hr : r.ByMoves) {d : TaskDefinition}
    (hp : g.provider.Faithful) (hnew : g.resolved.get? d.id = none) (hfound : g.Finds d.id d) :
    Moves g (addTarget r d g).2 := by
  have hopen : Moves g (g.openTarget d).2 := .single (.openTarget hnew hfound)
  exact hopen.trans (moves_openTarget_addTarget hr (hopen.extends.provider ▸ hp))

theorem byMoves_resolveWithin : ∀ n, (resolveWithin n).ByMoves
  | 0, _, _, _ => .refl
  | n + 1, id, g, hp => by
    have hlookup := g.moves_lookup id
    have hsame := g.resolved_lookup id
    unfold resolveWithin
    split
    · next t ht =>
      split
      · exact .refl
      · next hundefined =>
        have hnone : t.definition = none := by simpa using hundefined
        split
        · next g' h => rw [h] at hlookup; exact hlookup
        · next d g' h =>
          have hfound : g.Finds id d :=
            finds_of_lookup (by rw [ht, Option.bind_some, hnone]) (by rw [h])
          rw [h] at hlookup hsame
          refine hlookup.tail (.define (hsame ▸ ht) hnone ?_)
          rwa [Finds, hlookup.extends.provider]
    · next hnew =>
      split
      · next g' h => rw [h] at hlookup; exact hlookup
      · next d g' h =>
        have hfound : g.Finds id d := finds_of_lookup (by rw [hnew, Option.bind_none]) (by rw [h])
        -- the type is entered under the identifier that was asked for
        obtain ⟨m, hm⟩ := hfound
        obtain rfl := hp id m d hm
        rw [h] at hlookup hsame
        have hprovider := hlookup.extends.provider
        refine hlookup.trans (moves_addTarget (byMoves_resolveWithin n) (hprovider ▸ hp)
          (hsame ▸ hnew) ⟨m, ?_⟩)
        rw [hprovider]
        exact hm

theorem moves_resolveClass (hp : g.provider.Faithful) (id : String) :
    Moves g (g.resolveClass id).2 := byMoves_resolveWithin _ id g hp

end TaskBuilders.Generator
