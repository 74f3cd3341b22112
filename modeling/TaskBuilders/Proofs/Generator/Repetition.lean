import TaskBuilders.Proofs.Generator.Settlement
import TaskBuilders.Proofs.Generator.Skipping

/-!
# Repeated requests

Once an alias is resolved, everything that it asks for is there, or cannot be there: a builder that was not
written is one whose parent has another one for the tag, or whose name is taken. Neither goes away, whatever
the run is asked for in between, so that resolving the alias again only leaves notes. The same holds for
default aliases, and for full runs.

* `Rendered` — a builder is there, or its name is taken
* `Constructed` — the builders that an alias asks for are there as far as they can be
* `Served`, `DefaultServed` — what a request leaves behind, which makes its repetition vain
* `repetition_changes_nothing` — repeated requests after any operations
-/

namespace TaskBuilders.Generator

variable {g g' : Generator}

/-! ## Builders that need not be written -/

/-- The parent has a builder for the tag, or one of the names of the builder is taken. -/
def Rendered (g : Generator) (parent : Parent) (tag : String) (d : TaskDefinition)
    (className : String) : Prop :=
  g.library.containsFunction parent.type tag = true ∨
    ∃ b ∈ g.plan parent tag d className, functionScope parent ++ b.funcName ∈ g.functions

theorem plan_of_same (hoptions : g'.options = g.options) (hemitter : g'.emitter = g.emitter)
    (parent : Parent) (tag : String) (d : TaskDefinition) (className : String) :
    g'.plan parent tag d className = g.plan parent tag d className := by
  unfold plan rootContainer framework
  rw [hoptions, hemitter]

theorem containsFunction_moves {name tag : String} (hm : Moves g g')
    (h : g.library.containsFunction name tag = true) :
    g'.library.containsFunction name tag = true := by
  obtain ⟨f, hf⟩ := Structure.containsFunction_iff.1 h
  refine Structure.containsFunction_iff.2 ⟨f, ?_⟩
  exact hm.keeps (I := fun g => g.library.functionAt? name (Text.lowercase tag) = some f)
    (fun _ _ hm h => functionAt?_step hm.step h) hf

/-- No name of a function is given back. -/
theorem functions_move (hm : Move g g') : g.functions ⊆ g'.functions := by
  cases hm with
  | note _ _ | miss _ _ _ | openContainer _ _ _ | define _ _ _ | place _ => exact fun _ h => h
  | nameContainer id =>
    rw [(sameBeyondNames_containerName g id).functions]
    exact fun _ h => h
  | @openTarget d _ _ =>
    rw [(g.openTarget_frame d).1]
    exact fun _ h => h
  | build _ _ _ _ _ _ =>
    rw [functions_build]
    exact fun _ h => List.mem_cons_of_mem _ (List.mem_cons_of_mem _ h)

namespace Rendered

variable {parent : Parent} {tag className : String} {d : TaskDefinition}

theorem move (h : g.Rendered parent tag d className) (hm : Move g g') :
    g'.Rendered parent tag d className := by
  rcases h with hc | ⟨b, hb, htaken⟩
  · exact Or.inl (containsFunction_moves (.single hm) hc)
  · refine Or.inr ⟨b, ?_, functions_move hm htaken⟩
    rwa [plan_of_same hm.extends.options hm.extends.emitter]

theorem moves (h : g.Rendered parent tag d className) (hm : Moves g g') :
    g'.Rendered parent tag d className :=
  hm.keeps (I := (Rendered · parent tag d className)) (fun _ _ hm h => h.move hm) h

/-- Rendering it again leaves a note at most. -/
theorem again (h : g.Rendered parent tag d className) (path : String) :
    Alike g (g.render path parent tag d className) := by
  rcases g.render_cases path parent tag d className with he | ⟨log, he⟩ | ⟨hnew, hfree, _⟩
  · rw [he]
    exact .refl g
  · rw [he]
    exact ⟨{ g.notes with log }, rfl⟩
  · rcases h with hc | ⟨b, hb, htaken⟩
    · rw [hnew] at hc
      cases hc
    · exact absurd htaken (hfree b hb)

end Rendered

/-- Rendering writes the builder, unless there is a reason against it. -/
theorem rendered_render (g : Generator) (path : String) (parent : Parent) (tag : String)
    (d : TaskDefinition) (className : String) :
    (g.render path parent tag d className).Rendered parent tag d className := by
  unfold render
  by_cases hc : g.library.containsFunction parent.type tag = true
  · rw [if_pos hc]
    exact Or.inl hc
  · rw [if_neg hc]
    cases hfind : (g.plan parent tag d className).find?
        (fun b => g.functions.contains (functionScope parent ++ b.funcName)) with
    | some b =>
      have htaken : functionScope parent ++ b.funcName ∈ g.functions := by
        simpa using List.find?_some hfind
      exact Or.inr ⟨b, List.mem_of_find?_eq_some hfind, htaken⟩
    | none =>
      have hs := sameBeyondBuilders_build g path parent tag d className
      refine Or.inr ⟨g.immediate parent tag d className, ?_, ?_⟩
      · rw [plan_of_same hs.options hs.emitter, plan_eq]
        exact List.mem_cons_self
      · dsimp only
        rw [functions_build]
        exact List.mem_cons_of_mem _ List.mem_cons_self

/-! ## Builders under containers -/

theorem needsContainer_of_extends (h : Extends g g') (capability : String) :
    g'.needsContainer capability = g.needsContainer capability := by
  unfold needsContainer
  rw [h.options]

/-- The container of a capability is written, and the builder under it need not be. -/
structure RenderedIn (g : Generator) (capability tag : String) (d : TaskDefinition)
    (className : String) : Prop where
  done : capability ∈ g.containersDone
  rendered : ∃ name, g.containerNames.get? capability = some name ∧
    g.Rendered ⟨.container, name⟩ tag d className

theorem RenderedIn.moves {capability tag className : String} {d : TaskDefinition}
    (h : g.RenderedIn capability tag d className) (hm : Moves g g') :
    g'.RenderedIn capability tag d className := by
  obtain ⟨name, hname, hrendered⟩ := h.rendered
  exact ⟨hm.extends.containersDone _ h.done, name, hm.extends.containerNames _ _ hname,
    hrendered.moves hm⟩

theorem containers_render (g : Generator) (path : String) (parent : Parent) (tag : String)
    (d : TaskDefinition) (className : String) :
    let g' := g.render path parent tag d className
    g'.containersDone = g.containersDone ∧ g'.containerNames = g.containerNames := by
  have hs := sameBeyondBuilders_build g path parent tag d className
  rcases g.render_cases path parent tag d className with h | ⟨log, h⟩ | ⟨_, _, h⟩
  · rw [h]
    exact ⟨rfl, rfl⟩
  · rw [h]
    exact ⟨rfl, rfl⟩
  · rw [h]
    exact ⟨hs.containersDone, hs.containerNames⟩

theorem renderedIn_renderInContainer (path : String) (t : Target) (d : TaskDefinition) (tag : String)
    {capability : String} (hneeded : g.needsContainer capability = true) :
    (renderInContainer path t d tag g capability).RenderedIn capability tag d t.className := by
  have hname : Moves (g.resolveContainer capability)
      ((g.resolveContainer capability).containerName capability).2 :=
    .single (.nameContainer _ capability)
  have hdone := hname.extends.containersDone _ (mem_containersDone_resolveContainer hneeded)
  have hnamed := (g.resolveContainer capability).get?_containerName_self capability
  obtain ⟨hsame, hnames⟩ := containers_render
    ((g.resolveContainer capability).containerName capability).2 path
    ⟨.container, ((g.resolveContainer capability).containerName capability).1⟩ tag d t.className
  unfold renderInContainer
  rw [if_neg (by simp [hneeded])]
  exact ⟨hsame ▸ hdone, _, hnames ▸ hnamed, rendered_render _ _ _ _ _ _⟩

/-- Rendering it again leaves notes at most, also when the capability has no container. -/
theorem alike_renderInContainer (path : String) {tag capability : String} {t : Target}
    {d : TaskDefinition}
    (h : g.needsContainer capability = true → g.RenderedIn capability tag d t.className) :
    Alike g (renderInContainer path t d tag g capability) := by
  unfold renderInContainer
  by_cases hneeded : g.needsContainer capability = true
  · obtain ⟨hdone, name, hname, hrendered⟩ := h hneeded
    have hopen : g.resolveContainer capability = g := by
      rw [resolveContainer, if_pos (by simp [hdone])]
    rw [if_neg (by simp [hneeded]), hopen]
    dsimp only
    rw [containerName_of_some hname]
    exact hrendered.again path
  · rw [if_pos (by simpa using hneeded)]
    exact (Alike.refl g).logging_right _

theorem alike_foldl_renderInContainer {path tag : String} {t : Target} {d : TaskDefinition} :
    ∀ (cs : List String) (g : Generator),
      (∀ c ∈ cs, g.needsContainer c = true → g.RenderedIn c tag d t.className) →
      Alike g (cs.foldl (renderInContainer path t d tag) g)
  | [], g, _ => .refl g
  | c :: cs, g, h => by
    have hfirst := alike_renderInContainer path (h c List.mem_cons_self)
    obtain ⟨n, hn⟩ := hfirst
    rw [List.foldl_cons, hn]
    refine Alike.trans ⟨n, rfl⟩ (alike_foldl_renderInContainer cs (g.noting n) fun c' hc' hneeded => ?_)
    obtain ⟨hdone, hrendered⟩ := h c' (List.mem_cons_of_mem _ hc') hneeded
    exact ⟨hdone, hrendered⟩

/-! ## The builders of an alias -/

/-- A type keeps the file that its builders go to. -/
theorem file_move {id path : String} (hm : Move g g')
    (h : (g.resolved.get? id).bind (·.file) = some path) :
    (g'.resolved.get? id).bind (·.file) = some path := by
  -- an entry takes the place of one with the same file, or of none
  have hinsert : ∀ (i : String) (u : Target),
      (∀ t p, g.resolved.get? i = some t → t.file = some p → u.file = some p) →
      ((g.resolved.insert i u).get? id).bind (·.file) = some path := by
    intro i u hu
    obtain ⟨t, ht, hfile⟩ := Option.bind_eq_some_iff.1 h
    rw [Dict.get?_insert]
    by_cases hi : id = i
    · rw [if_pos hi]
      exact hu t path (hi ▸ ht) hfile
    · rw [if_neg hi]
      exact h
  cases hm with
  | note _ _ | miss _ _ _ | openContainer _ _ _ => exact h
  | nameContainer id =>
    rw [(sameBeyondNames_containerName g id).resolved]
    exact h
  | @openTarget d hnew _ =>
    obtain ⟨path', hresolved⟩ := g.resolved_openTarget d
    rw [hresolved]
    exact hinsert _ _ fun t p ht _ => by rw [hnew] at ht; cases ht
  | @define i t d hresolved _ _ =>
    refine hinsert i _ fun u p hu hp => ?_
    obtain rfl := Option.some.inj (hresolved.symm.trans hu)
    exact hp
  | @place i t hresolved =>
    refine hinsert i _ fun u p hu hp => ?_
    obtain rfl := Option.some.inj (hresolved.symm.trans hu)
    rw [targetPath, hp, Option.getD_some]
  | @build p parent tag _ t d _ _ _ _ _ _ =>
    rw [(sameBeyondBuilders_build g p parent tag d t.className).resolved]
    exact h

/-- Places a type, and writes its builder under the root container when it is asked for there. -/
def constructInRoot (g : Generator) (id : String) (t : Target) (d : TaskDefinition) (tag : String)
    (topLevel : Bool) : Generator :=
  if (topLevel && d.topLevel) = true then
    (g.placeTarget id t).render (g.targetPath t) ⟨.root, g.rootContainer⟩ tag d t.className
  else g.placeTarget id t

/-- The builder under the root container comes first, those under containers follow. -/
theorem generateConstructors_eq {id : String} {t : Target} {d : TaskDefinition}
    (ht : g.resolved.get? id = some t) (hd : t.definition = some d) (tag : String) (topLevel : Bool) :
    g.generateConstructors id tag topLevel = d.capabilities.foldl
      (renderInContainer (g.targetPath t) { t with id } d tag)
      (g.constructInRoot id t d tag topLevel) := by
  rw [generateConstructors, ht]
  dsimp only
  rw [hd]
  rfl

/-- The builders for a tag that produce a type are there as far as they can be. -/
structure Constructed (g : Generator) (id tag : String) (topLevel : Bool) (path className : String)
    (d : TaskDefinition) : Prop where
  builds : Builds path id className d g
  placed : (g.resolved.get? id).bind (·.file) = some path
  root : (topLevel && d.topLevel) = true → g.Rendered ⟨.root, g.rootContainer⟩ tag d className
  containers : ∀ c ∈ d.capabilities, g.needsContainer c = true → g.RenderedIn c tag d className

namespace Constructed

variable {id tag path className : String} {topLevel : Bool} {d : TaskDefinition}

theorem moves (h : g.Constructed id tag topLevel path className d) (hm : Moves g g') :
    g'.Constructed id tag topLevel path className d where
  builds := h.builds.extend hm
  placed := hm.keeps (I := fun g => (g.resolved.get? id).bind (·.file) = some path)
    (fun _ _ hm h => file_move hm h) h.placed
  root := by
    rw [rootContainer, hm.extends.emitter]
    exact fun hroot => (h.root hroot).moves hm
  containers := by
    intro c hc hneeded
    refine (h.containers c hc ?_).moves hm
    rwa [← needsContainer_of_extends hm.extends]

theorem noting (h : g.Constructed id tag topLevel path className d) (n : Notes) :
    (g.noting n).Constructed id tag topLevel path className d where
  builds := ⟨h.builds.hasFile, h.builds.resolved⟩
  placed := h.placed
  root := h.root
  containers := fun c hc hneeded =>
    ⟨(h.containers c hc hneeded).done, (h.containers c hc hneeded).rendered⟩

/-- Constructing again leaves notes at most. -/
theorem again (h : g.Constructed id tag topLevel path className d) :
    Alike g (g.generateConstructors id tag topLevel) := by
  obtain ⟨t, ht, rfl, hd⟩ := h.builds.resolved
  have hfile : t.file = some path := by simpa [ht] using h.placed
  have hpath : g.targetPath t = path := by rw [targetPath, hfile, Option.getD_some]
  have hplace : g.placeTarget id t = g := by
    obtain ⟨f, hf⟩ := h.builds.hasFile
    have hsame : { t with file := some path } = t := by rw [← hfile]
    rw [placeTarget, hpath, hsame, Dict.insert_of_some ht, ensureFile, Dict.insertNew_of_some _ hf]
  have hroot : Alike g (g.constructInRoot id t d tag topLevel) := by
    rw [constructInRoot, hplace]
    by_cases hroot : (topLevel && d.topLevel) = true
    · rw [if_pos hroot]
      exact (h.root hroot).again _
    · rw [if_neg hroot]
      exact .refl g
  obtain ⟨n, hn⟩ := hroot
  rw [generateConstructors_eq ht hd, hn]
  exact Alike.trans ⟨n, rfl⟩ (alike_foldl_renderInContainer (t := { t with id }) d.capabilities
    (g.noting n) (h.noting n).containers)

end Constructed

/-- Every capability of the list that has a container has the builder under it. -/
theorem renderedIn_foldl {path id tag : String} {t : Target} {d : TaskDefinition} {c : String}
    {cs : List String} (hc : c ∈ cs) (hb : Builds path id t.className d g)
    (hneeded : g.needsContainer c = true) :
    (cs.foldl (renderInContainer path t d tag) g).RenderedIn c tag d t.className := by
  induction cs generalizing g with
  | nil => cases hc
  | cons c' cs ih =>
    have hfirst := hb.moves_renderInContainer tag c'
    have hb' := hb.extend hfirst
    rw [List.foldl_cons]
    rcases List.mem_cons.1 hc with rfl | hc
    · have hrest : Moves (renderInContainer path t d tag g c)
          (cs.foldl (renderInContainer path t d tag) (renderInContainer path t d tag g c)) :=
        moves_foldl (P := Builds path id t.className d) (fun _ _ hm hb => hb.extend hm)
          (fun _ c hb => hb.moves_renderInContainer tag c) cs _ hb'
      exact (renderedIn_renderInContainer path t d tag hneeded).moves hrest
    · refine ih hc hb' ?_
      rwa [needsContainer_of_extends hfirst.extends]

theorem constructed_generateConstructors {id : String} {t : Target} {d : TaskDefinition}
    (ht : g.resolved.get? id = some t) (hd : t.definition = some d) (tag : String) (topLevel : Bool) :
    (g.generateConstructors id tag topLevel).Constructed id tag topLevel (g.targetPath t)
      t.className d := by
  have hbuilds : Builds (g.targetPath t) id t.className d (g.placeTarget id t) :=
    ⟨hasFile_ensureFile g _ _, _, Dict.get?_insert_self _ _ _, rfl, hd⟩
  have hplaced : ((g.placeTarget id t).resolved.get? id).bind (·.file) = some (g.targetPath t) := by
    rw [placeTarget, Dict.get?_insert_self, Option.bind_some]
  have hroot : Moves (g.placeTarget id t) (g.constructInRoot id t d tag topLevel) := by
    unfold constructInRoot
    by_cases hroot : (topLevel && d.topLevel) = true
    · rw [if_pos hroot]
      exact hbuilds.moves_render tag .root
    · rw [if_neg hroot]
  have hrest : Moves (g.constructInRoot id t d tag topLevel) (g.generateConstructors id tag topLevel) := by
    rw [generateConstructors_eq ht hd]
    exact moves_foldl (P := Builds (g.targetPath t) id t.className d) (fun _ _ hm hb => hb.extend hm)
      (fun _ c hb => Builds.moves_renderInContainer (t := { t with id }) hb tag c) d.capabilities _
      (hbuilds.extend hroot)
  have hall : Moves (g.placeTarget id t) (g.generateConstructors id tag topLevel) := hroot.trans hrest
  refine ⟨hbuilds.extend hall, ?_, ?_, ?_⟩
  · exact hall.keeps (I := fun g' => (g'.resolved.get? id).bind (·.file) = some (g.targetPath t))
      (fun _ _ hm h => file_move hm h) hplaced
  · intro htop
    have hrendered : (g.constructInRoot id t d tag topLevel).Rendered ⟨.root, g.rootContainer⟩ tag d
        t.className := by
      rw [constructInRoot, if_pos htop]
      exact rendered_render _ _ _ _ _ _
    rw [rootContainer, hall.extends.emitter]
    exact hrendered.moves hrest
  · intro c hc hneeded
    rw [generateConstructors_eq ht hd]
    refine renderedIn_foldl (t := { t with id }) hc (hbuilds.extend hroot) ?_
    rwa [← needsContainer_of_extends hrest.extends]

/-! ## Requests that were served -/

/-- A type with a definition in the table is resolved. -/
theorem resolveClass_of_entry {id : String} {t : Target} {d : TaskDefinition}
    (ht : g.resolved.get? id = some t) (hd : t.definition = some d) :
    g.resolveClass id = (.resolved, g) := by
  obtain ⟨n, hn⟩ := g.nestingBound_eq_succ
  rw [resolveClass, hn, resolveWithin, ht]
  simp [hd]

/-- What resolving an alias leaves behind: the provider does not know its type, or its builders are there
as far as they can be. -/
inductive Served (g : Generator) (a : TagAlias) : Resolution → Prop where
  | unknown (h : g.provider.definition? a.type = none) : Served g a .unresolved
  | constructed {path className : String} {d : TaskDefinition}
      (h : g.Constructed a.type a.tag a.topLevel path className d) : Served g a .resolved

namespace Served

variable {a : TagAlias} {r : Resolution}

theorem moves (h : g.Served a r) (hm : Moves g g') : g'.Served a r := by
  cases h with
  | unknown h => exact .unknown (hm.extends.provider ▸ h)
  | constructed h => exact .constructed (h.moves hm)

theorem noting (h : g.Served a r) (n : Notes) : (g.noting n).Served a r := by
  cases h with
  | unknown h => exact .unknown h
  | constructed h => exact .constructed (h.noting n)

/-- Resolving it again gives the same answer and leaves notes at most. -/
theorem again (h : g.Served a r) (ht : Truthful g) : Matches (r, g) (g.resolveAlias a) := by
  cases h with
  | unknown h =>
    obtain ⟨n, hn, _⟩ := resolveAlias_of_unknown ht h
    exact ⟨((resolveAlias_unresolved_iff ht a).2 h).symm, n, hn⟩
  | constructed h =>
    obtain ⟨t, hentry, _, hd⟩ := h.builds.resolved
    rw [resolveAlias, resolveClass_of_entry hentry hd]
    exact ⟨rfl, h.again⟩

end Served

theorem served_resolveAlias (ht : Truthful g) {a : TagAlias}
    (hcrash : (g.resolveAlias a).1.crash? = none) :
    (g.resolveAlias a).2.Served a (g.resolveAlias a).1 := by
  have hmoves := moves_resolveAlias ht.faithful a
  have hunknown := (resolveAlias_unresolved_iff ht a).1
  rw [← hmoves.extends.provider] at hunknown
  have hentry := entry_resolveClass ht.faithful a.type
  unfold resolveAlias at hcrash hunknown ⊢
  rcases hx : g.resolveClass a.type with ⟨res, g₁⟩
  rw [hx] at hcrash hunknown hentry
  cases res with
  | crashed c => cases hcrash
  | unresolved => exact .unknown (hunknown rfl)
  | resolved =>
    obtain ⟨t, d, ht, hd⟩ := hentry rfl
    exact .constructed (constructed_generateConstructors ht hd a.tag a.topLevel)

/-! ## Default aliases that were given -/

/-- What giving a default alias leaves behind: it was skipped, the class of the type has a builder under
its tag, or its builders are there as far as they can be. -/
inductive DefaultServed (g : Generator) (id : String) : Prop where
  | skipped (h : (g.provider.definition? id).any (·.topLevel) = false)
  | taken {t : Target} {d : TaskDefinition} (ht : g.resolved.get? id = some t)
      (hd : t.definition = some d)
      (h : g.library.containsFunction t.className (defaultTag id) = true)
  | constructed {path className : String} {d : TaskDefinition}
      (h : g.Constructed id (defaultTag id) true path className d)

/-- A default alias of a type that has a definition in the table. -/
theorem defaultAlias_of_entry {id : String} {t : Target} {d : TaskDefinition}
    (ht : g.resolved.get? id = some t) (hd : t.definition = some d) :
    g.defaultAlias id = (none, g) ∨
      g.library.containsFunction t.className (defaultTag id) = false ∧
        g.defaultAlias id = (none, g.generateConstructors id (defaultTag id) true) := by
  have hlookup : g.lookup id = (some d, g) := by
    rw [lookup, ht, Option.bind_some, hd]
  unfold defaultAlias
  rw [hlookup]
  dsimp only
  by_cases htop : (!d.topLevel) = true
  · rw [if_pos htop]
    exact Or.inl rfl
  · rw [if_neg htop, resolveClass_of_entry ht hd]
    dsimp only
    rw [ht]
    dsimp only
    by_cases hc : g.library.containsFunction t.className (defaultTag id) = true
    · rw [if_pos hc]
      exact Or.inl rfl
    · rw [if_neg hc]
      exact Or.inr ⟨by simpa using hc, rfl⟩

namespace DefaultServed

variable {id : String}

theorem moves (h : g.DefaultServed id) (hm : Moves g g') : g'.DefaultServed id := by
  cases h with
  | skipped h => exact .skipped (hm.extends.provider ▸ h)
  | taken ht hd h =>
    obtain ⟨t', ht', hclass, hdef⟩ := hm.extends.resolved _ _ ht
    exact .taken ht' (hdef _ hd) (hclass ▸ containsFunction_moves hm h)
  | constructed h => exact .constructed (h.moves hm)

theorem noting (h : g.DefaultServed id) (n : Notes) : (g.noting n).DefaultServed id := by
  cases h with
  | skipped h => exact .skipped h
  | taken ht hd h => exact .taken (g := g.noting n) ht hd h
  | constructed h => exact .constructed (h.noting n)

/-- Giving it again leaves notes at most. -/
theorem again (h : g.DefaultServed id) (ht : Truthful g) : Matches (none, g) (g.defaultAlias id) := by
  cases h with
  | skipped h =>
    obtain ⟨hnone, hs⟩ := defaultAlias_of_skipped ht h
    exact ⟨hnone.symm, hs⟩
  | taken ht hd h =>
    rcases defaultAlias_of_entry ht hd with he | ⟨hfree, _⟩
    · rw [he]
      exact ⟨rfl, .refl g⟩
    · rw [h] at hfree
      cases hfree
  | constructed h =>
    obtain ⟨t, ht, _, hd⟩ := h.builds.resolved
    rcases defaultAlias_of_entry ht hd with he | ⟨_, he⟩
    · rw [he]
      exact ⟨rfl, .refl g⟩
    · rw [he]
      exact ⟨rfl, h.again⟩

end DefaultServed

theorem defaultServed_defaultAlias (ht : Truthful g) (id : String)
    (hcrash : (g.defaultAlias id).1 = none) : (g.defaultAlias id).2.DefaultServed id := by
  obtain ⟨hdefinition, _⟩ := ht.lookup id
  have hmoves := g.moves_lookup id
  have htruth := ht.moves hmoves
  have hprovider := hmoves.extends.provider
  unfold defaultAlias at hcrash ⊢
  rcases hx : g.lookup id with ⟨_ | d, g₁⟩
  · rw [hx] at hdefinition hprovider
    refine .skipped ?_
    rw [hprovider, ← hdefinition]
    rfl
  · rw [hx] at hdefinition hprovider htruth hcrash
    rw [← hprovider] at hdefinition
    dsimp only at hcrash ⊢
    by_cases htop : (!d.topLevel) = true
    · rw [if_pos htop]
      refine .skipped ?_
      rw [← hdefinition]
      simpa using htop
    · rw [if_neg htop] at hcrash ⊢
      have hentry := entry_resolveClass htruth.faithful id
      have hun : (g₁.resolveClass id).1 = .unresolved → (g₁.lookup id).1 = none :=
        lookup_of_unresolved
      rcases hy : g₁.resolveClass id with ⟨res, g₂⟩
      rw [hy] at hcrash hentry hun
      cases res with
      | crashed c => cases hcrash
      | unresolved =>
        rw [(htruth.lookup id).1, ← hdefinition] at hun
        cases hun rfl
      | resolved =>
        obtain ⟨t, d', ht, hd⟩ := hentry rfl
        dsimp only at ht ⊢
        rw [ht]
        dsimp only
        by_cases hc : g₂.library.containsFunction t.className (defaultTag id) = true
        · rw [if_pos hc]
          exact .taken ht hd hc
        · rw [if_neg hc]
          exact .constructed (constructed_generateConstructors ht hd (defaultTag id) true)

/-! ## Lists of requests -/

theorem served_resolveAliases (as : List TagAlias) (ht : Truthful g)
    (hcrash : (resolveAliases as g).1 = none) :
    ∀ a ∈ as, ∃ r, (resolveAliases as g).2.Served a r := by
  induction as generalizing g with
  | nil => nofun
  | cons b as ih =>
    have hserved := served_resolveAlias ht (a := b)
    have hmoves := moves_resolveAlias ht.faithful b
    unfold resolveAliases at hcrash ⊢
    rcases hx : g.resolveAlias b with ⟨res, g₁⟩
    rw [hx] at hserved hmoves hcrash
    have hrest := moves_resolveAliases as g₁ (ht.moves hmoves).faithful
    -- the first alias stays served while the others are resolved
    have hall : (resolveAliases as g₁).1 = none → res.crash? = none →
        ∀ a ∈ b :: as, ∃ r, (resolveAliases as g₁).2.Served a r := by
      intro hcrash hres a ha
      rcases List.mem_cons.1 ha with rfl | ha
      · exact ⟨_, (hserved hres).moves hrest⟩
      · exact ih (ht.moves hmoves) hcrash a ha
    cases res with
    | crashed c => cases hcrash
    | resolved => exact hall hcrash rfl
    | unresolved => exact hall hcrash rfl

theorem resolveAliases_again {as : List TagAlias} (ht : Truthful g)
    (h : ∀ a ∈ as, ∃ r, g.Served a r) : Matches (none, g) (resolveAliases as g) := by
  induction as generalizing g with
  | nil => exact ⟨rfl, .refl g⟩
  | cons b as ih =>
    obtain ⟨r, hr⟩ := h b List.mem_cons_self
    obtain ⟨hanswer, n, hn⟩ := hr.again ht
    have hx : g.resolveAlias b = (r, g.noting n) := Prod.ext hanswer.symm hn
    have htruth := ht.moves (moves_resolveAlias ht.faithful b)
    rw [hx] at htruth
    have hrest := ih htruth fun a ha => by
      obtain ⟨r, hr⟩ := h a (List.mem_cons_of_mem _ ha)
      exact ⟨r, hr.noting n⟩
    unfold resolveAliases
    rw [hx]
    cases hr with
    | unknown _ => exact ⟨hrest.1, Alike.trans ⟨n, rfl⟩ hrest.2⟩
    | constructed _ => exact ⟨hrest.1, Alike.trans ⟨n, rfl⟩ hrest.2⟩

theorem defaultServed_defaultAliases (ids : List String) (ht : Truthful g)
    (hcrash : (defaultAliases ids g).1 = none) :
    ∀ id ∈ ids, (defaultAliases ids g).2.DefaultServed id := by
  induction ids generalizing g with
  | nil => nofun
  | cons i ids ih =>
    have hserved := defaultServed_defaultAlias ht i
    have hmoves := moves_defaultAlias ht.faithful i
    unfold defaultAliases at hcrash ⊢
    rcases hx : g.defaultAlias i with ⟨_ | c, g₁⟩
    · rw [hx] at hserved hmoves hcrash
      intro id hid
      rcases List.mem_cons.1 hid with rfl | hid
      · exact (hserved rfl).moves (moves_defaultAliases ids g₁ (ht.moves hmoves).faithful)
      · exact ih (ht.moves hmoves) hcrash id hid
    · rw [hx] at hcrash
      cases hcrash

theorem defaultAliases_again {ids : List String} (ht : Truthful g)
    (h : ∀ id ∈ ids, g.DefaultServed id) : Matches (none, g) (defaultAliases ids g) := by
  induction ids generalizing g with
  | nil => exact ⟨rfl, .refl g⟩
  | cons i ids ih =>
    obtain ⟨hnone, n, hn⟩ := (h i List.mem_cons_self).again ht
    have hx : g.defaultAlias i = (none, g.noting n) := Prod.ext hnone.symm hn
    have htruth := ht.moves (moves_defaultAlias ht.faithful i)
    rw [hx] at htruth
    have hrest := ih htruth fun id hid => (h id (List.mem_cons_of_mem _ hid)).noting n
    unfold defaultAliases
    rw [hx]
    exact ⟨hrest.1, Alike.trans ⟨n, rfl⟩ hrest.2⟩

theorem generate_again {aliases : List TagAlias} {defaults : List String} {cancelled : Cancellation}
    (ht : Truthful g) (hcrash : (g.generate aliases defaults cancelled).1.crash? = none) :
    Matches (g.generate aliases defaults cancelled)
      ((g.generate aliases defaults cancelled).2.generate aliases defaults cancelled) := by
  have hserved := served_resolveAliases (cancelled.reached aliases) ht
  have htruth := ht.moves (moves_resolveAliases (cancelled.reached aliases) g ht.faithful)
  rcases hx : resolveAliases (cancelled.reached aliases) g with ⟨_ | c, g₁⟩
  · rw [hx] at hserved htruth
    -- the aliases find everything done at any later time
    have haliases : ∀ g', Moves g₁ g' →
        ∃ n, resolveAliases (cancelled.reached aliases) g' = (none, g'.noting n) := by
      intro g' hmoves
      obtain ⟨hnone, n, hn⟩ := resolveAliases_again (htruth.moves hmoves) fun a ha => by
        obtain ⟨r, hr⟩ := hserved rfl a ha
        exact ⟨r, hr.moves hmoves⟩
      exact ⟨n, Prod.ext hnone.symm hn⟩
    by_cases hc : cancelled.strikes aliases.length = true
    · obtain ⟨n, hx'⟩ := haliases g₁ .refl
      have honce : g.generate aliases defaults cancelled = (.cancelled, g₁) := by
        simp [generate, hx, hc]
      have htwice : g₁.generate aliases defaults cancelled = (.cancelled, g₁.noting n) := by
        simp [generate, hx', hc]
      rw [honce, htwice]
      exact ⟨rfl, n, rfl⟩
    · have hgiven := defaultServed_defaultAliases defaults htruth
      have hmoves := moves_defaultAliases defaults g₁ htruth.faithful
      rcases hy : defaultAliases defaults g₁ with ⟨_ | c, g₂⟩
      · rw [hy] at hgiven hmoves
        have honce : g.generate aliases defaults cancelled = (g₂.outcome, g₂) := by
          simp [generate, hx, hc, hy]
        -- and so do the default aliases
        have htruth₂ : Truthful g₂ := htruth.moves hmoves
        obtain ⟨n, hx'⟩ := haliases g₂ hmoves
        have htruth₃ := htruth₂.moves
          (moves_resolveAliases (cancelled.reached aliases) g₂ htruth₂.faithful)
        rw [hx'] at htruth₃
        obtain ⟨hnone, n', hn'⟩ := defaultAliases_again htruth₃ fun id hid =>
          (hgiven rfl id hid).noting n
        have hy' : defaultAliases defaults (g₂.noting n) = (none, g₂.noting n') :=
          Prod.ext hnone.symm hn'
        have htwice : g₂.generate aliases defaults cancelled =
            ((g₂.noting n').outcome, g₂.noting n') := by
          simp [generate, hx', hc, hy']
        rw [honce, htwice]
        exact ⟨rfl, n', rfl⟩
      · have honce : g.generate aliases defaults cancelled = (.crashed c, g₂) := by
          simp [generate, hx, hc, hy]
        rw [honce] at hcrash
        cases hcrash
  · have honce : g.generate aliases defaults cancelled = (.crashed c, g₁) := by
      simp [generate, hx]
    rw [honce] at hcrash
    cases hcrash

/-- **Repetition changes nothing.** After any operations, an alias that is resolved, whatever comes of it,
can be resolved again at any later time: the answer is the same, and nothing changes but the notes. A full
run can be repeated likewise. Over a provider that knows no types beyond its list no request breaks down
before that. -/
theorem repetition_changes_nothing {p : Provider} {o : GeneratorOptions} {g₀ : Generator}
    (hf : p.Faithful) (hs : p.Stateless) (hnew : Generator.new p o = .ok g₀) (ops : List Operation) :
    let g := g₀.performAll ops
    (∀ a after, (g.resolveAlias a).1.crash? = none →
      let later := (g.resolveAlias a).2.serveAll after
      (later.resolveAlias a).1 = (g.resolveAlias a).1 ∧
        ∃ n, (later.resolveAlias a).2 = later.noting n) ∧
    (∀ aliases defaults (cancelled : Cancellation),
      let once := g.generate aliases defaults cancelled
      once.1.crash? = none →
        let twice := once.2.generate aliases defaults cancelled
        twice.1 = once.1 ∧ ∃ n, twice.2 = once.2.noting n) ∧
    (p.Listed → ∀ r, g.crash? r = none) := by
  intro g
  have htruth : Truthful g := .performAll hf hs hnew ops
  refine ⟨fun a after hcrash => ?_, fun aliases defaults cancelled hcrash => ?_, fun hl r => ?_⟩
  · have hfirst := htruth.moves (moves_resolveAlias htruth.faithful a)
    have hafter := moves_serveAll hfirst.faithful after
    obtain ⟨hanswer, hnotes⟩ :=
      ((served_resolveAlias htruth hcrash).moves hafter).again (hfirst.moves hafter)
    exact ⟨hanswer.symm, hnotes⟩
  · obtain ⟨hanswer, hnotes⟩ := generate_again htruth hcrash
    exact ⟨hanswer.symm, hnotes⟩
  · have hprovider : g.provider = p.safe :=
      (provider_performAll ops g₀).trans (fresh_of_new hnew).provider
    exact crash?_of_listed htruth.faithful (hprovider ▸ hl.safe) r

/-- Two types that stand in one container. -/
def sawTypes : List TaskDefinition :=
  [{ id := "x.Saw", executable := true, capabilities := ["x.Cuts"] },
   { id := "x.Blade", executable := true, capabilities := ["x.Cuts"] }]

/-- The alias of the saw gets its builder under the root container but not in the container, where the
blade has taken the name, and resolving it again after other requests gives it neither. -/
theorem repetition_changes_nothing_sawTypes :
    ∃ g₀, Generator.new (.static sawTypes) { importPath := "m/out", runtimePath := "m/rt" } = .ok g₀ ∧
      let g := g₀.performAll [.request (.tagAlias ⟨"band-saw", "x.Blade", false⟩)]
      let x := g.resolveAlias ⟨"band_saw", "x.Saw", true⟩
      let later := x.2.serveAll [.defaults ["x.Saw", "x.Ghost"], .containers ["x.Cuts"]]
      x.1.crash? = none ∧
      x.2.functions = ["BandSaw", "BandSawWith", "BandSawInCuts", "BandSawInCutsWith"] ∧
      (later.resolveAlias ⟨"band_saw", "x.Saw", true⟩).1 = x.1 ∧
      ∃ n, (later.resolveAlias ⟨"band_saw", "x.Saw", true⟩).2 = later.noting n := by
  have hlaw := repetition_changes_nothing (Provider.faithful_static sawTypes)
    (Provider.stateless_static sawTypes) (o := { importPath := "m/out", runtimePath := "m/rt" }) rfl
    [.request (.tagAlias ⟨"band-saw", "x.Blade", false⟩)]
  obtain ⟨hagain, _, hlisted⟩ := hlaw
  have hcrash := hlisted (Provider.listed_static sawTypes) (.tagAlias ⟨"band_saw", "x.Saw", true⟩)
  refine ⟨_, rfl, hcrash, ?_, hagain _ _ hcrash⟩
  decide +kernel

end TaskBuilders.Generator
