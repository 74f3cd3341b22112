import TaskBuilders.Proofs.Generator.Growth
import TaskBuilders.Proofs.Generator.Ownership
import TaskBuilders.Proofs.Structure.RoundTrip

/-!
# Containers stay registered

Builders are declared on the classes of containers, so these have to be there. The root container of the
runtime package in use always is. The container of a capability is registered when it is written or loaded,
and it could only go with the runtime package that a run leaves. That happens before any library of another
package is loaded, when all containers have names in the output package, so that an output package other
than the configured runtime package keeps its containers.

* `Anchored` — which classes of containers are there
* `Anchored.step`, `Anchored.load` — steps and loading keep it
* `anchored_performAll` — it holds after all operations, over any provider
-/

namespace TaskBuilders

open Naming QualifiedName

/-- A name of the output package that is a root name of another package: the packages are the same. -/
theorem package_eq_of_qualify {package package' ident name : String} (hp : package ≠ "")
    (hp' : package' ≠ "") (hident : Undivided ident) (hname : Whole name)
    (h : qualify package ident = qualify package' name) : package = package' := by
  have hparse : QualifiedName.parse (qualify package ident) = ⟨package', name⟩ := by
    rw [h, qualify_of_ne hp', parse_append_dot hname]
  rw [qualify_of_ne hp] at hparse
  by_cases hwhole : Whole ident
  · rw [parse_append_dot hwhole] at hparse
    exact congrArg QualifiedName.package hparse
  · rw [parse_of_undivided (undivided_append_dot hident hwhole package)] at hparse
    exact absurd (congrArg QualifiedName.package hparse).symm hp'

theorem Structure.Grows.resolves {s s' : Structure} (h : Structure.Grows s s') {name : String}
    (hname : s.resolves name = true) : s'.resolves name = true := by
  rw [resolves_iff] at hname ⊢
  obtain ⟨c, hc⟩ := hname
  obtain ⟨c', hc', _⟩ := h.classes name c hc
  exact ⟨c', hc'⟩

namespace Generator

variable {g g' : Generator} {l : Loading} {runtimePath : String}

/-! ## The runtime package -/

/-- A fresh run uses the configured runtime package and has not settled on it. -/
theorem runtime_of_new {p : Provider} {o : GeneratorOptions} (h : Generator.new p o = .ok g) :
    g.runtimeSettled = false ∧ g.runtime = o.runtimePath := by
  simp only [Generator.new] at h
  split at h
  · cases h
  · split at h
    · cases h
    · obtain rfl := Except.ok.inj h
      exact ⟨rfl, rfl⟩

theorem runtimeSettled_build (g : Generator) (path : String) (parent : Parent) (tag : String)
    (d : TaskDefinition) (className : String) :
    (g.build path parent tag d className).runtimeSettled = g.runtimeSettled := by
  rw [build_eq]
  rcases declare_cases (g.writeForms path (g.immediate parent tag d className)) parent tag
      (d.descriptors className g.framework) className with ⟨_, _, h⟩ | ⟨_, _, h⟩
  · rw [h]; rfl
  · rw [h]; rfl

/-- A settled runtime package stays. -/
theorem emitter_settleRuntime_of_settled (h : g.runtimeSettled = true) (s : Structure) :
    (g.settleRuntime s).emitter = g.emitter := by
  unfold settleRuntime
  split
  · rfl
  · simp [h, logging]

theorem runtimeSettled_adoptClass (g : Generator) (c : StructureClass) :
    (g.adoptClass c).runtimeSettled = g.runtimeSettled := by
  unfold adoptClass
  split
  · rfl
  · split <;> rfl

/-- After a library of another package is loaded, the runtime package is settled. -/
theorem runtimeSettled_load (h : g.samePackage l = false) : (g.load l).runtimeSettled = true := by
  rw [load_of_other h]
  exact foldl_adoptClass (f := runtimeSettled) runtimeSettled_adoptClass l.library.listing _

theorem runtime_load_of_settled (h : g.runtimeSettled = true) (l : Loading) :
    (g.load l).runtime = g.runtime := by
  cases hsame : g.samePackage l with
  | true => rw [load_of_own hsame]; rfl
  | false =>
    rw [runtime, (library_load_of_other hsame).2, emitter_settleRuntime_of_settled h, runtime]

/-! ## Classes of the runtime package -/

theorem resolves_rootClasses (g : Generator) (s : Structure) {root : String} (h : root ∈ rootNames) :
    (g.rootClasses.foldl Structure.register s).resolves (g.runtimeName root) = true := by
  simp only [rootNames, List.mem_cons, List.not_mem_nil, or_false] at h
  simp only [rootClasses, List.foldl_cons, List.foldl_nil]
  rcases h with rfl | rfl | rfl
  · exact Structure.covers_register _ _ _ (Structure.covers_register _ _ _
      (Structure.resolves_register s { name := g.rootContainer }))
  · exact Structure.covers_register _ _ _ (Structure.resolves_register _
      { name := g.runtimeName "Project", traits := [g.rootContainer] })
  · exact Structure.resolves_register _
      { name := g.runtimeName "Target", traits := [g.rootContainer] }

theorem resolves_settleRuntime {root : String} (hroot : root ∈ rootNames)
    (h : g.library.resolves (g.runtimeName root) = true) (s : Structure) :
    (g.settleRuntime s).library.resolves ((g.settleRuntime s).runtimeName root) = true := by
  rcases g.settleRuntime_cases s with ⟨_, _, he⟩ | ⟨hemitter, hlibrary⟩
  · rw [he]
    exact resolves_rootClasses { g with emitter := ⟨s.runtime⟩ } _ hroot
  · rw [runtimeName, hemitter, hlibrary]
    exact h

theorem taskContainer_mem_rootNames : "TaskContainer" ∈ rootNames := List.mem_cons_self

theorem whole_rootNames {root : String} (h : root ∈ rootNames) : Whole root := by
  simp only [rootNames, List.mem_cons, List.not_mem_nil, or_false] at h
  rcases h with rfl | rfl | rfl <;> decide

/-! ## Containers -/

/-- The root container is registered, and so are the containers of capabilities, unless the output package
is the configured runtime package. Until the runtime package is settled, it is the configured one, and all
containers have names in the output package. -/
structure Anchored (runtimePath : String) (g : Generator) : Prop where
  importPath : g.options.importPath ≠ ""
  package : g.namer.package = g.options.importPath
  undivided : g.namer.UndividedNames
  runs : Runs g
  root : g.library.resolves g.rootContainer = true
  containers : ∀ c ∈ g.containersDone, ∃ name, g.containerNames.get? c = some name ∧
    (g.options.importPath ≠ runtimePath → g.library.resolves name = true)
  configured : g.runtimeSettled = false → g.runtime = runtimePath
  own : g.runtimeSettled = false → ∀ c name, g.containerNames.get? c = some name →
    ∃ ident, Undivided ident ∧ name = qualify g.options.importPath ident

namespace Anchored

/-- A state that grew, with the same containers. -/
theorem keep (h : Anchored runtimePath g) (hgrows : Grows g g') (hoptions : g'.options = g.options)
    (hasks : Asks g g') (hsettled : g'.runtimeSettled = g.runtimeSettled)
    (hdone : g'.containersDone = g.containersDone)
    (hnames : g'.containerNames = g.containerNames) : Anchored runtimePath g' := by
  have hruntime : g'.runtime = g.runtime := by rw [runtime, hgrows.emitter, runtime]
  have hroot : g'.rootContainer = g.rootContainer := by rw [rootContainer, hgrows.emitter, rootContainer]
  obtain ⟨rs, hrs⟩ := hasks
  refine ⟨hoptions ▸ h.importPath, ?_, hrs ▸ h.undivided.after rs, h.runs.grows hgrows, ?_, ?_, ?_, ?_⟩
  · rw [hrs, Namer.package_after, hoptions, h.package]
  · rw [hroot]
    exact hgrows.library.resolves h.root
  · intro c hc
    obtain ⟨name, hname, hresolves⟩ := h.containers c (hdone ▸ hc)
    exact ⟨name, hnames ▸ hname, fun hne => hgrows.library.resolves (hresolves (hoptions ▸ hne))⟩
  · rw [hsettled, hruntime]
    exact h.configured
  · rw [hsettled, hnames, hoptions]
    exact h.own

/-- A container that is named gets a name in the output package, and it is not done yet. -/
theorem containerName (h : Anchored runtimePath g) (id : String) :
    Anchored runtimePath (g.containerName id).2 := by
  cases hid : g.containerNames.get? id with
  | some name => rw [containerName_of_some hid]; exact h
  | none =>
    rw [containerName_of_none hid]
    have hundivided : (g.namer.containerName id).2.UndividedNames := h.undivided.serve (.container id)
    have hself : (g.namer.containerName id).2.names.get? (containerKey id) = some _ :=
      Namer.get?_names_mint_self g.namer (containerKey id) _ _
    refine ⟨h.importPath, (Namer.package_mint _ _ _ _).trans h.package, hundivided,
      ⟨h.runs.named, h.runs.library⟩, h.root, ?_, h.configured, fun hsettled c name hc => ?_⟩
    · intro c hc
      obtain ⟨name, hname, hresolves⟩ := h.containers c hc
      have hne : c ≠ id := by
        rintro rfl
        rw [hid] at hname
        cases hname
      exact ⟨name, by rw [Dict.get?_insert_of_ne _ _ hne, hname], hresolves⟩
    · rcases Dict.get?_insert_cases hc with ⟨rfl, rfl⟩ | hc
      · exact ⟨_, hundivided _ _ hself, by rw [← h.package]; rfl⟩
      · exact h.own hsettled c name hc

theorem openContainer (h : Anchored runtimePath g) {id name : String}
    (named : g.containerNames.get? id = some name) :
    Anchored runtimePath (g.openContainer id name) := by
  have hcovers := Structure.covers_register g.library { name, capability := id }
  refine ⟨h.importPath, h.package, h.undivided, ⟨h.runs.named, h.runs.library⟩, hcovers _ h.root, ?_,
    h.configured, h.own⟩
  intro c hc
  rcases List.mem_cons.1 hc with rfl | hc
  · exact ⟨name, named, fun _ => Structure.resolves_register _ _⟩
  · obtain ⟨n, hn, hresolves⟩ := h.containers c hc
    exact ⟨n, hn, fun hne => hcovers _ (hresolves hne)⟩

theorem nameTarget (h : Anchored runtimePath g) (d : TaskDefinition) :
    Anchored runtimePath (g.nameTarget d).2.2 := by
  refine nameTarget_keeps ?_ fun _ id hg => hg.containerName id
  exact h.keep ⟨rfl, .of_same rfl, .refl _⟩ rfl ⟨[.result d.id], rfl⟩ rfl rfl rfl

theorem enterTarget (h : Anchored runtimePath g) (d : TaskDefinition) (name : String)
    (containers : List String) : Anchored runtimePath (g.enterTarget d name containers).2 :=
  h.keep (g.grows_enterTarget d name containers) rfl (.of_same rfl) rfl rfl rfl

/-- **Every step keeps containers registered.** -/
theorem step (h : Anchored runtimePath g) (hm : Step g g') : Anchored runtimePath g' := by
  have hgrows := hm.grows
  have hoptions := options_step hm
  have hasks := asks_step hm
  cases hm with
  | note _ _ _ | define _ _ | place _ => exact h.keep hgrows hoptions hasks rfl rfl rfl
  | nameContainer id => exact h.containerName id
  | openContainer named => exact h.openContainer named
  | openTarget _ =>
    rw [openTarget_eq]
    exact (h.nameTarget _).enterTarget _ _ _
  | build path parent tag d className =>
    have hs := sameBeyondBuilders_build g path parent tag d className
    exact h.keep hgrows hoptions hasks (g.runtimeSettled_build path parent tag d className)
      hs.containersDone hs.containerNames

/-! ### Loading -/

/-- A container that was there before a library of another package is loaded is there afterwards. -/
theorem resolves_load (h : Anchored runtimePath g) (hne : g.options.importPath ≠ runtimePath)
    {c name : String} (hname : g.containerNames.get? c = some name)
    (hresolves : g.library.resolves name = true) (l : Loading) :
    (g.load l).library.resolves name = true := by
  obtain ⟨mine, hmine⟩ := (g.library.resolves_iff name).1 hresolves
  rcases class?_load h.runs hmine l with ⟨c', hc', _⟩ | ⟨hruntime, ⟨root, hroot, he⟩, _⟩
  · exact ((g.load l).library.resolves_iff name).2 ⟨c', hc'⟩
  · -- the class would be one of the configured runtime package and one of the output package
    have hunsettled : g.runtimeSettled = false := by
      rw [← Bool.not_eq_true]
      exact fun hsettled => hruntime (runtime_load_of_settled hsettled l)
    obtain ⟨ident, hident, hqualified⟩ := h.own hunsettled c name hname
    have hpackage : g.options.importPath = g.runtime :=
      package_eq_of_qualify h.importPath h.runs.named hident (whole_rootNames hroot)
        (hqualified.symm.trans he)
    exact absurd (hpackage.trans (h.configured hunsettled)) hne

/-- Classes that are registered may be taken over. -/
theorem adoptClasses {P : Prop} : ∀ (cs : List StructureClass) (g : Generator),
    (∀ c ∈ cs, g.library.resolves c.name = true) →
    (∀ c ∈ g.containersDone, ∃ name, g.containerNames.get? c = some name ∧
      (P → g.library.resolves name = true)) →
    ∀ c ∈ (cs.foldl adoptClass g).containersDone, ∃ name,
      (cs.foldl adoptClass g).containerNames.get? c = some name ∧ (P → g.library.resolves name = true)
  | [], _, _, h => h
  | c :: cs, g, hcs, h => by
    obtain ⟨hc, hcs⟩ := List.forall_mem_cons.1 hcs
    have hrest := adoptClasses (P := P) cs (g.adoptClass c) (by simpa using hcs)
    rw [library_adoptClass] at hrest
    refine hrest ?_
    unfold adoptClass
    split
    · exact h
    · split
      · intro k hk
        show ∃ name, (g.containerNames.insert c.capability c.name).get? k = some name ∧ _
        rw [Dict.get?_insert]
        by_cases hkey : k = c.capability
        · exact ⟨c.name, by simp [hkey], fun _ => hc⟩
        · obtain ⟨name, hname, hresolves⟩ := h k ((List.mem_cons.1 hk).resolve_left hkey)
          exact ⟨name, by simp [hkey, hname], hresolves⟩
      · exact h

/-- **Loading keeps containers registered.** -/
theorem load (h : Anchored runtimePath g) (l : Loading) : Anchored runtimePath (g.load l) := by
  cases hsame : g.samePackage l with
  | true =>
    have hasks := g.asks_load l
    rw [load_of_own hsame] at hasks ⊢
    exact h.keep ⟨rfl, .of_same rfl, .refl _⟩ rfl hasks rfl rfl rfl
  | false =>
    obtain ⟨hlibrary, hemitter⟩ := library_load_of_other hsame
    have ha := adopts_load hsame
    have hsettled := runtimeSettled_load hsame
    have hruns := h.runs.settleRuntime l.library
    have hmerged := Structure.grows_merge (hruns.library ▸ hruns.named) l.library
    refine ⟨ha.options ▸ h.importPath, by rw [ha.namer, ha.options, h.package], ha.namer ▸ h.undivided,
      h.runs.load l, ?_, ?_, by simp [hsettled], by simp [hsettled]⟩
    · rw [rootContainer, hemitter, hlibrary]
      exact hmerged.resolves (resolves_settleRuntime taskContainer_mem_rootNames h.root l.library)
    · have hclasses : ∀ c ∈ l.library.listing,
          ((g.settleRuntime l.library).library.merge l.library).resolves c.name = true := by
        intro c hc
        obtain ⟨c', hclass, _⟩ := Structure.exists_class_of_mem_listing hc
        rw [Structure.resolves_iff, Structure.class?_merge, hclass]
        exact ⟨_, rfl⟩
      obtain ⟨hnames, hdone⟩ := containerNames_settleRuntime g l.library
      have hold : ∀ c ∈ (g.settleRuntime l.library).containersDone, ∃ name,
          (g.settleRuntime l.library).containerNames.get? c = some name ∧
          (g.options.importPath ≠ runtimePath →
            ((g.settleRuntime l.library).library.merge l.library).resolves name = true) := by
        rw [hnames, hdone, ← hlibrary]
        intro c hc
        obtain ⟨name, hname, hresolves⟩ := h.containers c hc
        exact ⟨name, hname, fun hne => h.resolves_load hne hname (hresolves hne) l⟩
      have hadopted := adoptClasses l.library.listing
        { g.settleRuntime l.library with
          library := (g.settleRuntime l.library).library.merge l.library } hclasses hold
      rw [ha.options, hlibrary, load_of_other hsame, adoptLibrary,
        Structure.mergeInOrder_perm l.merged_perm]
      exact hadopted

theorem fresh {p : Provider} {o : GeneratorOptions} (h : Generator.new p o = .ok g) :
    Anchored o.runtimePath g := by
  have hfresh := fresh_of_new h
  refine ⟨hfresh.importPath, by rw [hfresh.namer]; rfl, hfresh.namer ▸ Namer.undividedNames_new _ _,
    .fresh h, ?_, ?_, fun _ => ?_, ?_⟩
  · rw [hfresh.library]
    exact g.resolves_rootClasses _ taskContainer_mem_rootNames
  · intro c hc
    rw [hfresh.containersDone] at hc
    cases hc
  · exact (runtime_of_new h).2
  · intro _ c name hname
    rw [hfresh.containerNames] at hname
    cases hname

end Anchored

/-- **Containers stay registered in all operations**, over any provider. -/
theorem anchored_performAll {p : Provider} {o : GeneratorOptions} {g₀ : Generator}
    (hnew : Generator.new p o = .ok g₀) (ops : List Operation) :
    Anchored o.runtimePath (g₀.performAll ops) :=
  keeps_performAll_of_steps (fun _ _ hm h => h.step hm) ops g₀ (fun l _ _ h => h.load l)
    (.fresh hnew)

end Generator

end TaskBuilders
