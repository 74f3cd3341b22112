import TaskBuilders.Proofs.Generator.Loading
import TaskBuilders.Proofs.Naming.ImportTable
import TaskBuilders.Proofs.Structure.Growth

/-!
# Runs that grow

Whatever its provider answers, a run writes behind what it has written, keeps the aliases of imports and
takes no class and no builder back. Only a library of another package that brings its own runtime package
can make classes go, namely those of the old runtime package that nobody uses.

* `Step.grows`, `Steps.grows` — requests only add
* `class?_load` — what loading a library does to the classes that are there
* `perform_grows` — what every operation leaves after any others
-/

namespace TaskBuilders

open Naming Source

/-- What was written is the beginning of what is written now, and imports keep their aliases. -/
structure SourceFile.Grows (f f' : SourceFile) : Prop where
  body : ∃ rest, f'.body = f.body ++ rest
  aliases : ∀ path a, f.imports.aliasOf? path = some a → f'.imports.aliasOf? path = some a

namespace SourceFile.Grows

variable {f f' f'' : SourceFile}

theorem refl (f : SourceFile) : Grows f f := ⟨⟨"", by simp⟩, fun _ _ h => h⟩

theorem trans (h : Grows f f') (h' : Grows f' f'') : Grows f f'' where
  body := by
    obtain ⟨rest, hrest⟩ := h.body
    obtain ⟨rest', hrest'⟩ := h'.body
    exact ⟨rest ++ rest', by rw [hrest', hrest, String.append_assoc]⟩
  aliases := fun path a ha => h'.aliases path a (h.aliases path a ha)

end SourceFile.Grows

/-- A block is written behind the others, and it shortens names with the aliases that are there. -/
theorem SourceFile.grows_emit {e : Emitter} {make : StateM ImportTable Block} (h : e.Makes make)
    (f : SourceFile) : f.Grows (f.emit make) where
  body := by
    refine ⟨(make f.imports).1.render, ?_⟩
    show String.join ((f.blocks ++ [(make f.imports).1]).map Block.render) = _
    simp [SourceFile.body]
  aliases := by
    intro path a ha
    have hshort : ∀ q, Emitter.Keeps (fun t => t.aliasOf? path = some a) (Emitter.short q) :=
      fun q t ht => ImportTable.aliasOf?_shorten ht q
    exact Emitter.Makes.keeps hshort h f.imports ha

namespace Generator

variable {g g' g'' : Generator} {l : Loading}

/-! ## Files -/

/-- Every file is still there, and only grew. -/
def FilesGrow (g g' : Generator) : Prop :=
  ∀ path f, g.files.get? path = some f → ∃ f', g'.files.get? path = some f' ∧ f.Grows f'

theorem FilesGrow.of_same (h : g'.files = g.files) : FilesGrow g g' :=
  fun _ f hf => ⟨f, h ▸ hf, .refl f⟩

theorem FilesGrow.trans (h : FilesGrow g g') (h' : FilesGrow g' g'') : FilesGrow g g'' := by
  intro path f hf
  obtain ⟨f', hf', hgrows⟩ := h path f hf
  obtain ⟨f'', hf'', hgrows'⟩ := h' path f' hf'
  exact ⟨f'', hf'', hgrows.trans hgrows'⟩

theorem filesGrow_ensureFile (g : Generator) (path source : String) :
    FilesGrow g (g.ensureFile path source) :=
  fun _ f hf => ⟨f, Dict.get?_insertNew_of_some path _ hf, .refl f⟩

theorem filesGrow_emit {make : StateM ImportTable Block} (h : g.emitter.Makes make) (path : String) :
    FilesGrow g (g.editFile path (·.emit make)) := by
  intro path' f hf
  show ∃ f', (g.files.modify path _).get? path' = some f' ∧ f.Grows f'
  rw [Dict.get?_modify]
  by_cases hp : path' = path
  · subst hp
    exact ⟨f.emit make, by simp [hf], f.grows_emit h⟩
  · exact ⟨f, by simp [hp, hf], .refl f⟩

/-- Creating a file and writing a block to it. -/
theorem filesGrow_write {make : StateM ImportTable Block} (h : g.emitter.Makes make)
    (path source : String) : FilesGrow g ((g.ensureFile path source).editFile path (·.emit make)) :=
  (g.filesGrow_ensureFile path source).trans (filesGrow_emit (g := g.ensureFile path source) h path)

theorem filesGrow_build (g : Generator) (path : String) (parent : Parent) (tag : String)
    (d : TaskDefinition) (className : String) :
    FilesGrow g (g.build path parent tag d className) := by
  have hwrite : ∀ (g : Generator) (b : BuilderDecl), FilesGrow g (writeBuilder path g b) :=
    fun g b => filesGrow_emit (g := { g with functions := _ }) (.builder b) path
  have hforms : FilesGrow g (g.writeForms path (g.immediate parent tag d className)) :=
    (hwrite g _).trans (hwrite _ _)
  exact hforms.trans (.of_same (by rw [build_eq, files_declare]))

/-! ## Requests -/

/-- Nothing is lost, and the run stays with its runtime package. -/
structure Grows (g g' : Generator) : Prop where
  emitter : g'.emitter = g.emitter
  files : FilesGrow g g'
  library : g.library.Grows g'.library

theorem Grows.refl (g : Generator) : Grows g g := ⟨rfl, .of_same rfl, .refl _⟩

theorem Grows.trans (h : Grows g g') (h' : Grows g' g'') : Grows g g'' :=
  ⟨h'.emitter.trans h.emitter, h.files.trans h'.files, h.library.trans h'.library⟩

theorem SameBeyondNames.grows (h : SameBeyondNames g g') : Grows g g' :=
  ⟨h.emitter, .of_same h.files, h.library ▸ .refl _⟩

theorem grows_enterTarget (g : Generator) (d : TaskDefinition) (name : String)
    (containers : List String) : Grows g (g.enterTarget d name containers).2 :=
  ⟨rfl, filesGrow_write (.wrapper _) _ _, Structure.grows_register _ _⟩

theorem grows_openTarget (g : Generator) (d : TaskDefinition) : Grows g (g.openTarget d).2 := by
  rw [openTarget_eq]
  exact (sameBeyondNames_nameTarget g d).grows.trans (grows_enterTarget _ _ _ _)

theorem library_grows_build (g : Generator) (path : String) (parent : Parent) (tag : String)
    (d : TaskDefinition) (className : String) :
    g.library.Grows (g.build path parent tag d className).library := by
  rw [build_eq]
  rcases declare_cases (g.writeForms path (g.immediate parent tag d className)) parent tag
      (d.descriptors className g.framework) className with ⟨_, hadd, h⟩ | ⟨_, _, h⟩
  · rw [h]
    exact Structure.grows_addFunction hadd
  · rw [h]
    exact .refl _

/-- A step only adds. -/
theorem Step.grows (h : Step g g') : Grows g g' := by
  cases h with
  | note _ _ _ | define _ _ => exact ⟨rfl, .of_same rfl, .refl _⟩
  | nameContainer id => exact (sameBeyondNames_containerName g id).grows
  | openContainer _ =>
    exact ⟨rfl, filesGrow_write (.container _ _) _ _, Structure.grows_register _ _⟩
  | openTarget _ => exact g.grows_openTarget _
  | place _ => exact ⟨rfl, g.filesGrow_ensureFile _ _, .refl _⟩
  | build path parent tag d className =>
    exact ⟨(sameBeyondBuilders_build g path parent tag d className).emitter,
      g.filesGrow_build path parent tag d className,
      g.library_grows_build path parent tag d className⟩

/-- **A run only adds.** -/
theorem Steps.grows (h : Steps g g') : Grows g g' := by
  induction h with
  | refl => exact .refl g
  | tail _ hm ih => exact ih.trans hm.grows

/-! ## Loading -/

/-- The runtime types that builders hang off. -/
def rootNames : List String := ["TaskContainer", "Project", "Target"]

theorem mem_rootClasses {name : String} (h : name ∈ g.rootClasses.map (·.name)) :
    ∃ root ∈ rootNames, name = g.runtimeName root := by
  simp only [rootClasses, List.map_cons, List.map_nil, List.mem_cons, List.not_mem_nil, or_false] at h
  rcases h with rfl | rfl | rfl
  · exact ⟨"TaskContainer", by simp [rootNames], rfl⟩
  · exact ⟨"Project", by simp [rootNames], rfl⟩
  · exact ⟨"Target", by simp [rootNames], rfl⟩

theorem class?_registerRoots {name : String} {c : StructureClass}
    (h : g.library.class? name = some c) : g.registerRoots.library.class? name = some c := by
  show (g.rootClasses.foldl Structure.register _).class? name = some c
  simp only [rootClasses, List.foldl_cons, List.foldl_nil]
  refine Structure.class?_register_of_some (Structure.class?_register_of_some
    (Structure.class?_register_of_some ?_ _) _) _
  exact h

/-- Of the classes that are there, only unused ones of the old runtime package go. -/
theorem class?_switchRuntime {name : String} {c : StructureClass}
    (h : g.library.class? name = some c) (runtime : String) :
    (g.switchRuntime runtime).library.class? name = some c ∨
      (∃ root ∈ rootNames, name = g.runtimeName root) ∧ c.functions.isEmpty = true := by
  by_cases hunused : name ∈ (g.rootClasses.map (·.name)).filter
      fun name => (g.library.class? name).any (·.functions.isEmpty)
  · obtain ⟨hroot, hempty⟩ := List.mem_filter.1 hunused
    rw [h] at hempty
    exact Or.inr ⟨mem_rootClasses hroot, hempty⟩
  · refine Or.inl (class?_registerRoots ?_)
    show (List.foldl Dict.erase g.library.classes _).get? name = some c
    rw [Dict.get?_foldl_erase, if_neg hunused]
    exact h

/-- A structure brings its runtime package, or the library stays as it is. -/
theorem settleRuntime_cases (g : Generator) (s : Structure) :
    (s.runtime ≠ "" ∧ s.runtime ≠ g.runtime ∧
      g.settleRuntime s = { g.switchRuntime s.runtime with runtimeSettled := true }) ∨
    ((g.settleRuntime s).emitter = g.emitter ∧ (g.settleRuntime s).library = g.library) := by
  unfold settleRuntime
  split
  · exact Or.inr ⟨rfl, rfl⟩
  · next hnew =>
    split
    · exact Or.inr ⟨rfl, rfl⟩
    · simp only [Bool.or_eq_true, decide_eq_true_eq, not_or] at hnew
      exact Or.inl ⟨hnew.1, hnew.2, rfl⟩

@[simp] theorem emitter_adoptClass (g : Generator) (c : StructureClass) :
    (g.adoptClass c).emitter = g.emitter := by
  unfold adoptClass
  split
  · rfl
  · split <;> rfl

/-- After another package is loaded, the library is that of the settled run with the structure merged
into it, and the runtime package is that of the settled run. -/
theorem library_load_of_other (h : g.samePackage l = false) :
    (g.load l).library = (g.settleRuntime l.library).library.merge l.library ∧
      (g.load l).emitter = (g.settleRuntime l.library).emitter := by
  rw [load_of_other h, adoptLibrary, Structure.mergeInOrder_perm l.merged_perm]
  exact ⟨library_foldl_adoptClass _ _, foldl_adoptClass emitter_adoptClass _ _⟩

/-- The library names the runtime package that the run uses. -/
structure Runs (g : Generator) : Prop where
  named : g.runtime ≠ ""
  library : g.library.runtime = g.runtime

theorem Runs.grows (h : Runs g) (hg : Grows g g') : Runs g' := by
  have hruntime : g'.runtime = g.runtime := by rw [runtime, hg.emitter, runtime]
  exact ⟨hruntime ▸ h.named, by rw [hg.library.runtime, h.library, hruntime]⟩

theorem Runs.settleRuntime (h : Runs g) (s : Structure) : Runs (g.settleRuntime s) := by
  rcases g.settleRuntime_cases s with ⟨hs, _, he⟩ | ⟨hemitter, hlibrary⟩
  · rw [he]
    exact ⟨hs, rfl⟩
  · have hruntime : (g.settleRuntime s).runtime = g.runtime := by rw [runtime, hemitter, runtime]
    exact ⟨hruntime ▸ h.named, by rw [hlibrary, h.library, hruntime]⟩

theorem Runs.load (h : Runs g) (l : Loading) : Runs (g.load l) := by
  cases hpackage : g.samePackage l with
  | true =>
    rw [load_of_own hpackage]
    exact ⟨h.named, h.library⟩
  | false =>
    obtain ⟨hlibrary, hemitter⟩ := library_load_of_other hpackage
    have hsettled := h.settleRuntime l.library
    have hruntime : (g.load l).runtime = (g.settleRuntime l.library).runtime := by
      rw [runtime, hemitter, runtime]
    refine ⟨hruntime ▸ hsettled.named, ?_⟩
    rw [hlibrary, Structure.runtime_merge, if_neg (hsettled.library ▸ hsettled.named),
      hsettled.library, hruntime]

theorem Runs.fresh {p : Provider} {o : GeneratorOptions} (h : Generator.new p o = .ok g) : Runs g := by
  simp only [Generator.new] at h
  split at h
  · cases h
  · split at h
    · cases h
    · next hruntime =>
      obtain rfl := Except.ok.inj h
      exact ⟨hruntime, rfl⟩

/-- **What loading does to a class that is there**: it grows, or it goes with the runtime package that the
run leaves, if no builder hangs off it. -/
theorem class?_load (h : Runs g) {name : String} {c : StructureClass}
    (hc : g.library.class? name = some c) (l : Loading) :
    (∃ c', (g.load l).library.class? name = some c' ∧ c.Grows c') ∨
      (g.load l).runtime ≠ g.runtime ∧ (∃ root ∈ rootNames, name = g.runtimeName root) ∧
        c.functions.isEmpty = true := by
  cases hpackage : g.samePackage l with
  | true =>
    rw [load_of_own hpackage]
    exact Or.inl ⟨c, hc, .refl c⟩
  | false =>
    obtain ⟨hlibrary, hemitter⟩ := library_load_of_other hpackage
    have hsettled := h.settleRuntime l.library
    have hmerged := Structure.grows_merge (hsettled.library ▸ hsettled.named) l.library
    have hruntime : (g.load l).runtime = (g.settleRuntime l.library).runtime := by
      rw [runtime, hemitter, runtime]
    rw [hlibrary, hruntime]
    rcases g.settleRuntime_cases l.library with ⟨_, hne, he⟩ | ⟨_, hsame⟩
    · rcases class?_switchRuntime hc l.library.runtime with hstays | hgoes
      · exact Or.inl (hmerged.classes name c (by rw [he]; exact hstays))
      · exact Or.inr ⟨by rw [he]; exact hne, hgoes⟩
    · exact Or.inl (hmerged.classes name c (by rw [hsame]; exact hc))

/-! ## Operations -/

/-- The operation loads a library that brings another runtime package. -/
def SwitchesRuntime (g : Generator) (op : Operation) : Prop :=
  ∃ l, op = .load l ∧ (g.load l).runtime ≠ g.runtime

/-- What an operation leaves of what was there before it. -/
structure Keeps (g : Generator) (op : Operation) : Prop where
  /-- Files are written to at their end, and their imports keep their aliases. -/
  files : ∀ path f, g.files.get? path = some f → ∃ f', (g.perform op).files.get? path = some f' ∧
    (∃ rest, f'.body = f.body ++ rest) ∧
    ∀ imported a, f.imports.aliasOf? imported = some a → f'.imports.aliasOf? imported = some a
  /-- A class gains builders at most, unless it is an unused root class of a runtime package that the
  operation leaves. -/
  classes : ∀ name c, g.library.class? name = some c →
    (∃ c', (g.perform op).library.class? name = some c' ∧ c'.name = c.name ∧ c'.source = c.source ∧
      c'.capability = c.capability ∧ c'.traits = c.traits ∧
      ∀ key f, c.functions.get? key = some f → c'.functions.get? key = some f) ∨
    g.SwitchesRuntime op ∧ (∃ root ∈ rootNames, name = g.runtimeName root) ∧
      c.functions.isEmpty = true
  /-- No builder is lost or changed. -/
  functions : ∀ name key f, g.library.functionAt? name key = some f →
    (g.perform op).library.functionAt? name key = some f
  /-- The library names the runtime package that it named before, unless the operation leaves it. -/
  runtime : g.SwitchesRuntime op ∨ (g.perform op).library.runtime = g.library.runtime

theorem keeps_request (g : Generator) (r : Request) : g.Keeps (.request r) := by
  have hgrows := (g.steps_serve r).grows
  refine ⟨fun path f hf => ?_, fun name c hc => ?_, fun _ _ _ hf => hgrows.library.functionAt? hf,
    Or.inr hgrows.library.runtime⟩
  · obtain ⟨f', hf', hfile⟩ := hgrows.files path f hf
    exact ⟨f', hf', hfile.body, hfile.aliases⟩
  · obtain ⟨c', hc', hclass⟩ := hgrows.library.classes name c hc
    exact Or.inl ⟨c', hc', hclass.name, hclass.source, hclass.capability, hclass.traits,
      hclass.functions⟩

theorem keeps_load (h : Runs g) (l : Loading) : g.Keeps (.load l) where
  files := fun path f hf => ⟨f, (g.files_load l).symm ▸ hf, ⟨"", by simp⟩, fun _ _ ha => ha⟩
  classes := by
    intro name c hc
    rcases class?_load h hc l with ⟨c', hc', hclass⟩ | ⟨hruntime, hroot, hempty⟩
    · exact Or.inl ⟨c', hc', hclass.name, hclass.source, hclass.capability, hclass.traits,
        hclass.functions⟩
    · exact Or.inr ⟨⟨l, rfl, hruntime⟩, hroot, hempty⟩
  functions := by
    intro name key f hf
    show (g.load l).library.functionAt? name key = some f
    cases hpackage : g.samePackage l with
    | true => rw [load_of_own hpackage]; exact hf
    | false => simp [functionAt?_load hpackage, hf]
  runtime := by
    by_cases hruntime : (g.load l).runtime = g.runtime
    · exact Or.inr ((h.load l).library.trans (hruntime.trans h.library.symm))
    · exact Or.inl ⟨l, rfl, hruntime⟩

/-- The library names the runtime package in use after all operations. -/
theorem runs_performAll {p : Provider} {o : GeneratorOptions} {g₀ : Generator}
    (hnew : Generator.new p o = .ok g₀) (ops : List Operation) : Runs (g₀.performAll ops) :=
  keeps_performAll_of_steps (fun _ _ hm h => h.grows hm.grows) ops g₀ (fun l _ _ h => h.load l)
    (.fresh hnew)

/-- **Everything grows.** Whatever the provider answers, in whatever order structures are loaded and whatever
came before, an operation keeps what was written, imported, registered and declared; only unused root classes
of a runtime package that is left may go. -/
theorem perform_grows {p : Provider} {o : GeneratorOptions} {g₀ : Generator}
    (hnew : Generator.new p o = .ok g₀) (ops : List Operation) (op : Operation) :
    (g₀.performAll ops).Keeps op := by
  cases op with
  | request r => exact keeps_request _ r
  | load l => exact keeps_load (runs_performAll hnew ops) l

/-- A loom that another library provides, and a mill that uses it. -/
def millTypes : List TaskDefinition :=
  [{ id := "x.Loom", executable := true, capabilities := ["x.Weaves"] },
   { id := "x.Mill", executable := true, nested := [⟨"loom", "x.Loom"⟩] }]

/-- A library with a runtime package of its own is loaded after a builder hangs off the root container:
the root container stays, and the other root classes go. -/
theorem perform_grows_millTypes :
    ∃ base own,
      Generator.new (.static millTypes) { importPath := "m/lib", runtimePath := "m/base" } = .ok base ∧
      Generator.new (.static millTypes) { importPath := "m/out", runtimePath := "m/rt" } = .ok own ∧
      let g := own.performAll [.request (.tagAlias ⟨"mill", "x.Mill", true⟩)]
      let op := Operation.load (.byName (base.serve (.tagAlias ⟨"loom", "x.Loom", true⟩)).library)
      g.Keeps op ∧
      ["m/rt.TaskContainer", "m/rt.Project", "m/rt.Target"].map g.library.resolves =
        [true, true, true] ∧
      ["m/rt.TaskContainer", "m/rt.Project", "m/rt.Target"].map (g.perform op).library.resolves =
        [true, false, false] := by
  refine ⟨_, _, rfl, rfl, ?_, ?_, ?_⟩
  · exact perform_grows (o := { importPath := "m/out", runtimePath := "m/rt" }) rfl _ _
  · decide +kernel
  · decide +kernel

end Generator

end TaskBuilders
