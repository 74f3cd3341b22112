import TaskBuilders.Proofs.Generator.Ownership
import TaskBuilders.Proofs.Source.Exposure

/-!
# Imports of generated files

Every block that a run writes shows the packages that it needs, as long as no name breaks a line. Wrappers
are called after type identifiers or after names that were pinned, and builders in the container of another
library after that container. So what has to be unbroken are the identifiers of definitions, the classes of
loaded structures and the path of the output package.

* `Namer.UnbrokenNames` — keys without line breaks have names without them
* `Kempt` — names are unbroken as far as they are needed, and files show the packages that they need
* `Kempt.step`, `Kempt.load` — steps and loading keep it
* `imports_used_and_complete_iff` — when the imports of a file are those that it uses
* `import_without_alias` — a file with a reference that no import accounts for
-/

namespace TaskBuilders

open Naming QualifiedName Text

/-! ## Names without line breaks -/

namespace Naming.Namer

variable {n : Namer}

/-- A key without line breaks has a name without them. -/
def UnbrokenNames (n : Namer) : Prop :=
  ∀ key ident, n.names.get? key = some ident → Unbroken key → Unbroken ident

theorem unbrokenNames_new (package sourceRoot : String) : (new package sourceRoot).UnbrokenNames := by
  intro key ident h
  cases h

theorem unbroken_choose (n : Namer) (key source : String) {s : String} (hs : Unbroken s) :
    Unbroken (n.choose key (marker ++ s) source) := by
  have hmarker : Unbroken marker := by decide
  unfold choose
  split
  · have hbase : Unbroken (n.fallbackName source (marker ++ s)) := by
      rw [fallbackName, dropLeading_append]
      exact (hmarker.append (legible_camelCase _).exported.1).append hs
    rcases firstFree_eq (n.takenNames key) (n.fallbackName source (marker ++ s)) with h | ⟨i, h⟩
    · rwa [h]
    · rw [h]
      exact hbase.append (unbroken_toString _)
  · exact hmarker.append hs

theorem UnbrokenNames.mint (h : n.UnbrokenNames) {key s : String} (source : String)
    (hs : Unbroken key → Unbroken s) : (n.mint key (marker ++ s) source).2.UnbrokenNames := by
  unfold Namer.mint
  split
  · exact h
  · intro k i hk hunbroken
    rcases Dict.get?_insert_cases hk with ⟨rfl, rfl⟩ | hk
    · exact n.unbroken_choose k source (hs hunbroken)
    · exact h k i hk hunbroken

theorem UnbrokenNames.resultName (h : n.UnbrokenNames) (id : String) :
    (n.resultName id).2.UnbrokenNames := h.mint id fun hid => hid.simpleName

theorem UnbrokenNames.containerName (h : n.UnbrokenNames) (id : String) :
    (n.containerName id).2.UnbrokenNames := by
  have hs : Unbroken (containerKey id) → Unbroken (simpleName id ++ "Container") := by
    intro hkey
    have hid : Unbroken id := fun hc => hkey (by simp [containerKey, hc])
    exact hid.simpleName.append (by decide)
  have hmint := h.mint (if id = "" then containerKey id else id) hs
  rw [← String.append_assoc] at hmint
  exact hmint

/-- The name of a type is unbroken, qualified with an unbroken path. -/
theorem UnbrokenNames.unbroken_resultName (h : n.UnbrokenNames) (hpackage : Unbroken n.package)
    {id : String} (hid : Unbroken id) : Unbroken (n.resultName id).1 := by
  have hself : (n.resultName id).2.names.get? id = some _ :=
    get?_names_mint_self n id (marker ++ simpleName id) id
  exact hpackage.qualify (h.resultName id _ _ hself hid)

end Naming.Namer

namespace Generator

variable {g g' : Generator}

theorem unbrokenNames_pinClasses {cs : List StructureClass} (hcs : ∀ c ∈ cs, Unbroken c.name) {n : Namer}
    (h : n.UnbrokenNames) : (cs.foldl pinClass n).UnbrokenNames := by
  induction cs generalizing n with
  | nil => exact h
  | cons c cs ih =>
    obtain ⟨hc, hcs⟩ := List.forall_mem_cons.1 hcs
    refine ih hcs ?_
    cases hkey : c.key? with
    | none => rw [pinClass, hkey]; exact h
    | some key =>
      rw [pinClass, hkey]
      show (n.claimKey key c.name).2.UnbrokenNames
      unfold Namer.claimKey
      dsimp only
      split
      · exact h
      · intro k ident hk hunbroken
        rcases Dict.get?_insert_cases hk with ⟨_, rfl⟩ | hk
        · exact hc.identOf
        · exact h k ident hk hunbroken

/-! ## What imports depend on -/

/-- What both forms of a builder keep together, holds of the files after they are written. -/
theorem EachFile.writeForms {P : String → SourceFile → Prop} (h : g.EachFile P) {path : String}
    {b : BuilderDecl} (hforms : ∀ f, P path f →
      P path ((f.emitBuilder g.emitter b).emitBuilder g.emitter b.toDeferred)) :
    (g.writeForms path b).EachFile P := by
  intro path' f hf
  have hf : ((g.files.modify path (·.emitBuilder g.emitter b)).modify path
      (·.emitBuilder g.emitter b.toDeferred)).get? path' = some f := hf
  rw [Dict.get?_modify, Dict.get?_modify, Dict.get?_modify, if_pos rfl] at hf
  split at hf
  case isTrue hpath =>
    rw [Option.map_map] at hf
    obtain ⟨f', hf', rfl⟩ := Option.map_eq_some_iff.1 hf
    rw [hpath, Function.comp_apply]
    exact hforms f' (h path f' hf')
  case isFalse => exact h path' f hf

/-- Names are unbroken as far as they are needed, and files show the packages that they need. The
containers of the output package need no import, so nothing is asked of their names. -/
structure Kempt (g : Generator) : Prop where
  importPath : g.options.importPath ≠ ""
  unbroken : Unbroken g.options.importPath
  package : g.namer.package = g.options.importPath
  undivided : g.namer.UndividedNames
  names : g.namer.UnbrokenNames
  containers : ∀ c name, g.containerNames.get? c = some name →
    ImportTable.Foreign g.options.importPath name → Unbroken name
  definitions : ∀ id d, g.Finds id d → Unbroken d.id
  files : g.EachFile fun _ f => f.Displays g.options.importPath

namespace Kempt

/-- A state with the same names and with other files. -/
theorem keep (h : Kempt g) (hoptions : g'.options = g.options) (hprovider : g'.provider = g.provider)
    (hnamer : g'.namer = g.namer) (hnames : g'.containerNames = g.containerNames)
    (hfiles : g'.EachFile fun _ f => f.Displays g.options.importPath) : Kempt g' where
  importPath := hoptions ▸ h.importPath
  unbroken := hoptions ▸ h.unbroken
  package := by rw [hnamer, hoptions, h.package]
  undivided := hnamer ▸ h.undivided
  names := hnamer ▸ h.names
  containers := by rw [hnames, hoptions]; exact h.containers
  definitions := by unfold Finds; rw [hprovider]; exact h.definitions
  files := by rw [hoptions]; exact hfiles

/-- A container of the output package gets a name that needs no import. -/
theorem containerName (h : Kempt g) (id : String) : Kempt (g.containerName id).2 := by
  cases hid : g.containerNames.get? id with
  | some name => rw [containerName_of_some hid]; exact h
  | none =>
    rw [containerName_of_none hid]
    have hundivided : (g.namer.containerName id).2.UndividedNames := h.undivided.serve (.container id)
    have hself : (g.namer.containerName id).2.names.get? (containerKey id) = some _ :=
      Namer.get?_names_mint_self g.namer (containerKey id) _ _
    refine ⟨h.importPath, h.unbroken, (Namer.package_mint _ _ _ _).trans h.package, hundivided,
      h.names.containerName id, fun c name hc hforeign => ?_, h.definitions, h.files⟩
    rcases Dict.get?_insert_cases hc with ⟨rfl, rfl⟩ | hc
    · have hown := Resident.not_foreign h.importPath (hundivided _ _ hself)
      rw [← h.package] at hown hforeign
      exact absurd hforeign hown
    · exact h.containers c name hc hforeign

theorem nameTarget (h : Kempt g) (d : TaskDefinition) : Kempt (g.nameTarget d).2.2 := by
  refine nameTarget_keeps ?_ fun _ id hg => hg.containerName id
  exact ⟨h.importPath, h.unbroken, (Namer.package_mint _ _ _ _).trans h.package,
    h.undivided.serve (.result d.id), h.names.resultName d.id, h.containers, h.definitions, h.files⟩

/-- Wrappers are called after unbroken names. -/
theorem enterTarget (h : Kempt g) {name : String} (hname : Unbroken name) (d : TaskDefinition)
    (containers : List String) : Kempt (g.enterTarget d name containers).2 := by
  refine h.keep rfl rfl rfl rfl ?_
  exact (h.files.ensureFile (SourceFile.displays_new _ _ _ _)).editFile fun f hf =>
    hf.emitWrapper g.emitter hname.identOf

theorem build (h : Kempt g) {parent : Parent}
    (hosted : parent.kind = .container → ∃ c, g.containerNames.get? c = some parent.type)
    (path tag : String) (d : TaskDefinition) (className : String) :
    Kempt (g.build path parent tag d className) := by
  have hparent : parent.kind = .container → ImportTable.Foreign g.options.importPath parent.type →
      Unbroken parent.type := by
    intro hkind
    obtain ⟨c, hc⟩ := hosted hkind
    exact h.containers c parent.type hc
  have hforms : ∀ f : SourceFile, f.Displays g.options.importPath →
      ((f.emitBuilder g.emitter (g.immediate parent tag d className)).emitBuilder g.emitter
        (g.immediate parent tag d className).toDeferred).Displays g.options.importPath := by
    intro f hf
    refine hf.emitForms fun calls hmem => ?_
    exact Call.shownBy_immediate hparent hmem
  have hs := sameBeyondBuilders_build g path parent tag d className
  refine h.keep hs.options hs.provider hs.namer hs.containerNames ?_
  rw [EachFile, build_eq, files_declare]
  exact h.files.writeForms hforms

/-- **Every step writes blocks that show what they need.** -/
theorem step (h : Kempt g) (hm : Step g g') : Kempt g' := by
  cases hm with
  | note _ _ _ | define _ _ => exact h.keep rfl rfl rfl rfl h.files
  | nameContainer id => exact h.containerName id
  | openContainer _ =>
    refine h.keep rfl rfl rfl rfl ?_
    refine (h.files.ensureFile (SourceFile.displays_new _ _ _ _)).editFile fun f hf => ?_
    exact hf.emitContainer g.emitter _ _
  | openTarget found =>
    rw [openTarget_eq, nameTarget_fst]
    refine (h.nameTarget _).enterTarget ?_ _ _
    exact h.names.unbroken_resultName (h.package ▸ h.unbroken) (h.definitions _ _ found)
  | place _ => exact h.keep rfl rfl rfl rfl (h.files.ensureFile (SourceFile.displays_new _ _ _ _))
  | build path parent tag d className hosted => exact h.build hosted path tag d className

/-- Loading pins the names of classes, or takes over containers that are called like them, in whatever order
its classes are met. -/
theorem load (h : Kempt g) {l : Loading} (hl : ∀ c ∈ l.library.listing, Unbroken c.name) :
    Kempt (g.load l) := by
  obtain ⟨rs, hrs⟩ := g.asks_load l
  have hnames : (g.load l).namer.UnbrokenNames := by
    cases hsame : g.samePackage l with
    | true => rw [load_of_own hsame]; exact unbrokenNames_pinClasses hl h.names
    | false => rw [(adopts_load hsame).namer]; exact h.names
  refine ⟨?_, ?_, ?_, hrs ▸ h.undivided.after rs, hnames, ?_, ?_, ?_⟩
  · rw [options_load]; exact h.importPath
  · rw [options_load]; exact h.unbroken
  · rw [hrs, Namer.package_after, options_load, h.package]
  · intro c name hname hforeign
    rw [options_load] at hforeign
    rcases containerNames_load hname with hname | ⟨cls, hcls, rfl⟩
    · exact h.containers c name hname hforeign
    · exact hl cls hcls
  · unfold Finds
    rw [provider_load]
    exact h.definitions
  · rw [EachFile, files_load, options_load]
    exact h.files

theorem fresh {p : Provider} (h : Fresh p g) (hpath : Unbroken g.options.importPath)
    (hids : ∀ id m d, (p.ask id m).1 = .found d → Unbroken d.id) : Kempt g where
  importPath := h.importPath
  unbroken := hpath
  package := by rw [h.namer]; rfl
  undivided := h.namer ▸ Namer.undividedNames_new _ _
  names := h.namer ▸ Namer.unbrokenNames_new _ _
  containers := by
    intro c name hname
    rw [h.containerNames] at hname
    cases hname
  definitions := by
    rintro id d ⟨m, hm⟩
    rw [h.provider, Provider.found_safe_iff] at hm
    exact hids id m d hm
  files := by
    intro path f hf
    rw [h.files] at hf
    cases hf

/-- **Every file shows the packages that it needs**, after any operations over any provider. -/
theorem displays_of_output {p : Provider} {o : GeneratorOptions} {g₀ : Generator}
    (hnew : Generator.new p o = .ok g₀) (hpath : Unbroken o.importPath)
    (hids : ∀ id m d, (p.ask id m).1 = .found d → Unbroken d.id) {ops : List Operation}
    (hclasses : ∀ l, .load l ∈ ops → ∀ c ∈ l.library.listing, Unbroken c.name) {f : SourceFile}
    (hf : f ∈ (g₀.performAll ops).outputs) : f.Displays f.importPath := by
  have hpath₀ : Unbroken g₀.options.importPath := by rw [options_of_new hnew]; exact hpath
  have hkempt : Kempt (g₀.performAll ops) := keeps_performAll_of_steps (fun _ _ hm h => h.step hm) ops g₀
    (fun l hl _ h => h.load (hclasses l hl)) (.fresh (fresh_of_new hnew) hpath₀ hids)
  obtain ⟨path, hfile⟩ := (Dict.mem_values_iff _ _).1 (List.mem_filter.1 hf).1
  obtain ⟨himport, calls, hholds, hshown⟩ := hkempt.files path f hfile
  exact ⟨rfl, calls, hholds, himport.symm ▸ hshown⟩

end Kempt

/-! ## Imports -/

/-- **A file imports what it uses.** After any operations over any provider, where no line break is in an
identifier of a definition, in a class of a loaded structure or in the path of the output package, every
file holds the blocks of some calls, and every package that it has recorded shows under its alias in a line
that is no comment. All lines of its import block are used and account for all references of these calls,
under the alias that stands in the reference, exactly when no package was left without an alias. -/
theorem imports_used_and_complete_iff {p : Provider} {o : GeneratorOptions} {g₀ : Generator}
    (hnew : Generator.new p o = .ok g₀) (hpath : Unbroken o.importPath)
    (hids : ∀ id m d, (p.ask id m).1 = .found d → Unbroken d.id) {ops : List Operation}
    (hclasses : ∀ l, .load l ∈ ops → ∀ c ∈ l.library.listing, Unbroken c.name) {f : SourceFile}
    (hf : f ∈ (g₀.performAll ops).outputs) :
    ∃ calls, f.Holds calls ∧ (∀ e ∈ f.imports.used, Text.Shows f.body (e.shortName ++ ".")) ∧
      (((∀ s ∈ f.imports.specs, Text.Shows f.body (s.ident ++ ".")) ∧
        ∀ c ∈ calls, ∀ q ∈ c.names, ImportTable.Foreign f.importPath q →
          f.imports.Resolves (f.imports.reference q) q) ↔ "" ∉ f.imports.aliases) := by
  obtain ⟨_, calls, hholds, hshown⟩ := Kempt.displays_of_output hnew hpath hids hclasses hf
  exact ⟨calls, hholds, fun e he => hholds.shows hshown he, hholds.imports_iff hshown⟩

/-- A frame that takes a thread. -/
def frameTypes : List TaskDefinition :=
  [{ id := "x.Frame", nested := [⟨"thread", "y.Thread"⟩] }, { id := "y.Thread" }]

/-- A library whose class of threads is in the package that its path says. -/
def threadsIn (path : String) : Structure :=
  { classes := .ofList [(path ++ ".DSLThread", { name := path ++ ".DSLThread", source := "y.Thread" })] }

theorem unbroken_of_frameTypes {id : String} {m : Memory} {d : TaskDefinition}
    (hd : ((Provider.static frameTypes).ask id m).1 = .found d) : Unbroken d.id := by
  have hall : ∀ d ∈ frameTypes, Unbroken d.id := by decide
  exact hall d (Provider.mem_of_static hd).1

theorem imports_used_and_complete_iff_frame :
    ∃ g₀ f, Generator.new (.static frameTypes) { importPath := "m/out", runtimePath := "m/rt" } = .ok g₀ ∧
      f ∈ (g₀.performAll [.load (.byName (threadsIn "m/lib")), .request (.resolve "x.Frame")]).outputs ∧
      f.imports.aliases = ["rt", "lib"] ∧
      ∃ calls, f.Holds calls ∧ (∀ s ∈ f.imports.specs, Text.Shows f.body (s.ident ++ ".")) ∧
        ∀ c ∈ calls, ∀ q ∈ c.names, ImportTable.Foreign f.importPath q →
          f.imports.Resolves (f.imports.reference q) q := by
  obtain ⟨g₀, hnew⟩ := exists_new (Provider.static frameTypes)
    (o := { importPath := "m/out", runtimePath := "m/rt" }) (by decide) (by decide)
  have hthreads : ∀ c ∈ (threadsIn "m/lib").listing, Unbroken c.name := by decide +kernel
  have hloads : ∀ l,
      .load l ∈ [.load (.byName (threadsIn "m/lib")), Operation.request (.resolve "x.Frame")] →
      ∀ c ∈ l.library.listing, Unbroken c.name := by
    rintro l hl
    obtain rfl : l = .byName (threadsIn "m/lib") := by simpa using hl
    exact hthreads
  have hevaluate :
      (g₀.performAll [.load (.byName (threadsIn "m/lib")), .request (.resolve "x.Frame")]).outputs.any
        (fun f => decide (f.imports.aliases = ["rt", "lib"])) = true := by
    obtain rfl := Except.ok.inj hnew
    decide +kernel
  obtain ⟨f, hf, hevaluate⟩ := List.any_eq_true.1 hevaluate
  have haliases := of_decide_eq_true hevaluate
  obtain ⟨calls, hholds, _, hiff⟩ := imports_used_and_complete_iff hnew (by decide)
    (fun _ _ _ => unbroken_of_frameTypes) hloads hf
  exact ⟨g₀, f, hnew, hf, haliases, calls, hholds, hiff.2 (by simp [haliases])⟩

/-! ## Packages without aliases -/

/-- The runtime package has the alias that the package `_` would get, so that this one is left without.
Its import brings in `_`, but the reference to its class begins with a dot, which no import accounts for. -/
theorem import_without_alias :
    ∃ g₀ f, Generator.new (.static frameTypes) { importPath := "m/out", runtimePath := "m/pkg" } = .ok g₀ ∧
      (∀ c ∈ (threadsIn "_").listing, Unbroken c.name) ∧
      f ∈ (g₀.performAll [.load (.byName (threadsIn "_")), .request (.resolve "x.Frame")]).outputs ∧
      (∃ s ∈ f.imports.specs, s.path = "_" ∧ s.ident = "_") ∧
      f.imports.reference "_.DSLThread" = ".DSLThread" ∧
      ∃ calls, f.Holds calls ∧ ∃ c ∈ calls, ∃ q ∈ c.names, ImportTable.Foreign f.importPath q ∧
        ¬ f.imports.Resolves (f.imports.reference q) q := by
  obtain ⟨g₀, hnew⟩ := exists_new (Provider.static frameTypes)
    (o := { importPath := "m/out", runtimePath := "m/pkg" }) (by decide) (by decide)
  have hthreads : ∀ c ∈ (threadsIn "_").listing, Unbroken c.name := by decide +kernel
  have hloads : ∀ l, .load l ∈ [.load (.byName (threadsIn "_")), Operation.request (.resolve "x.Frame")] →
      ∀ c ∈ l.library.listing, Unbroken c.name := by
    rintro l hl
    obtain rfl : l = .byName (threadsIn "_") := by simpa using hl
    exact hthreads
  have hevaluate :
      (g₀.performAll [.load (.byName (threadsIn "_")), .request (.resolve "x.Frame")]).outputs.any (fun f =>
        decide (f.imports.used = [⟨"m/pkg", "pkg"⟩, ⟨"_", ""⟩] ∧
          f.imports.reference "_.DSLThread" = ".DSLThread")) = true := by
    obtain rfl := Except.ok.inj hnew
    decide +kernel
  obtain ⟨f, hf, hevaluate⟩ := List.any_eq_true.1 hevaluate
  obtain ⟨hused, hreference⟩ := of_decide_eq_true hevaluate
  obtain ⟨_, calls, hholds, _⟩ := Kempt.displays_of_output hnew (by decide)
    (fun _ _ _ => unbroken_of_frameTypes) hloads hf
  have hspec : (⟨"_", ""⟩ : ImportAlias).spec ∈ f.imports.specs :=
    ImportTable.mem_specs.2 ⟨_, by simp [hused], rfl⟩
  refine ⟨g₀, f, hnew, hthreads, hf, ⟨_, hspec, by decide, by decide⟩, hreference, calls, hholds, ?_⟩
  have hempty : "" ∈ f.imports.aliases := by simp [ImportTable.aliases, hused]
  have hmissing := mt hholds.resolves_iff.1 (not_not_intro hempty)
  push Not at hmissing
  exact hmissing

end Generator

end TaskBuilders
