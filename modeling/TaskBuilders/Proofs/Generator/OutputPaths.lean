import TaskBuilders.Proofs.Command.Writing
import TaskBuilders.Proofs.Generator.Loading
import TaskBuilders.Proofs.Text.Path

/-!
# Where output goes

The file of a type is called after its class, and the class after the type. A slash in that name leads
out of the file's directory, and `..` even further. As long as no such name comes from the provider or
from a loaded library, every file stands directly in the output directory.

* `Filing` — files, and the places where files are going to be, have names without slashes
* `pairwise_outputs` — files are listed by strictly ascending path
* `outputs_stay_in_directory` — output and what is written of it stay in the output directory
* `output_leaves_directory` — a type whose name has slashes can lead anywhere
-/

namespace TaskBuilders

open Naming QualifiedName Text Files Command

namespace Generator

variable {g g' : Generator} {dir : String}

/-! ## Listed by path -/

theorem filesByPath_step (h : g.EachFile fun path f => f.path = path) (hm : Step g g') :
    g'.EachFile fun path f => f.path = path :=
  h.step hm (fun _ _ => rfl) fun _ _ _ _ hf => hf

/-- **Files are listed by strictly ascending path.** -/
theorem pairwise_outputs (h : g.EachFile fun path f => f.path = path) :
    (g.outputs.map (·.path)).Pairwise (· < ·) := by
  have hentries : g.files.entries.Pairwise fun e e' => e.2.path < e'.2.path := by
    refine g.files.ascending.imp_of_mem fun {e e'} he he' hlt => ?_
    rw [h e.1 e.2 ((g.files.mem_entries_iff e.1 e.2).1 he),
      h e'.1 e'.2 ((g.files.mem_entries_iff e'.1 e'.2).1 he')]
    exact hlt
  have hvalues : g.files.values.Pairwise fun f f' => f.path < f'.path := List.pairwise_map.2 hentries
  exact List.pairwise_map.2 (hvalues.filter _)

/-! ## Names of files -/

/-- The ending of generated files. -/
def fileEnding : String := ".gen.go"

/-- The path of a file of the directory whose name has neither dots nor slashes before its ending. -/
def OwnPath (dir path : String) : Prop :=
  ∃ stem, Whole stem ∧ path = joinPath [dir, stem ++ fileEnding]

theorem proper_append_ending {stem : String} (h : Whole stem) : Proper (stem ++ fileEnding) where
  noSlash := by
    rw [String.toList_append, List.mem_append, not_or]
    exact ⟨fun hmem => absurd (h '/' hmem) (by decide), by decide⟩
  ne_empty := fun he => absurd (String.append_eq_empty_iff.1 he).2 (by decide)
  ne_dot := by
    intro he
    have hlength := congrArg String.length he
    rw [String.length_append, show fileEnding.length = 7 from rfl, show ".".length = 1 from rfl]
      at hlength
    omega
  ne_up := by
    intro he
    have hlength := congrArg String.length he
    rw [String.length_append, show fileEnding.length = 7 from rfl, show "..".length = 2 from rfl]
      at hlength
    omega

/-! ## Files and targets -/

/-- Files, and the places where files are going to be, have names without slashes. -/
structure Filing (dir : String) (g : Generator) : Prop where
  directory : g.options.dir = dir
  plain : ∀ id d, g.Finds id d → Whole (simpleName d.id)
  names : g.namer.WholeNames
  files : g.EachFile fun path _ => OwnPath dir path
  classes : ∀ id t, g.resolved.get? id = some t → Whole (identOf t.className)
  targets : ∀ id t path, g.resolved.get? id = some t → t.file = some path → OwnPath dir path

namespace Filing

theorem of_same (h : Filing dir g) (hoptions : g'.options = g.options)
    (hprovider : g'.provider = g.provider) (hnames : g'.namer.WholeNames)
    (hfiles : g'.EachFile fun path _ => OwnPath dir path) (hresolved : g'.resolved = g.resolved) :
    Filing dir g' where
  directory := by rw [hoptions, h.directory]
  plain := by unfold Finds; rw [hprovider]; exact h.plain
  names := hnames
  files := hfiles
  classes := by rw [hresolved]; exact h.classes
  targets := by rw [hresolved]; exact h.targets

/-- An entry whose class and file have names without slashes is added. -/
theorem insert (h : Filing dir g) {id : String} {t : Target} (hclass : Whole (identOf t.className))
    (hfile : ∀ path, t.file = some path → OwnPath dir path) (hoptions : g'.options = g.options)
    (hprovider : g'.provider = g.provider) (hnames : g'.namer.WholeNames)
    (hfiles : g'.EachFile fun path _ => OwnPath dir path)
    (hresolved : g'.resolved = g.resolved.insert id t) : Filing dir g' where
  directory := by rw [hoptions, h.directory]
  plain := by unfold Finds; rw [hprovider]; exact h.plain
  names := hnames
  files := hfiles
  classes := by
    intro i u hu
    rw [hresolved] at hu
    rcases Dict.get?_insert_cases hu with ⟨rfl, rfl⟩ | hu
    · exact hclass
    · exact h.classes i u hu
  targets := by
    intro i u path hu hpath
    rw [hresolved] at hu
    rcases Dict.get?_insert_cases hu with ⟨rfl, rfl⟩ | hu
    · exact hfile path hpath
    · exact h.targets i u path hu hpath

theorem ownPath (h : Filing dir g) {stem : String} (hstem : Whole stem) :
    OwnPath dir (g.filePath (stem ++ fileEnding)) := by
  rw [filePath, h.directory]
  exact ⟨stem, hstem, rfl⟩

/-- The name of a type with a plain identifier has no slashes. -/
theorem whole_resultName (h : Filing dir g) {d : TaskDefinition} (hplain : Whole (simpleName d.id)) :
    Whole (identOf (g.namer.resultName d.id).1) := by
  have hname : (g.namer.resultName d.id).2.names.get? d.id =
      some (g.namer.mint d.id (marker ++ simpleName d.id) d.id).1 :=
    Namer.get?_names_mint_self _ _ _ _
  have hwhole := h.names.resultName d.id d.id _ hname hplain
  rw [Namer.resultName, identOf_qualify_of_whole hwhole]
  exact hwhole

/-- The file that builders of a target go to has a name without slashes. -/
theorem ownPath_targetPath (h : Filing dir g) {id : String} {t : Target}
    (ht : g.resolved.get? id = some t) : OwnPath dir (g.targetPath t) := by
  unfold targetPath
  cases hfile : t.file with
  | some path => exact h.targets id t path ht hfile
  | none =>
    have hstem : Whole ("ext_" ++ snakeCase (identOf t.className)) :=
      Whole.append (by decide) (Whole.snakeCase (h.classes id t ht))
    exact h.ownPath hstem

theorem enterTarget (h : Filing dir g) {d : TaskDefinition} {name : String}
    (hname : Whole (identOf name)) (containers : List String) :
    Filing dir (g.enterTarget d name containers).2 := by
  have hpath := h.ownPath (Whole.snakeCase hname)
  refine h.insert (t := (g.enterTarget d name containers).1) hname ?_ rfl rfl h.names
    ((h.files.ensureFile hpath).editFile fun _ hf => hf) rfl
  intro path hp
  obtain rfl := Option.some.inj hp
  exact hpath

/-- Every step keeps slashes out of the names of files. -/
theorem step (h : Filing dir g) (hm : Step g g') : Filing dir g' := by
  have hoptions := options_step hm
  have hprovider := provider_step hm
  have hnames := wholeNames_namingStep h.names hm.namingStep
  cases hm with
  | note _ _ _ => exact h.of_same rfl rfl hnames h.files rfl
  | nameContainer id =>
    have hs := sameBeyondNames_containerName g id
    refine h.of_same hoptions hprovider hnames ?_ hs.resolved
    rw [EachFile, hs.files]
    exact h.files
  | openContainer _ =>
    have hstem : Whole "containers" := by decide
    have hpath : OwnPath dir (g.filePath containersFile) := h.ownPath hstem
    exact h.of_same rfl rfl hnames ((h.files.ensureFile hpath).editFile fun _ hf => hf) rfl
  | @openTarget _ d found =>
    have hs := sameBeyondNames_nameTarget g d
    have hnamed : Filing dir (g.nameTarget d).2.2 := by
      refine h.of_same hs.options hs.provider ?_ ?_ hs.resolved
      · rw [← (g.openTarget_names d).2]
        exact hnames
      · rw [EachFile, hs.files]
        exact h.files
    rw [openTarget_eq]
    exact hnamed.enterTarget (h.whole_resultName (h.plain _ d found)) _
  | @define id t ht d =>
    exact h.insert (t := { t with definition := some d }) (h.classes id t ht)
      (fun path => h.targets id t path ht) rfl rfl hnames h.files rfl
  | @place id t ht =>
    have hpath := h.ownPath_targetPath ht
    refine h.insert (t := { t with file := some (g.targetPath t) }) (h.classes id t ht) ?_ rfl rfl
      hnames (h.files.ensureFile hpath) rfl
    intro path hp
    obtain rfl := Option.some.inj hp
    exact hpath
  | build path parent tag d className =>
    have hs := sameBeyondBuilders_build g path parent tag d className
    refine h.of_same hoptions hprovider hnames ?_ hs.resolved
    rw [build_eq, EachFile, files_declare]
    exact EachFile.editFile (g := { writeBuilder path g _ with functions := _ })
      (EachFile.editFile (g := { g with functions := _ }) h.files fun _ hf => hf) fun _ hf => hf

end Filing

/-! ## Loading -/

/-- The generated classes of a structure have names without slashes. -/
def Slashless (s : Structure) : Prop :=
  ∀ c ∈ s.listing, isGenerated c → '/' ∉ (identOf c.name).toList

instance (s : Structure) : Decidable (Slashless s) :=
  inferInstanceAs (Decidable (∀ c ∈ s.listing, _ → _))

theorem Slashless.whole {s : Structure} (h : Slashless s) {c : StructureClass}
    (hc : c ∈ s.listing) (hgen : isGenerated c) : Whole (identOf c.name) :=
  (undivided_identOf c.name).whole (h c hc hgen)

theorem wholeNames_pinClass {n : Namer} (h : n.WholeNames) {c : StructureClass}
    (hc : isGenerated c → Whole (identOf c.name)) : (pinClass n c).WholeNames := by
  cases hkey : c.key? with
  | none => rw [pinClass, hkey]; exact h
  | some key =>
    rw [pinClass, hkey]
    show (n.claimKey key c.name).2.WholeNames
    unfold Namer.claimKey
    dsimp only
    split
    · exact h
    · intro k ident hk hsimple
      rcases Dict.get?_insert_cases hk with ⟨_, rfl⟩ | hk
      · exact hc (StructureClass.isGenerated_iff.2 ⟨key, hkey⟩)
      · exact h k ident hk hsimple

theorem wholeNames_pinClasses {cs : List StructureClass}
    (hcs : ∀ c ∈ cs, isGenerated c → Whole (identOf c.name)) {n : Namer} (h : n.WholeNames) :
    (cs.foldl pinClass n).WholeNames := by
  induction cs generalizing n with
  | nil => exact h
  | cons c cs ih =>
    exact ih (fun d hd => hcs d (List.mem_cons_of_mem c hd))
      (wholeNames_pinClass h (hcs c List.mem_cons_self))

/-- Loading a structure whose classes have names without slashes, in whatever order they are met. -/
theorem Filing.load (h : Filing dir g) {l : Loading} (hl : Slashless l.library) :
    Filing dir (g.load l) := by
  cases hsame : g.samePackage l with
  | true =>
    rw [load_of_own hsame]
    exact h.of_same rfl rfl (wholeNames_pinClasses (fun c => hl.whole) h.names) h.files rfl
  | false =>
    have ha := adopts_load hsame
    refine ⟨by rw [ha.options, h.directory], by unfold Finds; rw [ha.provider]; exact h.plain,
      by rw [ha.namer]; exact h.names, by rw [EachFile, ha.files]; exact h.files, ?_, ?_⟩
    · intro id t ht
      rcases ha.origin id t ht with ht | ⟨c, hc, hsource, _, rfl⟩
      · exact h.classes id t ht
      · exact hl.whole hc (StructureClass.isGenerated_iff.2 ⟨_, StructureClass.key?_of_source hsource⟩)
    · intro id t path ht hpath
      rcases ha.origin id t ht with ht | ⟨c, _, _, _, rfl⟩
      · exact h.targets id t path ht hpath
      · cases hpath

/-! ## Output -/

theorem Filing.fresh {p : Provider} (h : Fresh p g)
    (hplain : ∀ id m d, (p.ask id m).1 = .found d → '/' ∉ (simpleName d.id).toList) :
    Filing g.options.dir g where
  directory := rfl
  plain := by
    rintro id d ⟨m, hm⟩
    rw [h.provider, Provider.found_safe_iff] at hm
    exact (undivided_simpleName d.id).whole (hplain id m d hm)
  names := by rw [h.namer]; exact Namer.wholeNames_new _ _
  files := by
    intro path f hf
    rw [h.files] at hf
    cases hf
  classes := by
    intro id t ht
    rw [h.resolved] at ht
    cases ht
  targets := by
    intro id t path ht
    rw [h.resolved] at ht
    cases ht

/-- The way to a file that stands directly in a directory. -/
theorem below_child {name : String} (hname : Proper name) (root : Location) (dir : String) :
    below root (child dir name) = below root dir ++ [name] := by
  by_cases hdot : dir = "."
  · have hdrop : cleanElements true (root ++ ["."]) = cleanElements true root := by
      unfold cleanElements
      rw [List.foldl_append]
      rfl
    rw [hdot, child, if_pos rfl, below, below, splitAtChar_of_not_mem hname.noSlash,
      show splitAtChar '/' "." = ["."] by decide, hdrop, cleanElements_append hname]
  · rw [child, if_neg hdot, below, below, cleanElements_splitAtChar hname]

theorem Filing.path_of_output (h : Filing dir g) (hpaths : g.EachFile fun path f => f.path = path)
    (hdir : CleanRelative dir) {f : SourceFile} (hf : f ∈ g.outputs) :
    ∃ stem, Proper (stem ++ fileEnding) ∧ f.path = child dir (stem ++ fileEnding) := by
  obtain ⟨path, hpath⟩ := (Dict.mem_values_iff _ _).1 (List.mem_filter.1 hf).1
  obtain ⟨stem, hstem, rfl⟩ := h.files path f hpath
  have hproper := proper_append_ending hstem
  exact ⟨stem, hproper, by rw [hpaths _ f hpath, joinPath_of_clean hdir hproper]⟩

/-- **Output stays in the output directory.** After any operations over any provider, whatever order the
classes of loaded libraries are met in, files are listed by strictly ascending path. If the directory is a
clean relative path, and neither definitions nor generated classes of loaded libraries have slashes in
their names, every file is the directory and one more element, with the ending of generated files, and
writing all files below a root changes nothing outside the directory there. -/
theorem outputs_stay_in_directory {p : Provider} {o : GeneratorOptions} {g₀ : Generator}
    (hnew : Generator.new p o = .ok g₀) (ops : List Operation) :
    let g := g₀.performAll ops
    let dir := o.withDefaults.dir
    (g.outputs.map (·.path)).Pairwise (· < ·) ∧
    (CleanRelative dir →
      (∀ id m d, (p.ask id m).1 = .found d → '/' ∉ (simpleName d.id).toList) →
      (∀ l, .load l ∈ ops → Slashless l.library) →
      (∀ f ∈ g.outputs, ∃ stem, '/' ∉ (stem ++ fileEnding).toList ∧
        f.path = child dir (stem ++ fileEnding)) ∧
      ∀ root faults session, Tree.StaysWithin (below root dir) session.tree
        ((writeSources root g.outputs faults).run session).2.tree) := by
  intro g dir
  have hfresh := fresh_of_new hnew
  have hpaths : g.EachFile fun path f => f.path = path := by
    refine keeps_performAll_of_steps (fun _ _ hm h => filesByPath_step h hm) ops g₀
      (fun l _ g h => by rw [EachFile, files_load]; exact h) ?_
    intro path f hf
    rw [hfresh.files] at hf
    cases hf
  refine ⟨pairwise_outputs hpaths, fun hclean hplain hloads => ?_⟩
  have hdir : g₀.options.dir = dir := by rw [options_of_new hnew]
  have hfiling : Filing dir g := keeps_performAll_of_steps (fun _ _ hm h => h.step hm) ops g₀
    (fun l hl _ h => h.load (hloads l hl)) (hdir ▸ Filing.fresh hfresh hplain)
  have hout := fun f (hf : f ∈ g.outputs) => hfiling.path_of_output hpaths hclean hf
  refine ⟨fun f hf => ?_, fun root faults session => ?_⟩
  · obtain ⟨stem, hproper, hpath⟩ := hout f hf
    exact ⟨stem, hproper.noSlash, hpath⟩
  · refine staysWithin_writeSources g.outputs faults session fun f hf => ?_
    obtain ⟨stem, hproper, hpath⟩ := hout f hf
    exact ⟨_, by rw [hpath, below_child hproper]⟩

/-- Types of two packages with one simple name, and a type that an earlier library has. -/
def loomTypes : List TaskDefinition :=
  [{ id := "x/a.Loom", executable := true, capabilities := ["x/a.Frame"],
     nested := [⟨"thread", "y.Thread"⟩] },
   { id := "x/b.Loom", executable := true }, { id := "y.Thread", capabilities := ["x/a.Frame"] }]

/-- The structure of an earlier library, in another package. -/
def threadLibrary : Structure :=
  { runtime := "m/rt"
    classes := .ofList [("m/lib.DSLThread", { name := "m/lib.DSLThread", source := "y.Thread" })] }

theorem outputs_stay_in_directory_loomTypes :
    ∃ g₀, Generator.new (.static loomTypes)
        { importPath := "m/out", runtimePath := "m/rt", dir := "gen/lib" } = .ok g₀ ∧
      let g := g₀.performAll [.load (.byName threadLibrary), .request (.resolve "x/a.Loom"),
        .request (.tagAlias ⟨"thread", "y.Thread", true⟩), .request (.defaults ["x/b.Loom"])]
      CleanRelative "gen/lib" ∧ Slashless threadLibrary ∧
      (g.outputs.map (·.path)).Pairwise (· < ·) ∧
      (∀ f ∈ g.outputs, ∃ stem, '/' ∉ (stem ++ fileEnding).toList ∧
        f.path = child "gen/lib" (stem ++ fileEnding)) ∧
      "gen/lib/ext_dsl_thread.gen.go" ∈ g.outputs.map (·.path) := by
  have hclean : CleanRelative "gen/lib" := by decide
  have hloaded : Slashless threadLibrary := by decide +kernel
  have hplain : ∀ id m d, ((Provider.static loomTypes).ask id m).1 = .found d →
      '/' ∉ (simpleName d.id).toList := by
    intro id m d hd
    have hall : ∀ d ∈ loomTypes, '/' ∉ (simpleName d.id).toList := by decide
    exact hall d (Provider.mem_of_static hd).1
  obtain ⟨hascending, hin⟩ := outputs_stay_in_directory
    (rfl : Generator.new (.static loomTypes)
      { importPath := "m/out", runtimePath := "m/rt", dir := "gen/lib" } = .ok _)
    [.load (.byName threadLibrary), .request (.resolve "x/a.Loom"),
      .request (.tagAlias ⟨"thread", "y.Thread", true⟩), .request (.defaults ["x/b.Loom"])]
  refine ⟨_, rfl, hclean, hloaded, hascending, (hin hclean hplain ?_).1, by decide +kernel⟩
  intro l hl
  obtain rfl : l = .byName threadLibrary := by simpa using hl
  exact hloaded

/-- A type without a dot behind its slashes is all name, and its file can stand anywhere. -/
theorem output_leaves_directory :
    ∃ g₀, Generator.new (.static [{ id := "../../../../../evil" }])
        { importPath := "m/out", runtimePath := "m/rt" } = .ok g₀ ∧
      CleanRelative g₀.options.dir ∧
      (g₀.serve (.resolve "../../../../../evil")).outputs.map (·.path) = ["../evil.gen.go"] ∧
      below ["srv", "out"] g₀.options.dir = ["srv", "out", "dslgen"] ∧
      below ["srv", "out"] "../evil.gen.go" = ["srv", "evil.gen.go"] := by
  refine ⟨_, rfl, by decide, ?_, by decide, by decide⟩
  decide +kernel

end Generator

end TaskBuilders
