import TaskBuilders.Module.Manifest
import TaskBuilders.Proofs.Files.Placing
import TaskBuilders.Proofs.Naming.Shape

/-!
# The module that a directory belongs to

The search climbs from a directory and stops at the first manifest. From then on only that manifest counts,
and in it only the first line that is a module line: a manifest that cannot be read, has no such line or an
empty path in it is not passed over. The module's root is therefore on the way to the directory, and what is
left of the way goes behind the path of the module.

* `directive?_eq_some_iff` — which lines are module lines, and what they declare
* `ManifestReads` — what reading a manifest gives: its text, or the fault that keeps it from being read
* `Nearest` — the nearest manifest, with what reading it gives; there is at most one
* `climb_cases` — the search ends at the nearest manifest, or past the root
* `Discovered` — what a search comes to
* `find_decided_by_nearest` — it comes to that and to nothing else, and the import path is the path of the
  module with the way down behind it
-/

namespace TaskBuilders.Module

open Files Text

/-! ## Module lines -/

/-- The line declares the path of a module. White space at its ends does not count, nor do the quotation
marks that the path may stand in. -/
inductive ModuleLine (line : String) : String → Prop where
  /-- The keyword on its own declares the empty path. -/
  | bare (h : trim line = "module") : ModuleLine line ""
  | named (rest : String) (h : trim line = "module " ++ rest) :
      ModuleLine line (trimWhile (· == '"') (trim rest))

theorem exists_append_of_hasLeading {lead s : String} (h : hasLeading lead s = true) :
    ∃ rest, s = lead ++ rest := by
  obtain ⟨rest, hrest⟩ := List.isPrefixOf_iff_prefix.1 h
  refine ⟨String.ofList rest, String.toList_inj.1 ?_⟩
  rw [String.toList_append, String.toList_ofList, hrest]

theorem hasLeading_append (lead rest : String) : hasLeading lead (lead ++ rest) = true := by
  rw [hasLeading, String.toList_append]
  exact List.isPrefixOf_iff_prefix.2 (List.prefix_append _ _)

theorem trim_blank_append (s : String) : trim (" " ++ s) = trim s := by
  have hblank : (" " ++ s).toList.dropWhile isBlank = s.toList.dropWhile isBlank := by
    rw [String.toList_append]
    exact List.dropWhile_cons_of_pos (by decide)
  rw [trim, trimWhile, hblank]
  rfl

/-- What stands behind the keyword and a blank is trimmed like what stands behind the keyword. -/
theorem trim_dropLeading_module (rest : String) :
    trim (dropLeading "module" ("module " ++ rest)) = trim rest := by
  have hword : "module " ++ rest = "module" ++ (" " ++ rest) := by
    rw [← String.append_assoc]
    rfl
  rw [hword, Naming.dropLeading_append, trim_blank_append]

/-- **Which lines are module lines**, and which paths they declare. -/
theorem directive?_eq_some_iff {line path : String} :
    directive? line = some path ↔ ModuleLine line path := by
  unfold directive?
  dsimp only
  constructor
  · intro h
    split at h
    · next hline =>
      obtain rfl := Option.some.inj h
      rw [Bool.or_eq_true, decide_eq_true_iff] at hline
      rcases hline with hbare | hnamed
      · rw [hbare]
        exact .bare hbare
      · obtain ⟨rest, hrest⟩ := exists_append_of_hasLeading hnamed
        rw [hrest, trim_dropLeading_module]
        exact .named rest hrest
    · cases h
  · rintro (hbare | ⟨rest, hrest⟩)
    · rw [hbare]
      decide
    · rw [hrest, if_pos (by rw [hasLeading_append, Bool.or_true]), trim_dropLeading_module]

theorem directive?_eq_none_iff {line : String} :
    directive? line = none ↔ ∀ path, ¬ ModuleLine line path := by
  simp only [Option.eq_none_iff_forall_ne_some, ne_eq, directive?_eq_some_iff]

/-! ## Manifests -/

/-- The first module line of a manifest declares the path. -/
def Declares (text path : String) : Prop :=
  ∃ before line after, splitAtChar '\n' text = before ++ line :: after ∧ ModuleLine line path ∧
    ∀ l ∈ before, ∀ path', ¬ ModuleLine l path'

/-- No line of a manifest is a module line. -/
def DeclaresNone (text : String) : Prop :=
  ∀ line ∈ splitAtChar '\n' text, ∀ path, ¬ ModuleLine line path

theorem declaredPath?_eq_some_iff {text path : String} :
    declaredPath? text = some path ↔ Declares text path := by
  simp only [declaredPath?, List.findSome?_eq_some_iff, directive?_eq_some_iff, directive?_eq_none_iff,
    Declares]

theorem declaredPath?_eq_none_iff {text : String} : declaredPath? text = none ↔ DeclaresNone text := by
  simp only [declaredPath?, List.findSome?_eq_none_iff, directive?_eq_none_iff, DeclaresNone]

variable {t : Tree} {faults : ReadFaults} {dir root l : Location} {text path : String}
  {fault : ReadFault} {manifest : Except ReadFault String}

/-- A manifest stands in the directory. -/
def HoldsManifest (t : Tree) (l : Location) : Prop := t.isFile (l ++ [manifestName]) = true

instance (t : Tree) (l : Location) : Decidable (HoldsManifest t l) :=
  inferInstanceAs (Decidable (_ = true))

/-- What reading the manifest in the directory gives. -/
inductive ManifestReads (t : Tree) (faults : ReadFaults) (l : Location) :
    Except ReadFault String → Prop where
  | text {i : Item} {text : String} (there : t.item? (l ++ [manifestName]) = some i)
      (content : i.content = .ok text) (readable : faults (l ++ [manifestName]) = none) :
      ManifestReads t faults l (.ok text)
  | fault {fault : ReadFault} (holds : HoldsManifest t l)
      (unreadable : faults (l ++ [manifestName]) = some fault) :
      ManifestReads t faults l (.error fault)

theorem manifestAt?_eq_none_iff : manifestAt? t faults l = none ↔ ¬ HoldsManifest t l := by
  unfold manifestAt? HoldsManifest Tree.isFile
  dsimp only
  cases t.item? (l ++ [manifestName]) with
  | none => simp
  | some i => cases i <;> simp

/-- A manifest that is there is read, or there is a reason why not. -/
theorem manifestAt?_of_content {i : Item} (there : t.item? (l ++ [manifestName]) = some i)
    (content : i.content = .ok text) :
    manifestAt? t faults l = some ((faults (l ++ [manifestName])).elim (.ok text) .error) := by
  unfold manifestAt?
  dsimp only
  rw [there]
  cases i with
  | directory => cases content
  | file s => rw [Except.ok.inj content]
  | archive entries => rw [← Except.ok.inj content]

theorem exists_content_of_holdsManifest (h : HoldsManifest t l) :
    ∃ i text, t.item? (l ++ [manifestName]) = some i ∧ i.content = .ok text := by
  obtain ⟨i, hi, hne⟩ := Tree.isFile_iff.1 h
  cases i with
  | directory => exact absurd rfl hne
  | file s => exact ⟨_, s, hi, rfl⟩
  | archive entries => exact ⟨_, archiveMark, hi, rfl⟩

theorem holdsManifest_of_content {i : Item} (there : t.item? (l ++ [manifestName]) = some i)
    (content : i.content = .ok text) : HoldsManifest t l := by
  refine Tree.isFile_iff.2 ⟨i, there, ?_⟩
  rintro rfl
  cases content

theorem ManifestReads.holds (h : ManifestReads t faults l manifest) : HoldsManifest t l := by
  cases h with
  | text there content _ => exact holdsManifest_of_content there content
  | fault holds _ => exact holds

theorem manifestAt?_eq_some_iff :
    manifestAt? t faults l = some manifest ↔ ManifestReads t faults l manifest := by
  constructor
  · intro h
    have hholds : HoldsManifest t l := by
      refine Decidable.byContradiction fun hno => ?_
      rw [manifestAt?_eq_none_iff.2 hno] at h
      cases h
    obtain ⟨i, text, hi, hcontent⟩ := exists_content_of_holdsManifest hholds
    rw [manifestAt?_of_content hi hcontent] at h
    cases hfault : faults (l ++ [manifestName]) with
    | none =>
      rw [hfault] at h
      obtain rfl := Option.some.inj h
      exact .text hi hcontent hfault
    | some fault =>
      rw [hfault] at h
      obtain rfl := Option.some.inj h
      exact .fault hholds hfault
  · rintro (⟨hi, hcontent, hfree⟩ | ⟨hholds, hfault⟩)
    · rw [manifestAt?_of_content hi hcontent, hfree]
      rfl
    · obtain ⟨i, text, hi, hcontent⟩ := exists_content_of_holdsManifest hholds
      rw [manifestAt?_of_content hi hcontent, hfault]
      rfl

/-- Reading a manifest gives something, and only a manifest is read. -/
theorem holdsManifest_iff : HoldsManifest t l ↔ ∃ manifest, ManifestReads t faults l manifest := by
  simp only [← manifestAt?_eq_some_iff, ← Option.isSome_iff_exists, Option.isSome_iff_ne_none, ne_eq,
    manifestAt?_eq_none_iff, Classical.not_not]

theorem ManifestReads.unique {manifest' : Except ReadFault String}
    (h : ManifestReads t faults l manifest) (h' : ManifestReads t faults l manifest') :
    manifest = manifest' :=
  Option.some.inj ((manifestAt?_eq_some_iff.2 h).symm.trans (manifestAt?_eq_some_iff.2 h'))

/-! ## The nearest manifest -/

/-- No manifest stands in the directory or above it. -/
def NoManifest (t : Tree) (dir : Location) : Prop := ∀ l, l <+: dir → ¬ HoldsManifest t l

/-- The manifest in `root` is the nearest one at or above the directory, and this is what reading it
gives. -/
structure Nearest (t : Tree) (faults : ReadFaults) (dir root : Location)
    (manifest : Except ReadFault String) : Prop where
  onTheWay : root <+: dir
  reads : ManifestReads t faults root manifest
  nearest : ∀ l, root <+: l → l <+: dir → l ≠ root → ¬ HoldsManifest t l

theorem Nearest.not_noManifest (h : Nearest t faults dir root manifest) : ¬ NoManifest t dir :=
  fun hnone => hnone root h.onTheWay h.reads.holds

/-- **There is one nearest manifest at most.** -/
theorem Nearest.unique {root' : Location} {manifest' : Except ReadFault String}
    (h : Nearest t faults dir root manifest)
    (h' : Nearest t faults dir root' manifest') : root = root' ∧ manifest = manifest' := by
  have hroot : root = root' := by
    refine Classical.byContradiction fun hne => ?_
    rcases List.prefix_or_prefix_of_prefix h.onTheWay h'.onTheWay with hup | hdown
    · exact h.nearest root' hup h'.onTheWay (Ne.symm hne) h'.reads.holds
    · exact h'.nearest root hdown h.onTheWay hne h.reads.holds
  subst hroot
  exact ⟨rfl, h.reads.unique h'.reads⟩

/-- A manifest in the directory itself is the nearest. -/
theorem Nearest.here (h : ManifestReads t faults dir manifest) : Nearest t faults dir dir manifest where
  onTheWay := List.prefix_refl dir
  reads := h
  nearest _ hdown hup hne := absurd (hup.eq_of_length_le hdown.length_le) hne

/-- One that is nearest to the directory above is the nearest when the directory has none. -/
theorem Nearest.below {name : String} (h : Nearest t faults dir root manifest)
    (hnone : ¬ HoldsManifest t (dir ++ [name])) : Nearest t faults (dir ++ [name]) root manifest where
  onTheWay := h.onTheWay.trans (List.prefix_append dir [name])
  reads := h.reads
  nearest l hdown hup hne := by
    rcases List.prefix_concat_iff.1 hup with rfl | hup
    · exact hnone
    · exact h.nearest l hdown hup hne

theorem NoManifest.below {name : String} (h : NoManifest t dir)
    (hnone : ¬ HoldsManifest t (dir ++ [name])) : NoManifest t (dir ++ [name]) := by
  intro l hup
  rcases List.prefix_concat_iff.1 hup with rfl | hup
  · exact hnone
  · exact h l hup

/-! ## Climbing -/

/-- **The climb ends at the nearest manifest**, or past the root when there is none. -/
theorem climb_cases (t : Tree) (faults : ReadFaults) (start : Location) : ∀ names : List String,
    (NoManifest t names.reverse ∧ climb t faults start names = .error (.noManifest start)) ∨
    ∃ root manifest, Nearest t faults names.reverse root manifest ∧
      climb t faults start names = ofManifest root manifest
  | [] => by
    unfold climb
    cases h : manifestAt? t faults [] with
    | none =>
      refine Or.inl ⟨fun l hup => ?_, rfl⟩
      rw [List.reverse_nil, List.prefix_nil] at hup
      rw [hup]
      exact manifestAt?_eq_none_iff.1 h
    | some manifest => exact Or.inr ⟨[], manifest, .here (manifestAt?_eq_some_iff.1 h), rfl⟩
  | name :: outer => by
    unfold climb
    cases h : manifestAt? t faults (name :: outer).reverse with
    | none =>
      have hnone := manifestAt?_eq_none_iff.1 h
      rw [List.reverse_cons] at hnone ⊢
      rcases climb_cases t faults start outer with ⟨hno, hclimb⟩ | ⟨root, manifest, hnear, hclimb⟩
      · exact Or.inl ⟨hno.below hnone, hclimb⟩
      · exact Or.inr ⟨root, manifest, hnear.below hnone, hclimb⟩
    | some manifest => exact Or.inr ⟨_, manifest, .here (manifestAt?_eq_some_iff.1 h), rfl⟩

/-- The search ends at the nearest manifest, or there is none. -/
theorem find_cases (t : Tree) (dir : Location) (faults : ReadFaults) :
    (NoManifest t dir ∧ find t dir faults = .error (.noManifest dir)) ∨
    ∃ root manifest, Nearest t faults dir root manifest ∧ find t dir faults = ofManifest root manifest := by
  have h := climb_cases t faults dir dir.reverse
  rwa [List.reverse_reverse] at h

theorem NoManifest.find_eq (h : NoManifest t dir) : find t dir faults = .error (.noManifest dir) := by
  rcases find_cases t dir faults with ⟨_, hfind⟩ | ⟨root, manifest, hnear, _⟩
  · exact hfind
  · exact absurd h hnear.not_noManifest

theorem Nearest.find_eq (h : Nearest t faults dir root manifest) :
    find t dir faults = ofManifest root manifest := by
  rcases find_cases t dir faults with ⟨hnone, _⟩ | ⟨root', manifest', hnear, hfind⟩
  · exact absurd hnone h.not_noManifest
  · obtain ⟨rfl, rfl⟩ := h.unique hnear
    exact hfind

/-! ## The module of a manifest -/

theorem ofManifest_of_declaresNone (h : DeclaresNone text) (root : Location) :
    ofManifest root (.ok text) = .error (.noDirective (root ++ [manifestName])) := by
  rw [ofManifest, declaredPath?_eq_none_iff.2 h]

theorem ofManifest_of_declares_empty (h : Declares text "") (root : Location) :
    ofManifest root (.ok text) = .error (.emptyPath (root ++ [manifestName])) := by
  unfold ofManifest
  dsimp only
  rw [declaredPath?_eq_some_iff.2 h]
  rfl

theorem ofManifest_of_declares (h : Declares text path) (hpath : path ≠ "") (root : Location) :
    ofManifest root (.ok text) = .ok ⟨root, path⟩ := by
  unfold ofManifest
  dsimp only
  rw [declaredPath?_eq_some_iff.2 h]
  split
  · next he => cases he
  · next he => exact absurd (Option.some.inj he) hpath
  · next he => rw [Option.some.inj he]

/-- A manifest has a first module line or none at all. -/
theorem declaresNone_or_declares (text : String) : DeclaresNone text ∨ ∃ path, Declares text path := by
  cases h : declaredPath? text with
  | none => exact Or.inl (declaredPath?_eq_none_iff.1 h)
  | some path => exact Or.inr ⟨path, declaredPath?_eq_some_iff.1 h⟩

/-- What the search for the module of a directory comes to. -/
inductive Discovered (t : Tree) (faults : ReadFaults) (dir : Location) :
    Except SearchError ModuleRoot → Prop where
  | nowhere (none : NoManifest t dir) : Discovered t faults dir (.error (.noManifest dir))
  | unreadable {root : Location} {fault : ReadFault}
      (near : Nearest t faults dir root (.error fault)) :
      Discovered t faults dir (.error (.unreadable (root ++ [manifestName]) fault))
  | undeclared {root : Location} {text : String} (near : Nearest t faults dir root (.ok text))
      (none : DeclaresNone text) :
      Discovered t faults dir (.error (.noDirective (root ++ [manifestName])))
  | unnamed {root : Location} {text : String} (near : Nearest t faults dir root (.ok text))
      (empty : Declares text "") :
      Discovered t faults dir (.error (.emptyPath (root ++ [manifestName])))
  | found {root : Location} {text path : String} (near : Nearest t faults dir root (.ok text))
      (first : Declares text path) (named : path ≠ "") :
      Discovered t faults dir (.ok ⟨root, path⟩)

theorem Discovered.find_eq {r : Except SearchError ModuleRoot} (h : Discovered t faults dir r) :
    find t dir faults = r := by
  cases h with
  | nowhere none => exact none.find_eq
  | unreadable near => rw [near.find_eq, ofManifest]
  | undeclared near none => rw [near.find_eq, ofManifest_of_declaresNone none]
  | unnamed near empty => rw [near.find_eq, ofManifest_of_declares_empty empty]
  | found near first named => rw [near.find_eq, ofManifest_of_declares first named]

theorem discovered_find (t : Tree) (dir : Location) (faults : ReadFaults) :
    Discovered t faults dir (find t dir faults) := by
  rcases find_cases t dir faults with ⟨hnone, hfind⟩ | ⟨root, fault | text, hnear, hfind⟩
  · rw [hfind]
    exact .nowhere hnone
  · rw [hfind, ofManifest]
    exact .unreadable hnear
  · rw [hfind]
    rcases declaresNone_or_declares text with hnone | ⟨path, hfirst⟩
    · rw [ofManifest_of_declaresNone hnone]
      exact .undeclared hnear hnone
    · by_cases hpath : path = ""
      · subst hpath
        rw [ofManifest_of_declares_empty hfirst]
        exact .unnamed hnear hfirst
      · rw [ofManifest_of_declares hfirst hpath]
        exact .found hnear hfirst hpath

theorem find_eq_iff {r : Except SearchError ModuleRoot} :
    find t dir faults = r ↔ Discovered t faults dir r :=
  ⟨fun h => h ▸ discovered_find t dir faults, Discovered.find_eq⟩

/-! ## Import paths -/

/-- The way down from the root of a module goes behind its path. -/
theorem importPath_append (root way : List String) (path : String) :
    importPath ⟨root, path⟩ (root ++ way) = .ok (join "/" (path :: way)) := by
  unfold importPath
  rw [if_pos (List.isPrefixOf_iff_prefix.2 (List.prefix_append root way)), List.drop_left]
  cases way with
  | nil => rw [join, String.intercalate_singleton]
  | cons name way => rw [join, String.intercalate_cons_cons, ← join]

/-- **The nearest manifest and its first module line decide about the module of a directory**,
whichever files cannot be read. A module that is found has its root there, and the import path of the
directory is its path with the names on the way down from the root behind it. -/
theorem find_decided_by_nearest (t : Tree) (faults : ReadFaults) (dir : Location) :
    (∀ r, find t dir faults = r ↔ Discovered t faults dir r) ∧
    ∀ m, find t dir faults = .ok m → ∃ way, dir = m.root ++ way ∧
      importPath m dir = .ok (join "/" (m.path :: way)) := by
  refine ⟨fun r => find_eq_iff, fun m hfind => ?_⟩
  cases find_eq_iff.1 hfind with
  | found near first named =>
    obtain ⟨way, rfl⟩ := near.onTheWay
    exact ⟨way, rfl, importPath_append _ way _⟩

/-- A manifest without a module line hides the one above it. -/
example : find ⟨[(["m", "go.mod"], .file "module m"), (["m", "a", "go.mod"], .file "go 1.25")], []⟩
    ["m", "a", "b"] = .error (.noDirective ["m", "a", "go.mod"]) := rfl

end TaskBuilders.Module
