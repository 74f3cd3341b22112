import TaskBuilders.Proofs.Module.Discovery

/-!
# The module of a source root

A source root that belongs to a module keeps it, and nothing is written. In all other cases a manifest is
written into the source root, unless something is in its way or writing fails. These are not only the cases
without a manifest: the search also fails at a nearest manifest that cannot be read or declares nothing, and
then that manifest is replaced, or hidden when it stands further up.

* `Governed` — the nearest manifest can be read and declares the path of a module
* `Settles` — what settling a source root comes to
* `manifests_kept_iff` — when no manifest is replaced or hidden
* `manifest_replaced` — one that is
-/

namespace TaskBuilders.Module

open Files Text

variable {t : Tree} {faults : ReadFaults} {unwritable : Option String} {dir : Location}
  {fallback : String}

/-- The nearest manifest can be read and declares the path of a module. -/
def Governed (t : Tree) (faults : ReadFaults) (dir : Location) : Prop :=
  ∃ root text path, Nearest t faults dir root (.ok text) ∧ Declares text path ∧ path ≠ ""

/-- Something is in the way of a manifest in the directory. -/
def Hindered (t : Tree) (dir : Location) : Prop := ∃ o, t.Hinders dir manifestName o

theorem governed_iff : Governed t faults dir ↔ ∃ m, find t dir faults = .ok m := by
  constructor
  · rintro ⟨root, text, path, near, first, named⟩
    exact ⟨⟨root, path⟩, find_eq_iff.2 (.found near first named)⟩
  · rintro ⟨m, hfind⟩
    cases find_eq_iff.1 hfind with
    | found near first named => exact ⟨_, _, _, near, first, named⟩

/-- What settling a source root comes to. -/
inductive Settles (t : Tree) (faults : ReadFaults) (unwritable : Option String) (dir : Location)
    (fallback : String) : Except SettleError Settled → Prop where
  /-- Its module is kept, and nothing is written. -/
  | kept {root way : Location} {text path : String} (onTheWay : dir = root ++ way)
      (near : Nearest t faults dir root (.ok text)) (first : Declares text path) (named : path ≠ "") :
      Settles t faults unwritable dir fallback (.ok ⟨join "/" (path :: way), false, t⟩)
  /-- A manifest is written into it. -/
  | created {t' : Tree} (stray : ¬ Governed t faults dir) (free : ¬ Hindered t dir)
      (writable : unwritable = none)
      (placed : t.Placed dir manifestName (.file (manifestText fallback)) t') :
      Settles t faults unwritable dir fallback (.ok ⟨fallback, true, t'⟩)
  /-- Something is in the way of a manifest. -/
  | hindered {o : Obstacle} (stray : ¬ Governed t faults dir) (hinders : t.Hinders dir manifestName o) :
      Settles t faults unwritable dir fallback (.error (.write (.obstacle o)))
  /-- Nothing is in its way, and it cannot be written. -/
  | failed {reason : String} (stray : ¬ Governed t faults dir) (free : ¬ Hindered t dir)
      (fault : unwritable = some reason) :
      Settles t faults unwritable dir fallback (.error (.write (.failed reason)))

theorem settle_of_find_ok {m : ModuleRoot} (hfind : find t dir faults = .ok m) (fallback : String) :
    Settles t faults unwritable dir fallback (settle t dir fallback faults unwritable) := by
  cases find_eq_iff.1 hfind with
  | found near first named =>
    obtain ⟨way, rfl⟩ := near.onTheWay
    rw [settle, hfind]
    dsimp only
    rw [importPath_append]
    exact .kept rfl near first named

theorem settle_of_find_error {e : SearchError} (hfind : find t dir faults = .error e) (fallback : String) :
    Settles t faults unwritable dir fallback (settle t dir fallback faults unwritable) := by
  have hstray : ¬ Governed t faults dir := by
    rw [governed_iff, hfind]
    rintro ⟨_, hm⟩
    cases hm
  rw [settle, hfind]
  dsimp only
  rcases t.place_cases dir manifestName (.file (manifestText fallback)) with
    ⟨o, hplace, hinders⟩ | ⟨t', hplace, hplaced, hfree⟩
  · rw [hplace]
    exact .hindered hstray hinders
  · have hfree : ¬ Hindered t dir := fun ⟨o, ho⟩ => hfree o ho
    rw [hplace]
    cases unwritable with
    | none => exact .created hstray hfree rfl hplaced
    | some reason => exact .failed hstray hfree rfl

/-- **Settling a source root.** -/
theorem settles_settle (t : Tree) (faults : ReadFaults) (unwritable : Option String) (dir : Location)
    (fallback : String) :
    Settles t faults unwritable dir fallback (settle t dir fallback faults unwritable) := by
  cases hfind : find t dir faults with
  | ok m => exact settle_of_find_ok hfind fallback
  | error e => exact settle_of_find_error hfind fallback

/-- A manifest at or above the directory is neither replaced nor hidden: nothing is written. -/
def KeepsManifests (t : Tree) (dir : Location) (r : Except SettleError Settled) : Prop :=
  ∀ s, r = .ok s → ¬ NoManifest t dir → s.created = false ∧ s.tree = t

theorem Settles.keepsManifests_iff {r : Except SettleError Settled}
    (h : Settles t faults unwritable dir fallback r) : KeepsManifests t dir r ↔
      NoManifest t dir ∨ Governed t faults dir ∨ Hindered t dir ∨ unwritable ≠ none := by
  cases h with
  | kept onTheWay near first named =>
    refine ⟨fun _ => Or.inr (Or.inl ⟨_, _, _, near, first, named⟩), ?_⟩
    rintro - s hs -
    obtain rfl := Except.ok.inj hs
    exact ⟨rfl, rfl⟩
  | created stray free writable placed =>
    constructor
    · intro hkeeps
      refine Or.inl (Classical.byContradiction fun hmanifest => ?_)
      cases (hkeeps _ rfl hmanifest).1
    · rintro (hnone | hgoverned | hhindered | hunwritable)
      · exact fun _ _ hmanifest => absurd hnone hmanifest
      · exact absurd hgoverned stray
      · exact absurd hhindered free
      · exact absurd writable hunwritable
  | hindered stray hinders =>
    exact ⟨fun _ => Or.inr (Or.inr (Or.inl ⟨_, hinders⟩)), fun _ s hs => nomatch hs⟩
  | failed stray free fault =>
    exact ⟨fun _ => Or.inr (Or.inr (Or.inr (by simp [fault]))), fun _ s hs => nomatch hs⟩

/-- **When manifests are kept.** A source root keeps the module of the nearest manifest when that can be read
and declares one, and the tree stays as it is. Otherwise a manifest is written into the source root, whatever
the nearest manifest may hold, unless something is in the way or writing fails. So a manifest at or above the
source root is replaced or hidden exactly when the nearest one declares no module or cannot be read, and
nothing keeps the new one from being written. -/
theorem manifests_kept_iff (t : Tree) (faults : ReadFaults) (unwritable : Option String) (dir : Location)
    (fallback : String) :
    Settles t faults unwritable dir fallback (settle t dir fallback faults unwritable) ∧
    (KeepsManifests t dir (settle t dir fallback faults unwritable) ↔
      NoManifest t dir ∨ Governed t faults dir ∨ Hindered t dir ∨ unwritable ≠ none) :=
  ⟨settles_settle t faults unwritable dir fallback,
    (settles_settle t faults unwritable dir fallback).keepsManifests_iff⟩

/-- **A manifest without a module line is replaced.** -/
theorem manifest_replaced :
    let t : Tree := ⟨[(["r"], .directory), (["r", "go.mod"], .file "go 1.25\n")], []⟩
    HoldsManifest t ["r"] ∧ ¬ KeepsManifests t ["r"] (settle t ["r"] "m") ∧
    (settle t ["r"] "m").map (fun s => (s.created, s.tree.item? ["r", "go.mod"])) =
      .ok (true, some (.file "module m\n\ngo 1.25\n")) := by
  intro t
  have hholds : HoldsManifest t ["r"] := by decide
  have hcreated : (settle t ["r"] "m").map (fun s => (s.created, s.tree.item? ["r", "go.mod"])) =
      .ok (true, some (.file "module m\n\ngo 1.25\n")) := rfl
  refine ⟨hholds, fun hkeeps => ?_, hcreated⟩
  cases hsettle : settle t ["r"] "m" with
  | error e =>
    rw [hsettle] at hcreated
    cases hcreated
  | ok s =>
    rw [hsettle] at hcreated
    have htrue := (Prod.mk.inj (Except.ok.inj hcreated)).1
    have hfalse := (hkeeps s hsettle fun hnone => hnone ["r"] (List.prefix_refl _) hholds).1
    rw [htrue] at hfalse
    cases hfalse

end TaskBuilders.Module
