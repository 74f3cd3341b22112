import TaskBuilders.Files.Tree

/-!
# Putting items into a tree

Putting an item at a place makes the directories on the way, where nothing stood, and changes what stands at
the place. It fails when a file is on the way or a directory is at the place, and then only.

* `SparedAt`, `Paves` — missing directories are made, and nothing else changes
* `StaysWithin` — what may change when items are put into a directory
* `Placed` — exactly what changes when one item is put there
* `Hinders` — what is in the way of an item
* `place_cases` — an item is put into its directory, or something is in its way
-/

namespace TaskBuilders.Files.Tree

variable {t t' t'' made : Tree} {l dir x : Location} {name : String} {i : Item}

/-! ## One item -/

theorem item?_put_of_ne (t : Tree) (i : Item) (h : x ≠ l) : (t.put l i).item? x = t.item? x := by
  unfold item?
  split
  · rfl
  · have hfilter : (t.items.filter (·.1 ≠ l)).find? (·.1 = x) = t.items.find? (·.1 = x) := by
      rw [List.find?_filter]
      congr 1
      funext e
      by_cases he : e.1 = x
      · simp [he, h]
      · simp [he]
    have hnew : [(l, i)].find? (·.1 = x) = none := by simp [Ne.symm h]
    show ((t.items.filter (·.1 ≠ l) ++ [(l, i)]).find? (·.1 = x)).map _ = _
    rw [List.find?_append, hfilter, hnew, Option.or_none]

theorem item?_put_self (t : Tree) (i : Item) (h : l ≠ []) : (t.put l i).item? l = some i := by
  have hfilter : (t.items.filter (·.1 ≠ l)).find? (·.1 = l) = none := by
    rw [List.find?_eq_none]
    intro e he
    simpa using (List.mem_filter.1 he).2
  rw [item?, if_neg (by simpa using h)]
  show ((t.items.filter (·.1 ≠ l) ++ [(l, i)]).find? (·.1 = l)).map _ = _
  rw [List.find?_append, hfilter, Option.none_or]
  simp

theorem isFile_iff : t.isFile l = true ↔ ∃ i, t.item? l = some i ∧ i ≠ .directory := by
  rw [isFile, Option.any_eq_true]
  simp only [bne_iff_ne]

/-! ## Directories on the way -/

/-- Nothing changes at the place, unless it is a directory on the way to `dir` that was missing. -/
def SparedAt (dir : Location) (t t' : Tree) (x : Location) : Prop :=
  t'.item? x = t.item? x ∨ (x <+: dir ∧ t.item? x = none ∧ t'.item? x = some .directory)

theorem SparedAt.trans (h : SparedAt dir t t' x) (h' : SparedAt dir t' t'' x) : SparedAt dir t t'' x := by
  rcases h with hx | ⟨hway, hnone, hmade⟩
  · rwa [SparedAt, ← hx]
  · rcases h' with hx | ⟨_, hnone', _⟩
    · exact Or.inr ⟨hway, hnone, hx.trans hmade⟩
    · -- a directory that was made is there
      rw [hmade] at hnone'
      cases hnone'

/-- Nothing changes but directories on the way to `dir` that were missing. -/
def Paves (dir : Location) (t t' : Tree) : Prop := ∀ x, SparedAt dir t t' x

theorem Paves.trans (h : Paves dir t t') (h' : Paves dir t' t'') : Paves dir t t'' :=
  fun x => (h x).trans (h' x)

/-- What stood somewhere stands there still. -/
theorem Paves.item?_eq (h : Paves dir t t') (hx : t.item? x = some i) : t'.item? x = some i := by
  rcases h x with heq | ⟨_, hnone, _⟩
  · rw [heq, hx]
  · rw [hx] at hnone
    cases hnone

/-- Where nothing is made nothing changes. -/
theorem Paves.item?_eq_of_apart (h : Paves dir t t') (hx : ¬ x <+: dir) :
    t'.item? x = t.item? x :=
  (h x).resolve_right fun hmade => hx hmade.1

theorem paves_put_directory (hway : l <+: dir) (hnone : t.item? l = none) :
    Paves dir t (t.put l .directory) := by
  intro x
  by_cases hx : x = l
  · subst hx
    have hne : x ≠ [] := by
      rintro rfl
      cases hnone
    exact Or.inr ⟨hway, hnone, t.item?_put_self _ hne⟩
  · exact Or.inl (t.item?_put_of_ne _ hx)

/-- Directories are made where nothing stood. -/
theorem paves_makeDirs : ∀ (names : List String) (t t' : Tree) (l : Location),
    t.makeDirs l names = .ok t' → l ++ names <+: dir → Paves dir t t'
  | [], t, t', l, h, _ => by
    obtain rfl := Except.ok.inj h
    exact fun _ => Or.inl rfl
  | name :: rest, t, t', l, h, hway => by
    have hrest : l ++ [name] ++ rest <+: dir := by rwa [List.append_assoc]
    have hhere : l ++ [name] <+: dir := (List.prefix_append _ rest).trans hrest
    unfold makeDirs at h
    simp only at h
    split at h
    · exact paves_makeDirs rest t t' _ h hrest
    · cases h
    · next hnone =>
      exact (paves_put_directory hhere hnone).trans (paves_makeDirs rest _ t' _ h hrest)

/-- All names along the way lead through directories. -/
theorem item?_of_makeDirs : ∀ (names : List String) (t t' : Tree) (l : Location),
    t.makeDirs l names = .ok t' → ∀ way, way <+: names → way ≠ [] →
    t'.item? (l ++ way) = some .directory
  | [], _, _, _, _, way, hway, hne => absurd (List.prefix_nil.1 hway) hne
  | name :: rest, t, t', l, h, way, hway, hne => by
    obtain ⟨first, way, rfl⟩ := List.exists_cons_of_ne_nil hne
    obtain ⟨rfl, hdeeper⟩ := List.cons_prefix_cons.1 hway
    have hthere : ∀ s : Tree, s.item? (l ++ [first]) = some .directory →
        s.makeDirs (l ++ [first]) rest = .ok t' → t'.item? (l ++ first :: way) = some .directory := by
      intro s hs hmade
      cases way with
      | nil => exact (paves_makeDirs rest s t' _ hmade (List.prefix_refl _)).item?_eq hs
      | cons second way =>
        have hdeep := item?_of_makeDirs rest s t' _ hmade (second :: way) hdeeper (by simp)
        rwa [List.append_assoc] at hdeep
    unfold makeDirs at h
    simp only at h
    split at h
    · next hhere => exact hthere t hhere h
    · cases h
    · exact hthere _ (t.item?_put_self _ (by simp)) h

/-- A file that is on the way is met. -/
theorem exists_file_of_makeDirs {o : Obstacle} : ∀ (names : List String) (t : Tree) (l : Location),
    t.makeDirs l names = .error o → ∃ x, o = .file x ∧ x <+: l ++ names ∧ t.isFile x = true
  | [], _, _, h => nomatch h
  | name :: rest, t, l, h => by
    have hway : l ++ name :: rest = l ++ [name] ++ rest := by rw [List.append_assoc]; rfl
    rw [hway]
    unfold makeDirs at h
    simp only at h
    split at h
    · exact exists_file_of_makeDirs rest t _ h
    · next i hne hhere =>
      obtain rfl := Except.error.inj h
      exact ⟨_, rfl, List.prefix_append _ rest, isFile_iff.2 ⟨i, hhere, hne⟩⟩
    · next hnone =>
      obtain ⟨x, ho, hx, hfile⟩ := exists_file_of_makeDirs rest _ _ h
      refine ⟨x, ho, hx, ?_⟩
      by_cases hmade : x = l ++ [name]
      · -- the directory that was made is no file
        rw [hmade, isFile, t.item?_put_self _ (by simp)] at hfile
        cases hfile
      · rwa [isFile, t.item?_put_of_ne _ hmade] at hfile

/-! ## What may change -/

/-- Nothing changes but what stands directly in `dir`, and directories on the way there that were
missing. -/
def StaysWithin (dir : Location) (t t' : Tree) : Prop :=
  ∀ x, t'.item? x = t.item? x ∨
    (x <+: dir ∧ t.item? x = none ∧ t'.item? x = some .directory) ∨ ∃ name, x = dir ++ [name]

theorem StaysWithin.refl (dir : Location) (t : Tree) : StaysWithin dir t t := fun _ => Or.inl rfl

theorem staysWithin_iff :
    StaysWithin dir t t' ↔ ∀ x, SparedAt dir t t' x ∨ ∃ name, x = dir ++ [name] := by
  simp only [StaysWithin, SparedAt, or_assoc]

theorem StaysWithin.trans (h : StaysWithin dir t t') (h' : StaysWithin dir t' t'') :
    StaysWithin dir t t'' := by
  rw [staysWithin_iff] at h h' ⊢
  intro x
  rcases h x with hx | hin
  · exact (h' x).imp_left hx.trans
  · exact Or.inr hin

/-- The item stands at its place, behind directories, and nothing else changes but directories on the way
that were missing. -/
structure Placed (dir : Location) (name : String) (i : Item) (t t' : Tree) : Prop where
  there : t'.item? (dir ++ [name]) = some i
  way : ∀ x, x <+: dir → t'.item? x = some .directory
  elsewhere : ∀ x, x ≠ dir ++ [name] → SparedAt dir t t' x

theorem Placed.staysWithin (h : Placed dir name i t t') : StaysWithin dir t t' := by
  rw [staysWithin_iff]
  intro x
  by_cases hx : x = dir ++ [name]
  · exact Or.inr ⟨name, hx⟩
  · exact Or.inl (h.elsewhere x hx)

/-! ## What is in the way -/

/-- What is in the way of an item in the directory `dir`. -/
inductive Hinders (t : Tree) (dir : Location) (name : String) : Obstacle → Prop where
  /-- A file on the way. -/
  | file {x : Location} (onTheWay : x <+: dir) (isFile : t.isFile x = true) :
      Hinders t dir name (.file x)
  /-- A directory at the place. -/
  | directory (isDirectory : t.isDirectory (dir ++ [name]) = true) :
      Hinders t dir name (.directory (dir ++ [name]))

/-- A place is not on the way to its own directory. -/
theorem place_apart (dir : Location) (name : String) : ¬ dir ++ [name] <+: dir := by
  intro h
  have hlen := h.length_le
  rw [List.length_append, List.length_singleton] at hlen
  omega

section Made

variable (hmake : t.makeDirs [] dir = .ok made)
include hmake

theorem paves_of_makeDirs : Paves dir t made := paves_makeDirs dir t made [] hmake (List.prefix_refl dir)

theorem item?_way_of_makeDirs (hx : x <+: dir) : made.item? x = some .directory := by
  by_cases hroot : x = []
  · rw [hroot]
    rfl
  · exact item?_of_makeDirs dir t made [] hmake x hx hroot

theorem isDirectory_place_of_makeDirs (name : String) :
    made.isDirectory (dir ++ [name]) = t.isDirectory (dir ++ [name]) := by
  rw [isDirectory, isDirectory,
    (paves_of_makeDirs hmake).item?_eq_of_apart (place_apart dir name)]

theorem placed_put_of_makeDirs (name : String) (i : Item) :
    Placed dir name i t (made.put (dir ++ [name]) i) where
  there := made.item?_put_self i (by simp)
  way x hx := by
    have hne : x ≠ dir ++ [name] := by
      rintro rfl
      exact place_apart dir name hx
    rw [made.item?_put_of_ne i hne]
    exact item?_way_of_makeDirs hmake hx
  elsewhere x hx := by
    rw [SparedAt, made.item?_put_of_ne i hx]
    exact paves_of_makeDirs hmake x

/-- Where the directories could be made, only a directory at the place itself can be in the way. -/
theorem Hinders.isDirectory_of_makeDirs {o : Obstacle} (h : Hinders t dir name o) :
    t.isDirectory (dir ++ [name]) = true := by
  cases h with
  | directory isDirectory => exact isDirectory
  | file onTheWay isFile =>
    obtain ⟨j, hj, hne⟩ := isFile_iff.1 isFile
    have hstill := (paves_of_makeDirs hmake).item?_eq hj
    rw [item?_way_of_makeDirs hmake onTheWay] at hstill
    exact absurd (Option.some.inj hstill).symm hne

end Made

/-- **An item is put into its directory, or something is in its way.** -/
theorem place_cases (t : Tree) (dir : Location) (name : String) (i : Item) :
    (∃ o, t.place (dir ++ [name]) i = .error o ∧ Hinders t dir name o) ∨
    ∃ t', t.place (dir ++ [name]) i = .ok t' ∧ Placed dir name i t t' ∧
      ∀ o, ¬ Hinders t dir name o := by
  unfold place
  rw [List.dropLast_concat]
  cases hmake : t.makeDirs [] dir with
  | error o =>
    obtain ⟨x, rfl, hway, hfile⟩ := exists_file_of_makeDirs dir t [] hmake
    exact Or.inl ⟨_, rfl, .file hway hfile⟩
  | ok made =>
    dsimp only
    rw [isDirectory_place_of_makeDirs hmake]
    by_cases hdir : t.isDirectory (dir ++ [name]) = true
    · rw [if_pos hdir]
      exact Or.inl ⟨_, rfl, .directory hdir⟩
    · rw [if_neg hdir]
      exact Or.inr ⟨_, rfl, placed_put_of_makeDirs hmake name i,
        fun o ho => hdir (ho.isDirectory_of_makeDirs hmake)⟩

/-- **A file is put into its directory.** -/
theorem staysWithin_place (h : t.place (dir ++ [name]) i = .ok t') : StaysWithin dir t t' := by
  rcases place_cases t dir name i with ⟨o, herror, _⟩ | ⟨made, hplace, hplaced, _⟩
  · rw [h] at herror
    cases herror
  · rw [h] at hplace
    obtain rfl := Except.ok.inj hplace
    exact hplaced.staysWithin

end TaskBuilders.Files.Tree
