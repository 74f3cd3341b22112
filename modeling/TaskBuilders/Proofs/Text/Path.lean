import TaskBuilders.Text.Path

/-!
# Paths and one more element

A path is split at its slashes and cleaned element by element. So an element that is put behind a path is
its last one, as long as it holds no slash and is none of the elements that cleaning drops.

* `Proper` — elements that name something in a directory
* `splitAtChar_append`, `cleanElements_append` — splitting and cleaning with one more element
* `joinPath_of_clean` — a clean path and one more element
-/

namespace TaskBuilders.Text

/-! ## Splitting -/

theorem piecesWhere_ne_nil (p : Char → Bool) (cs : List Char) : piecesWhere p cs ≠ [] := by
  cases cs with
  | nil => nofun
  | cons c cs =>
    unfold piecesWhere
    split
    · nofun
    · split <;> nofun

/-- A divider ends one piece and begins another. -/
theorem piecesWhere_append {p : Char → Bool} {c : Char} (hc : p c = true) (b : List Char) :
    ∀ a : List Char, piecesWhere p (a ++ c :: b) = piecesWhere p a ++ piecesWhere p b
  | [] => by simp [piecesWhere, hc]
  | x :: a => by
    rw [List.cons_append, piecesWhere, piecesWhere, piecesWhere_append hc b a]
    by_cases hx : p x = true
    · rw [if_pos hx, if_pos hx, List.cons_append]
    · rw [if_neg hx, if_neg hx]
      cases ha : piecesWhere p a with
      | nil => exact absurd ha (piecesWhere_ne_nil p a)
      | cons piece more => rfl

theorem piecesWhere_of_none {p : Char → Bool} :
    ∀ cs : List Char, (∀ c ∈ cs, p c = false) → piecesWhere p cs = [cs]
  | [], _ => rfl
  | c :: cs, h => by
    rw [piecesWhere, if_neg (by simp [h c List.mem_cons_self]),
      piecesWhere_of_none cs fun d hd => h d (List.mem_cons_of_mem c hd)]

/-- A slash ends one piece of a path and begins another. -/
theorem splitAtChar_append (a b : String) :
    splitAtChar '/' (a ++ "/" ++ b) = splitAtChar '/' a ++ splitAtChar '/' b := by
  have hlist : (a ++ "/" ++ b).toList = a.toList ++ '/' :: b.toList := by
    rw [String.toList_append, String.toList_append, List.append_assoc]
    rfl
  unfold splitAtChar
  rw [hlist, piecesWhere_append rfl, List.map_append]

theorem splitAtChar_of_not_mem {name : String} (h : '/' ∉ name.toList) :
    splitAtChar '/' name = [name] := by
  have hpieces : piecesWhere (· == '/') name.toList = [name.toList] :=
    piecesWhere_of_none _ fun c hc => beq_eq_false_iff_ne.2 fun he => h (he ▸ hc)
  rw [splitAtChar, hpieces, List.map_singleton, String.ofList_toList]

/-! ## Cleaning -/

/-- An element that names something in a directory. -/
structure Proper (name : String) : Prop where
  noSlash : '/' ∉ name.toList
  ne_empty : name ≠ ""
  ne_dot : name ≠ "."
  ne_up : name ≠ ".."

/-- Cleaning keeps a last element that names something. -/
theorem cleanElements_append {name : String} (h : Proper name) (rooted : Bool)
    (elements : List String) :
    cleanElements rooted (elements ++ [name]) = cleanElements rooted elements ++ [name] := by
  unfold cleanElements
  rw [List.foldl_append, List.foldl_cons, List.foldl_nil,
    if_neg (by simp [h.ne_empty, h.ne_dot]), if_neg h.ne_up, List.reverse_cons]

/-- The way to a place, with one more element. -/
theorem cleanElements_splitAtChar {name : String} (h : Proper name) (rooted : Bool)
    (before : List String) (dir : String) :
    cleanElements rooted (before ++ splitAtChar '/' (dir ++ "/" ++ name)) =
      cleanElements rooted (before ++ splitAtChar '/' dir) ++ [name] := by
  rw [splitAtChar_append, splitAtChar_of_not_mem h.noSlash, ← List.append_assoc,
    cleanElements_append h]

/-! ## Joining -/

/-- A path that is clean and does not begin at the root. -/
def CleanRelative (dir : String) : Prop := cleanPath dir = dir ∧ dir.toList.head? ≠ some '/'

instance (dir : String) : Decidable (CleanRelative dir) := inferInstanceAs (Decidable (_ ∧ _))

theorem CleanRelative.ne_empty {dir : String} (h : CleanRelative dir) : dir ≠ "" := by
  rintro rfl
  exact absurd h.1 (by decide)

/-- The place that a path and one more element name. -/
def child (dir name : String) : String := if dir = "." then name else dir ++ "/" ++ name

/-- A clean path is its elements, or a dot without any. -/
theorem CleanRelative.eq_join {dir : String} (h : CleanRelative dir) (hdot : dir ≠ ".") :
    join "/" (cleanElements false (splitAtChar '/' dir)) = dir := by
  obtain ⟨hclean, hroot⟩ := h
  simp only [cleanPath, beq_eq_false_iff_ne.2 hroot, Bool.false_eq_true, if_false] at hclean
  split at hclean
  · exact absurd hclean.symm hdot
  · exact hclean

/-- The elements of a clean path and one more, joined. -/
theorem CleanRelative.join_append {dir name : String} (h : CleanRelative dir) :
    join "/" (cleanElements false (splitAtChar '/' dir) ++ [name]) = child dir name := by
  by_cases hdot : dir = "."
  · subst hdot
    exact String.intercalate_singleton
  · have hdir := h.eq_join hdot
    have hne : cleanElements false (splitAtChar '/' dir) ≠ [] := by
      intro he
      rw [he] at hdir
      exact h.ne_empty hdir.symm
    rw [join, String.intercalate_append_of_ne_nil hne (List.cons_ne_nil name []),
      String.intercalate_singleton, ← join, hdir, child, if_neg hdot]

theorem child_ne_empty {dir name : String} (hname : name ≠ "") : child dir name ≠ "" := by
  unfold child
  split
  · exact hname
  · intro he
    exact hname (String.append_eq_empty_iff.1 he).2

theorem CleanRelative.head?_append {dir : String} (h : CleanRelative dir) (name : String) :
    (dir ++ "/" ++ name).toList.head? ≠ some '/' := by
  have hroot := h.2
  rw [String.toList_append, String.toList_append, List.append_assoc]
  cases hdir : dir.toList with
  | nil => exact absurd (String.toList_inj.1 hdir) h.ne_empty
  | cons c cs =>
    rw [hdir] at hroot
    exact hroot

/-- **A clean path and one more element are joined by a slash**, and the dot is left out. -/
theorem joinPath_of_clean {dir name : String} (h : CleanRelative dir) (hname : Proper name) :
    joinPath [dir, name] = child dir name := by
  have hpresent : [dir, name].filter (· != "") = [dir, name] := by
    simp [h.ne_empty, hname.ne_empty]
  have hjoin : join "/" [dir, name] = dir ++ "/" ++ name := by
    rw [join, String.intercalate_cons_cons, String.intercalate_singleton]
  have helements := cleanElements_splitAtChar hname false [] dir
  rw [List.nil_append, List.nil_append] at helements
  simp only [joinPath, hpresent, hjoin, cleanPath, beq_eq_false_iff_ne.2 (h.head?_append name),
    helements, Bool.false_eq_true, if_false, h.join_append]
  rw [if_neg (child_ne_empty hname.ne_empty)]

end TaskBuilders.Text
