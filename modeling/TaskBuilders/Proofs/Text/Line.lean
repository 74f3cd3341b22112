import TaskBuilders.Proofs.Naming.Shape
import TaskBuilders.Proofs.Text.Path
import TaskBuilders.Source.Block

/-!
# Line breaks

Where the lines of a text end, and which texts have no line breaks to begin with: everything that is made
of identifiers and everything between quotes.

* `breaks_append` — line breaks add up, so that the lines of a text are counted part by part
* `exists_line_of_mem` — a line that is written begins a line of the whole
* `Legible` — texts like identifiers, without line breaks, dots and slashes
* `unbroken_quote` — quoted texts are in one line
-/

namespace TaskBuilders

namespace Text

/-! ## Counting lines -/

/-- The number of line breaks. -/
def breaks (s : String) : Nat := s.toList.count '\n'

/-- The text has no line break. -/
def Unbroken (s : String) : Prop := '\n' ∉ s.toList

instance (s : String) : Decidable (Unbroken s) := inferInstanceAs (Decidable (_ ∉ _))

/-- The number of lines. -/
def lineCount (s : String) : Nat := (splitAtChar '\n' s).length

@[simp] theorem breaks_append (a b : String) : breaks (a ++ b) = breaks a + breaks b := by
  simp [breaks]

theorem breaks_eq_zero_iff {s : String} : breaks s = 0 ↔ Unbroken s := List.count_eq_zero

theorem Unbroken.breaks {s : String} (h : Unbroken s) : breaks s = 0 := breaks_eq_zero_iff.2 h

theorem Unbroken.append {a b : String} (ha : Unbroken a) (hb : Unbroken b) : Unbroken (a ++ b) := by
  simp only [Unbroken, String.toList_append, List.mem_append, not_or]
  exact ⟨ha, hb⟩

theorem length_piecesWhere (p : Char → Bool) (cs : List Char) :
    (piecesWhere p cs).length = cs.countP p + 1 := by
  fun_induction piecesWhere p cs with
  | case1 => rfl
  | case2 c cs hc ih => simp [hc, ih]
  | case3 c cs hc hnil ih => exact absurd hnil (piecesWhere_ne_nil p cs)
  | case4 c cs hc piece more heq ih =>
    rw [heq] at ih
    simpa [hc] using ih

/-- A text has one line more than line breaks. -/
theorem lineCount_eq (s : String) : lineCount s = breaks s + 1 := by
  rw [lineCount, splitAtChar, List.length_map, length_piecesWhere]
  rfl

/-! ## Lines of a text -/

/-- What stands in front of the first place to cut stands in the first piece. -/
theorem exists_piece_of_lead {p : Char → Bool} {a : List Char} (ha : ∀ c ∈ a, p c = false)
    (b : List Char) : ∃ rest, a ++ rest ∈ piecesWhere p (a ++ b) := by
  have hhead : ∃ piece more, piecesWhere p (a ++ b) = (a ++ piece) :: more := by
    induction a with
    | nil =>
      cases h : piecesWhere p b with
      | nil => exact absurd h (piecesWhere_ne_nil p b)
      | cons piece more => exact ⟨piece, more, by simpa using h⟩
    | cons d a ih =>
      obtain ⟨hd, ha⟩ := List.forall_mem_cons.1 ha
      obtain ⟨piece, more, h⟩ := ih ha
      exact ⟨piece, more, by simp [piecesWhere, hd, h]⟩
  obtain ⟨piece, more, h⟩ := hhead
  exact ⟨piece, by rw [h]; exact List.mem_cons_self⟩

theorem splitAtChar_append_line (a b : String) :
    splitAtChar '\n' (a ++ "\n" ++ b) = splitAtChar '\n' a ++ splitAtChar '\n' b := by
  have hlist : (a ++ "\n" ++ b).toList = a.toList ++ '\n' :: b.toList := by simp
  rw [splitAtChar, hlist, piecesWhere_append (by simp), List.map_append]
  rfl

/-- The first line begins with what has no line break. -/
theorem exists_line_of_lead {a : String} (ha : Unbroken a) (b : String) :
    ∃ rest, a ++ rest ∈ splitAtChar '\n' (a ++ b) := by
  have hplain : ∀ c ∈ a.toList, (c == '\n') = false := by
    intro c hc
    exact beq_eq_false_iff_ne.2 fun he => ha (he ▸ hc)
  obtain ⟨rest, hrest⟩ := exists_piece_of_lead hplain b.toList
  refine ⟨String.ofList rest, List.mem_map.2 ⟨_, by rw [String.toList_append]; exact hrest, ?_⟩⟩
  simp

/-! ## Identifiers -/

open Naming

theorem ofNat_ne {n : Nat} (h : 0x30 ≤ n) {d : Char} (hd : d.toNat < 0x30) (h0 : d.toNat ≠ 0) :
    Char.ofNat n ≠ d := by
  rintro rfl
  have := toNat_ofNat_cases n
  omega

theorem shiftCase_ne_break {shifts : List CaseShift} (hshifts : behindSlash shifts = true) {c : Char}
    (hc : c ≠ '\n') : shiftCase shifts c ≠ '\n' := by
  unfold shiftCase
  split
  · next s hs =>
    have hmem := List.mem_of_find?_eq_some hs
    have hrun := List.find?_some hs
    have hbehind := of_decide_eq_true (List.all_eq_true.1 hshifts s hmem)
    simp only [CodeRange.contains, Bool.and_eq_true, decide_eq_true_iff] at hrun
    exact ofNat_ne (by omega) (by decide) (by decide)
  · exact hc

/-- Case mappings make no line breaks. -/
theorem toUpper_ne_break {c : Char} (hc : c ≠ '\n') : toUpper c ≠ '\n' := by
  have hascii : ∀ n < 0x80, Char.ofNat n ≠ '\n' → (Char.ofNat n).toUpper ≠ '\n' := by decide
  unfold toUpper
  split
  · next h =>
    have hupper := hascii c.toNat (of_decide_eq_true h)
    rw [Char.ofNat_toNat] at hupper
    exact hupper hc
  · exact shiftCase_ne_break behindSlash_upperShifts hc

theorem toLower_ne_break {c : Char} (hc : c ≠ '\n') : toLower c ≠ '\n' := by
  have hascii : ∀ n < 0x80, Char.ofNat n ≠ '\n' → (Char.ofNat n).toLower ≠ '\n' := by decide
  unfold toLower
  split
  · next h =>
    have hlower := hascii c.toNat (of_decide_eq_true h)
    rw [Char.ofNat_toNat] at hlower
    exact hlower hc
  · exact shiftCase_ne_break behindSlash_lowerShifts hc

theorem break_not_mem_camelFrom (started upper : Bool) (cs : List Char) :
    '\n' ∉ camelFrom started upper cs := by
  have hcased : ∀ (upper : Bool) (c : Char), isWordChar c = true →
      (if upper then toUpper c else c) ≠ '\n' := by
    intro upper c hword
    have hc : c ≠ '\n' := by
      rintro rfl
      revert hword
      decide
    split
    · exact toUpper_ne_break hc
    · exact hc
  fun_induction camelFrom started upper cs with
  | case1 => exact List.not_mem_nil
  | case2 started upper c cs hbreak ih => exact ih
  | case3 started upper c cs hbreak hword c' hdigit ih =>
    simp only [List.mem_cons, not_or]
    exact ⟨by decide, (hcased upper c hword).symm, ih⟩
  | case4 started upper c cs hbreak hword c' hdigit ih =>
    simp only [List.mem_cons, not_or]
    exact ⟨(hcased upper c hword).symm, ih⟩
  | case5 started upper c cs hbreak hword ih => exact ih

theorem unbroken_camelCase (s : String) : Unbroken (camelCase s) := by
  rw [Unbroken, camelCase, String.toList_ofList]
  exact break_not_mem_camelFrom false false s.toList

theorem Unbroken.exported {s : String} (h : Unbroken s) : Unbroken (exported s) := by
  unfold Naming.exported mapFirst
  split
  · exact h
  · next c cs hs =>
    rw [Unbroken, hs, List.mem_cons, not_or] at h
    rw [Unbroken, String.toList_ofList, List.mem_cons, not_or]
    exact ⟨(toUpper_ne_break (Ne.symm h.1)).symm, h.2⟩

theorem Unbroken.lowercase {s : String} (h : Unbroken s) : Unbroken (lowercase s) := by
  rw [Unbroken, Text.lowercase, String.toList_ofList, List.mem_map]
  rintro ⟨c, hc, he⟩
  refine toLower_ne_break (fun hbreak => h (hbreak ▸ hc)) he

theorem unbroken_toString (n : Nat) : Unbroken (toString n) := by
  intro hc
  have hdigit := isDigit_of_mem_toString hc
  cases hdigit

/-! ## Parts of texts -/

/-- Whatever is left of a text has no line breaks of its own. -/
theorem Unbroken.of_subset {s : String} (h : Unbroken s) {cs : List Char} (hsub : cs ⊆ s.toList) :
    Unbroken (String.ofList cs) := by
  rw [Unbroken, String.toList_ofList]
  exact fun hc => h (hsub hc)

theorem eq_append_of_afterLeading? {lead cs rest : List Char} (h : afterLeading? lead cs = some rest) :
    cs = lead ++ rest := by
  fun_induction afterLeading? lead cs with
  | case1 cs => simpa using h
  | case2 => cases h
  | case3 c ls cs ih => simpa using ih h
  | case4 => cases h

theorem Unbroken.dropLeading {s : String} (h : Unbroken s) (lead : String) :
    Unbroken (dropLeading lead s) := by
  unfold Text.dropLeading
  split
  · next rest hrest =>
    refine h.of_subset ?_
    rw [eq_append_of_afterLeading? hrest]
    exact List.subset_append_right _ _
  · exact h

theorem Unbroken.dropTrailing {s : String} (h : Unbroken s) (trail : String) :
    Unbroken (dropTrailing trail s) := by
  unfold Text.dropTrailing
  split
  · next rest hrest =>
    refine h.of_subset fun c hc => ?_
    have hback := eq_append_of_afterLeading? hrest
    rw [← List.mem_reverse, hback]
    exact List.mem_append_right _ (List.mem_reverse.1 hc)
  · exact h

theorem Unbroken.identOf {s : String} (h : Unbroken s) : Unbroken (identOf s) := by
  unfold TaskBuilders.identOf QualifiedName.parse
  dsimp only
  split
  · refine h.of_subset fun c hc => ?_
    exact List.mem_reverse.1 ((List.takeWhile_sublist _).subset (List.mem_reverse.1 hc))
  · exact h

theorem Unbroken.simpleName {s : String} (h : Unbroken s) : Unbroken (simpleName s) :=
  h.identOf.of_subset List.filter_sublist.subset

theorem Unbroken.qualify {package ident : String} (hpackage : Unbroken package) (hident : Unbroken ident) :
    Unbroken (qualify package ident) := by
  unfold TaskBuilders.qualify QualifiedName.render
  split
  · exact hident
  · exact (hpackage.append (by decide)).append hident

/-! ## Legible texts -/

open QualifiedName

/-- The text has no line breaks, dots and slashes. -/
def Legible (s : String) : Prop := Unbroken s ∧ Whole s

instance (s : String) : Decidable (Legible s) := inferInstanceAs (Decidable (_ ∧ _))

theorem Whole.lowercase {s : String} (h : Whole s) : Whole (lowercase s) := by
  intro c hc
  rw [Text.lowercase, String.toList_ofList] at hc
  obtain ⟨d, hd, rfl⟩ := List.mem_map.1 hc
  exact isDivider_toLower (h d hd)

theorem Legible.append {a b : String} (ha : Legible a) (hb : Legible b) : Legible (a ++ b) :=
  ⟨ha.1.append hb.1, ha.2.append hb.2⟩

theorem legible_camelCase (s : String) : Legible (camelCase s) :=
  ⟨unbroken_camelCase s, whole_camelCase s⟩

theorem Legible.exported {s : String} (h : Legible s) : Legible (exported s) :=
  ⟨h.1.exported, Whole.exported h.2⟩

theorem Legible.lowercase {s : String} (h : Legible s) : Legible (lowercase s) :=
  ⟨h.1.lowercase, Whole.lowercase h.2⟩

theorem legible_toString (n : Nat) : Legible (toString n) := ⟨unbroken_toString n, whole_toString n⟩

/-- A number is all that is put behind a name that is taken. -/
theorem Legible.firstFree {base : String} (h : Legible base) (used : List String) :
    Legible (firstFree used base) := by
  rcases firstFree_eq used base with he | ⟨i, he⟩
  · rwa [he]
  · rw [he]
    exact h.append (legible_toString _)

/-! ## Quoted texts -/

theorem hexDigit_ne_break (n : Nat) : hexDigit n ≠ '\n' := by
  unfold hexDigit
  split
  · exact ofNat_ne (by omega) (by decide) (by decide)
  · exact ofNat_ne (by omega) (by decide) (by decide)

theorem break_not_mem_hexDigits (n width : Nat) : '\n' ∉ hexDigits n width := by
  induction width generalizing n with
  | zero => exact List.not_mem_nil
  | succ w ih =>
    rw [hexDigits, List.mem_append, List.mem_singleton, not_or]
    exact ⟨ih (n / 16), (hexDigit_ne_break n).symm⟩

theorem break_not_mem_encodeChar (c : Char) : '\n' ∉ Quoted.encodeChar c := by
  unfold Quoted.encodeChar Quoted.encodeBetween
  split
  · next hspecial =>
    have hc : c = '"' ∨ c = '\\' := by simpa using hspecial
    rcases hc with rfl | rfl <;> decide
  · split
    · next hprint =>
      rw [List.mem_singleton]
      rintro rfl
      revert hprint
      decide
    · split
      · next l hl =>
        -- the letters are seven
        unfold Quoted.letterEscape? at hl
        split at hl <;> first | cases hl; decide | cases hl
      · unfold Quoted.numericEscape
        split
        · simp [break_not_mem_hexDigits]
        · split <;> simp [break_not_mem_hexDigits]

/-- Whatever stands between quotes, they stand in one line. -/
theorem unbroken_quote (s : String) : Unbroken (quote s) := by
  rw [Unbroken, quote, String.toList_ofList]
  simp [break_not_mem_encodeChar]

end Text

namespace Source

open Text

/-! ## Written lines -/

theorem unlines_cons (l : String) (ls : List String) : unlines (l :: ls) = l ++ "\n" ++ unlines ls := by
  simp [unlines]

theorem unlines_append (ls ls' : List String) : unlines (ls ++ ls') = unlines ls ++ unlines ls' := by
  simp [unlines]

/-- A line that is written begins a line of the whole. -/
theorem exists_line_of_mem {lead rest : String} (hlead : Unbroken lead) {ls : List String}
    (h : lead ++ rest ∈ ls) : ∃ more, lead ++ more ∈ splitAtChar '\n' (unlines ls) := by
  induction ls with
  | nil => cases h
  | cons l ls ih =>
    rw [unlines_cons, splitAtChar_append_line]
    rcases List.mem_cons.1 h with rfl | h
    · obtain ⟨more, hmore⟩ := exists_line_of_lead hlead rest
      exact ⟨more, List.mem_append_left _ hmore⟩
    · obtain ⟨more, hmore⟩ := ih h
      exact ⟨more, List.mem_append_right _ hmore⟩

end Source

end TaskBuilders
