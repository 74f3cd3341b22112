import TaskBuilders.Proofs.Naming.Namer
import TaskBuilders.Proofs.Naming.Qualified

/-!
# What names look like

Every name that a namer gives begins with the marker and can be told from its qualified form: all
that is put around the simple name of a type has neither dots nor slashes.

* `whole_exported_camelCase` — neither dots nor slashes are left in camel case
* `Whole.snakeCase` — snake case adds none
* `Namer.typical_choose` — the name chosen for a type or a container is of that kind
* `Namer.Typical` — all names of a namer are
* `Namer.WholeNames` — types without dots and slashes in their simple names have names without them
-/

namespace TaskBuilders.Naming

open QualifiedName Text

/-! ## Camel case and snake case -/

/-- A case mapping takes every code point behind the slash. -/
def behindSlash (shifts : List CaseShift) : Bool :=
  shifts.all fun s => decide (0x30 ≤ (s.run.first : Int) + s.distance)

theorem behindSlash_upperShifts : behindSlash upperShifts = true := by decide +kernel

theorem behindSlash_lowerShifts : behindSlash lowerShifts = true := by decide +kernel

theorem toNat_ofNat_cases (n : Nat) :
    (Char.ofNat n).toNat = n ∨ (Char.ofNat n).toNat = 0 := by
  by_cases hvalid : n.isValidChar
  · left
    rw [Char.ofNat, dif_pos hvalid]
    rfl
  · right
    rw [Char.ofNat, dif_neg hvalid]
    rfl

theorem isDivider_ofNat {n : Nat} (h : 0x30 ≤ n) : isDivider (Char.ofNat n) = false := by
  have hne : ∀ d : Char, d.toNat < 0x30 → d.toNat ≠ 0 → Char.ofNat n ≠ d := by
    rintro d hd h0 rfl
    have := toNat_ofNat_cases n
    omega
  rw [isDivider, Bool.or_eq_false_iff]
  exact ⟨beq_eq_false_iff_ne.2 (hne '.' (by decide) (by decide)),
    beq_eq_false_iff_ne.2 (hne '/' (by decide) (by decide))⟩

theorem isDivider_shiftCase {shifts : List CaseShift} {c : Char} (hshifts : behindSlash shifts = true)
    (h : isDivider c = false) : isDivider (shiftCase shifts c) = false := by
  unfold shiftCase
  split
  · next s hs =>
    have hmem := List.mem_of_find?_eq_some hs
    have hrun := List.find?_some hs
    have hbehind := of_decide_eq_true (List.all_eq_true.1 hshifts s hmem)
    simp only [CodeRange.contains, Bool.and_eq_true, decide_eq_true_iff] at hrun
    exact isDivider_ofNat (by omega)
  · exact h

theorem isDivider_toUpper {c : Char} (h : isDivider c = false) : isDivider (toUpper c) = false := by
  have hascii : ∀ n < 0x80, isDivider (Char.ofNat n) = false →
      isDivider (Char.ofNat n).toUpper = false := by decide
  unfold toUpper
  split
  · next hc =>
    have hupper := hascii c.toNat (of_decide_eq_true hc)
    rw [Char.ofNat_toNat] at hupper
    exact hupper h
  · exact isDivider_shiftCase behindSlash_upperShifts h

theorem isDivider_toLower {c : Char} (h : isDivider c = false) : isDivider (toLower c) = false := by
  have hascii : ∀ n < 0x80, isDivider (Char.ofNat n) = false →
      isDivider (Char.ofNat n).toLower = false := by decide
  unfold toLower
  split
  · next hc =>
    have hlower := hascii c.toNat (of_decide_eq_true hc)
    rw [Char.ofNat_toNat] at hlower
    exact hlower h
  · exact isDivider_shiftCase behindSlash_lowerShifts h

/-- The breaks between words are dropped, and with them the dividers. -/
theorem isDivider_cased {c : Char} (upper : Bool) (h : isWordBreak c = false) :
    isDivider (if upper then toUpper c else c) = false := by
  have hc : isDivider c = false := by
    simp only [isWordBreak, Bool.or_eq_false_iff] at h
    rw [isDivider, Bool.or_eq_false_iff]
    exact ⟨h.1.1.1.2, h.2⟩
  split
  · exact isDivider_toUpper hc
  · exact hc

theorem isDivider_camelFrom (started upper : Bool) (cs : List Char) :
    ∀ c ∈ camelFrom started upper cs, isDivider c = false := by
  fun_induction camelFrom started upper cs with
  | case1 => nofun
  | case2 started upper c cs hbreak ih => exact ih
  | case3 started upper c cs hbreak hword c' hdigit ih =>
    have hc' : isDivider c' = false := isDivider_cased upper (Bool.eq_false_iff.2 hbreak)
    simp only [List.forall_mem_cons]
    exact ⟨rfl, hc', ih⟩
  | case4 started upper c cs hbreak hword c' hdigit ih =>
    have hc' : isDivider c' = false := isDivider_cased upper (Bool.eq_false_iff.2 hbreak)
    simp only [List.forall_mem_cons]
    exact ⟨hc', ih⟩
  | case5 started upper c cs hbreak hword ih => exact ih

theorem whole_camelCase (s : String) : Whole (camelCase s) := by
  intro c hc
  rw [camelCase, String.toList_ofList] at hc
  exact isDivider_camelFrom false false s.toList c hc

theorem Whole.exported {s : String} (h : Whole s) : Whole (exported s) := by
  unfold Naming.exported mapFirst
  split
  · exact h
  · next c cs hs =>
    intro d hd
    rw [String.toList_ofList] at hd
    rw [Whole, hs] at h
    rcases List.mem_cons.1 hd with rfl | hd
    · exact isDivider_toUpper (h c List.mem_cons_self)
    · exact h d (List.mem_cons_of_mem c hd)

/-- Neither dots nor slashes are left in camel case. -/
theorem whole_exported_camelCase (s : String) : Whole (exported (camelCase s)) :=
  Whole.exported (whole_camelCase s)

theorem isDivider_snakeFrom (prev : Option Char) (cs : List Char) :
    (∀ c ∈ cs, isDivider c = false) → ∀ c ∈ snakeFrom prev cs, isDivider c = false := by
  fun_induction snakeFrom prev cs with
  | case1 => exact fun _ => nofun
  | case2 prev c cs breaks hbreaks ih =>
    intro h
    have hlower := isDivider_toLower (h c List.mem_cons_self)
    have hrest := ih fun d hd => h d (List.mem_cons_of_mem c hd)
    simp only [List.forall_mem_cons]
    exact ⟨rfl, hlower, hrest⟩
  | case3 prev c cs breaks hbreaks ih =>
    intro h
    have hlower := isDivider_toLower (h c List.mem_cons_self)
    have hrest := ih fun d hd => h d (List.mem_cons_of_mem c hd)
    simp only [List.forall_mem_cons]
    exact ⟨hlower, hrest⟩

/-- Snake case adds neither dots nor slashes. -/
theorem Whole.snakeCase {s : String} (h : Whole s) : Whole (snakeCase s) := by
  intro c hc
  rw [Naming.snakeCase, String.toList_ofList] at hc
  exact isDivider_snakeFrom none s.toList h c hc

theorem whole_toString (n : Nat) : Whole (toString n) := by
  intro c hc
  have hdigit := isDigit_of_mem_toString hc
  rw [isDivider, Bool.or_eq_false_iff, beq_eq_false_iff_ne, beq_eq_false_iff_ne]
  constructor
  · rintro rfl
    cases hdigit
  · rintro rfl
    cases hdigit

/-! ## Names -/

/-- A name that begins with the marker and can be told from its qualified form. -/
def TypicalName (name : String) : Prop := Undivided name ∧ ∃ rest, name = marker ++ rest

theorem whole_marker : Whole marker := by decide

/-- Whole texts around an undivided one make a typical name behind the marker. -/
theorem typicalName_between {a s b : String} (hs : Undivided s) (ha : Whole a) (hb : Whole b) :
    TypicalName (marker ++ a ++ s ++ b) :=
  ⟨hs.between (whole_marker.append ha) hb, a ++ s ++ b, by simp only [String.append_assoc]⟩

theorem afterLeading?_append (a b : List Char) : afterLeading? a (a ++ b) = some b := by
  induction a with
  | nil => cases b <;> rfl
  | cons c a ih =>
    rw [List.cons_append, afterLeading?, if_pos rfl, ih]

theorem dropLeading_append (a b : String) : dropLeading a (a ++ b) = b := by
  rw [dropLeading, String.toList_append, afterLeading?_append]
  exact String.ofList_toList

namespace Namer

/-- Whole texts are all that is put around the preferred name, whether or not it is taken. -/
theorem choose_eq (n : Namer) (key s source : String) : ∃ a b, Whole a ∧ Whole b ∧
    n.choose key (marker ++ s) source = marker ++ a ++ s ++ b := by
  have hempty : Whole "" := by decide
  unfold choose
  split
  · -- the package goes between the marker and the name, and a number behind
    have hbase : n.fallbackName source (marker ++ s) =
        marker ++ exported (camelCase (n.fallbackPackage source)) ++ s := by
      rw [fallbackName, dropLeading_append]
    have hcamel := whole_exported_camelCase (n.fallbackPackage source)
    rcases firstFree_eq (n.takenNames key) (n.fallbackName source (marker ++ s)) with h | ⟨i, h⟩
    · exact ⟨_, "", hcamel, hempty, by rw [h, hbase, String.append_empty]⟩
    · exact ⟨_, _, hcamel, whole_toString _, by rw [h, hbase]⟩
  · exact ⟨"", "", hempty, hempty, by rw [String.append_empty, String.append_empty]⟩

/-- The name chosen for a key is typical. -/
theorem typical_choose (n : Namer) (key source : String) {s : String} (hs : Undivided s) :
    TypicalName (n.choose key (marker ++ s) source) := by
  obtain ⟨a, b, ha, hb, h⟩ := n.choose_eq key s source
  rw [h]
  exact typicalName_between hs ha hb

/-- All names are typical. -/
def Typical (n : Namer) : Prop := ∀ key ident, n.names.get? key = some ident → TypicalName ident

theorem Typical.mint {n : Namer} (h : n.Typical) (key source : String) {s : String}
    (hs : Undivided s) : (n.mint key (marker ++ s) source).2.Typical := by
  unfold Namer.mint
  split
  · exact h
  · intro k i hk
    rcases Dict.get?_insert_cases hk with ⟨rfl, rfl⟩ | hk
    · exact n.typical_choose k source hs
    · exact h k i hk

theorem Typical.resultName {n : Namer} (h : n.Typical) (id : String) :
    (n.resultName id).2.Typical := h.mint id id (undivided_simpleName id)

/-- What the name of a container is made of cannot be divided. -/
theorem undivided_simpleName_container (id : String) : Undivided (simpleName id ++ "Container") := by
  simpa using (undivided_simpleName id).between (by decide : Whole "")
    (by decide : Whole "Container")

theorem Typical.containerName {n : Namer} (h : n.Typical) (id : String) :
    (n.containerName id).2.Typical := by
  have hmint := h.mint (containerKey id) (if id = "" then containerKey id else id)
    (undivided_simpleName_container id)
  rw [← String.append_assoc] at hmint
  exact hmint

/-! ## Whole names -/

/-- A key whose simple name has neither dots nor slashes has a name without them. -/
def WholeNames (n : Namer) : Prop :=
  ∀ key ident, n.names.get? key = some ident → Whole (simpleName key) → Whole ident

theorem wholeNames_new (package sourceRoot : String) : (new package sourceRoot).WholeNames := by
  intro key ident h
  cases h

theorem WholeNames.mint {n : Namer} (h : n.WholeNames) {key s : String} (source : String)
    (hs : Whole (simpleName key) → Whole s) : (n.mint key (marker ++ s) source).2.WholeNames := by
  unfold Namer.mint
  split
  · exact h
  · intro k i hk hsimple
    rcases Dict.get?_insert_cases hk with ⟨rfl, rfl⟩ | hk
    · obtain ⟨a, b, ha, hb, heq⟩ := n.choose_eq k s source
      rw [heq]
      exact ((whole_marker.append ha).append (hs hsimple)).append hb
    · exact h k i hk hsimple

theorem WholeNames.resultName {n : Namer} (h : n.WholeNames) (id : String) :
    (n.resultName id).2.WholeNames := h.mint id fun hsimple => hsimple

/-- The key of a container has a simple name like the capability. -/
theorem whole_simpleName_containerKey (id : String) :
    Whole (simpleName (containerKey id)) ↔ Whole (simpleName id) :=
  whole_simpleName_append (by decide) id

theorem WholeNames.containerName {n : Namer} (h : n.WholeNames) (id : String) :
    (n.containerName id).2.WholeNames := by
  have hs (hsimple : Whole (simpleName (containerKey id))) : Whole (simpleName id ++ "Container") :=
    ((whole_simpleName_containerKey id).1 hsimple).append (by decide)
  have hmint := h.mint (if id = "" then containerKey id else id) hs
  rw [← String.append_assoc] at hmint
  exact hmint

end Namer

end TaskBuilders.Naming
