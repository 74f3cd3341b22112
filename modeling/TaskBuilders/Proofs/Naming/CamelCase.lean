import Mathlib.Data.List.Forall2
import TaskBuilders.Builder.Plan
import TaskBuilders.Proofs.Naming.Identifier

/-!
# What camel case keeps of a tag

Camel case writes the letters and digits of a tag in their order, as they are or in upper case. All it
adds is an underscore in front of a digit at the beginning. So nothing is left of a tag exactly when it
has no letter or digit, and what is left is its own camel case: in a text of that form no word break
stands behind a letter, which could put the next one in upper case.

* `camelForm_camelCase` — what is written for the letters and digits of a tag
* `HasTagForm` — a letter, or an underscore and a digit, and then letters and digits
* `camelCase_of_hasTagForm` — a text of that form stays as it is
* `camelCase_identifiers` — camel case and the names of builders
-/

namespace TaskBuilders.Naming

open Text

variable {c d : Char} {word written cs : List Char}

/-! ## Letters and digits -/

/-- Word breaks are neither letters nor digits. -/
theorem isWordChar_of_isWordBreak (h : isWordBreak c = true) : isWordChar c = false := by
  simp only [isWordBreak, Bool.or_eq_true, beq_iff_eq] at h
  rcases h with ((((rfl | rfl) | rfl) | rfl) | rfl) | rfl <;> decide

theorem isWordBreak_of_isWordChar (h : isWordChar c = true) : isWordBreak c = false := by
  refine Bool.eq_false_iff.2 fun hbreak => ?_
  simp [isWordChar_of_isWordBreak hbreak] at h

/-- The character `d` is written for `c`. -/
def Recased (c d : Char) : Prop := d = c ∨ d = toUpper c

theorem Recased.isWordChar (h : Recased c d) (hc : isWordChar c = true) : isWordChar d = true := by
  rcases h with rfl | rfl
  · exact hc
  · exact isWordChar_toUpper hc

theorem isWordChar_of_recased (h : List.Forall₂ Recased word written)
    (hword : ∀ c ∈ word, isWordChar c = true) : ∀ d ∈ written, isWordChar d = true := by
  induction h with
  | nil => simp
  | cons hc _ ih =>
    simp only [List.forall_mem_cons] at hword ⊢
    exact ⟨hc.isWordChar hword.1, ih hword.2⟩

/-! ## What is written -/

/-- What is written for the letters and digits of a tag. -/
inductive CamelForm : (word written : List Char) → Prop
  | nothing : CamelForm [] []
  | letter {c : Char} {word rest : List Char} (first : isLetter c = true) (noDigit : isDigit c = false)
      (others : List.Forall₂ Recased word rest) : CamelForm (c :: word) (c :: rest)
  | digit {c : Char} {word rest : List Char} (first : isDigit c = true)
      (others : List.Forall₂ Recased word rest) : CamelForm (c :: word) ('_' :: c :: rest)

/-- Behind the first character letters and digits are written one by one. -/
theorem recased_camelFrom (upper : Bool) (cs : List Char) :
    List.Forall₂ Recased (cs.filter isWordChar) (camelFrom true upper cs) := by
  induction cs generalizing upper with
  | nil => exact .nil
  | cons c cs ih =>
    by_cases hbreak : isWordBreak c = true
    · simpa [camelFrom, hbreak, isWordChar_of_isWordBreak hbreak] using ih true
    · by_cases hword : isWordChar c = true
      · have hc : Recased c (if upper then toUpper c else c) := by
          cases upper
          · exact Or.inl rfl
          · exact Or.inr rfl
        simpa [camelFrom, hbreak, hword] using ⟨hc, ih false⟩
      · simpa [camelFrom, hbreak, hword] using ih upper

theorem camelForm_camelFrom (cs : List Char) :
    CamelForm (cs.filter isWordChar) (camelFrom false false cs) := by
  induction cs with
  | nil => exact .nothing
  | cons c cs ih =>
    by_cases hbreak : isWordBreak c = true
    · simpa [camelFrom, hbreak, isWordChar_of_isWordBreak hbreak] using ih
    · by_cases hword : isWordChar c = true
      · have hrest := recased_camelFrom false cs
        cases hdigit : isDigit c with
        | true => simpa [camelFrom, hbreak, hword, hdigit] using CamelForm.digit hdigit hrest
        | false =>
          -- what is no digit is a letter
          have hletter : isLetter c = true := by simpa [isWordChar, hdigit] using hword
          simpa [camelFrom, hbreak, hword, hdigit] using CamelForm.letter hletter hdigit hrest
      · simpa [camelFrom, hbreak, hword] using ih

/-- **Camel case writes the letters and digits of a tag, each of them once and in their order.** -/
theorem camelForm_camelCase (s : String) :
    CamelForm (s.toList.filter isWordChar) (camelCase s).toList := by
  rw [camelCase, String.toList_ofList]
  exact camelForm_camelFrom s.toList

theorem CamelForm.eq_nil_iff (h : CamelForm word written) : written = [] ↔ word = [] := by
  cases h <;> simp

/-- **Nothing is left of a tag exactly when it has neither letters nor digits.** -/
theorem camelCase_eq_empty_iff (s : String) :
    camelCase s = "" ↔ ∀ c ∈ s.toList, isWordChar c = false := by
  rw [← String.toList_inj, String.toList_empty, (camelForm_camelCase s).eq_nil_iff]
  simp

/-! ## The form of what is left -/

/-- A letter, or an underscore and a digit, and then letters and digits only. -/
inductive HasTagForm : List Char → Prop
  | letter {c : Char} {rest : List Char} (first : isLetter c = true) (noDigit : isDigit c = false)
      (others : ∀ d ∈ rest, isWordChar d = true) : HasTagForm (c :: rest)
  | digit {c : Char} {rest : List Char} (first : isDigit c = true)
      (others : ∀ d ∈ rest, isWordChar d = true) : HasTagForm ('_' :: c :: rest)

theorem CamelForm.hasTagForm (h : CamelForm word written) (hword : ∀ c ∈ word, isWordChar c = true)
    (hne : written ≠ []) : HasTagForm written := by
  cases h with
  | nothing => exact absurd rfl hne
  | letter first noDigit others =>
    exact .letter first noDigit (isWordChar_of_recased others (List.forall_mem_cons.1 hword).2)
  | digit first others =>
    exact .digit first (isWordChar_of_recased others (List.forall_mem_cons.1 hword).2)

theorem hasTagForm_camelCase {s : String} (h : camelCase s ≠ "") :
    HasTagForm (camelCase s).toList := by
  refine (camelForm_camelCase s).hasTagForm (fun c hc => (List.mem_filter.1 hc).2) fun hnil => h ?_
  exact String.toList_inj.1 hnil

theorem camelFrom_of_isWordChar (h : ∀ c ∈ cs, isWordChar c = true) : camelFrom true false cs = cs := by
  induction cs with
  | nil => rfl
  | cons c cs ih =>
    obtain ⟨hc, hcs⟩ := List.forall_mem_cons.1 h
    simp [camelFrom, isWordBreak_of_isWordChar hc, hc, ih hcs]

theorem HasTagForm.camelFrom_eq (h : HasTagForm cs) : camelFrom false false cs = cs := by
  cases h with
  | @letter c rest first noDigit others =>
    have hc : isWordChar c = true := by rw [isWordChar, first, Bool.true_or]
    simp [camelFrom, isWordBreak_of_isWordChar hc, hc, noDigit, camelFrom_of_isWordChar others]
  | @digit c rest first others =>
    have hunderscore : isWordBreak '_' = true := by decide
    have hc : isWordChar c = true := by rw [isWordChar, first, Bool.or_true]
    -- the underscore goes as a word break and comes back in front of the digit
    simp [camelFrom, hunderscore, isWordBreak_of_isWordChar hc, hc, first,
      camelFrom_of_isWordChar others]

/-- **A text of that form stays as it is.** -/
theorem camelCase_of_hasTagForm {s : String} (h : HasTagForm s.toList) : camelCase s = s := by
  rw [camelCase, h.camelFrom_eq, String.ofList_toList]

theorem camelCase_camelCase (s : String) : camelCase (camelCase s) = camelCase s := by
  by_cases hempty : camelCase s = ""
  · rw [hempty]
    rfl
  · exact camelCase_of_hasTagForm (hasTagForm_camelCase hempty)

/-! ## Names of builders -/

theorem exported_ne_empty {s : String} (h : s ≠ "") : exported s ≠ "" := by
  intro hempty
  cases hlist : s.toList with
  | nil => exact h (String.toList_inj.1 hlist)
  | cons c cs =>
    have hnil := congrArg String.toList hempty
    simp [exported, mapFirst, hlist] at hnil

/-- Outside of containers the name of a builder is the tag alone. -/
theorem builderName_of_ne_container {parent : Parent} (h : parent.kind ≠ .container) (tag : String) :
    builderName parent tag = exported (camelCase tag) := if_neg h

theorem capital_builderName {parent : Parent} (h : parent.kind ≠ .container) {tag : String}
    (htag : ∃ c ∈ tag.toList, isWordChar c = true) : Capital (builderName parent tag) := by
  obtain ⟨c, hc, hword⟩ := htag
  have hne : camelCase tag ≠ "" := by
    intro hempty
    simp [(camelCase_eq_empty_iff tag).1 hempty c hc] at hword
  rw [builderName_of_ne_container h]
  exact capital_exported_camelCase (exported_ne_empty hne)

/-- **Camel case and the names of builders.** Camel case writes the letters and digits of a tag, and
nothing where there are none. What it writes has the form of an identifier and is its own camel case. A
builder that is named by such a tag alone has an identifier for its name, which is no keyword. -/
theorem camelCase_identifiers (s : String) :
    CamelForm (s.toList.filter isWordChar) (camelCase s).toList ∧
    (camelCase s = "" ↔ ∀ c ∈ s.toList, isWordChar c = false) ∧
    (camelCase s ≠ "" → HasTagForm (camelCase s).toList) ∧
    camelCase (camelCase s) = camelCase s ∧
    ∀ parent : Parent, parent.kind ≠ .container → (∃ c ∈ s.toList, isWordChar c = true) →
      isIdentifier (builderName parent s) = true ∧ builderName parent s ≠ "_" := by
  refine ⟨camelForm_camelCase s, camelCase_eq_empty_iff s, hasTagForm_camelCase,
    camelCase_camelCase s, fun parent hparent hs => ?_⟩
  have hcapital := capital_builderName hparent hs
  exact ⟨hcapital.isIdentifier, hcapital.ne_underscore⟩

/-- A digit at the beginning, a break in front of a letter that it puts in upper case, and one in front
of a digit, where it leaves no trace. -/
example : camelCase "-2nd_path/№3" = "_2ndPath3" := by decide +kernel

end TaskBuilders.Naming
