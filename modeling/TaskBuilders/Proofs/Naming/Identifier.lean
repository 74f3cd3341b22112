import TaskBuilders.Naming.Identifier
import TaskBuilders.Proofs.Naming.FreeName
import TaskBuilders.Proofs.Text.UpperCase

/-!
# Identifiers of tags

Camel case keeps letters and digits and puts an underscore before a digit at the beginning, so that
a tag with any letter or digit becomes an identifier. With its first letter in upper case it is no
keyword, since keywords begin with lower-case letters of ASCII, and whatever goes behind it keeps it
from becoming one.

* `isIdentPart_camelFrom`, `camelFrom_cases` — camel case has the form of an identifier, or nothing
  is left
* `Capital` — identifiers that begin in upper case, or with an underscore and something behind it
* `Capital.isIdentifier` — they are identifiers
* `capital_exported_camelCase` — exported camel case is one
-/

namespace TaskBuilders.Naming

open Text

/-! ## Camel case -/

theorem isIdentPart_of_isWordChar {c : Char} (h : isWordChar c = true) : isIdentPart c = true := by
  simp only [isWordChar, Bool.or_eq_true] at h
  simp only [isIdentPart, isIdentStart, Bool.or_eq_true]
  exact h.imp_left Or.inl

theorem isWordChar_cased {c : Char} (upper : Bool) (h : isWordChar c = true) :
    isWordChar (if upper then toUpper c else c) = true := by
  split
  · exact isWordChar_toUpper h
  · exact h

theorem isIdentPart_camelFrom (started upper : Bool) (cs : List Char) :
    ∀ c ∈ camelFrom started upper cs, isIdentPart c = true := by
  fun_induction camelFrom started upper cs with
  | case1 => nofun
  | case2 started upper c cs hbreak ih => exact ih
  | case3 started upper c cs hbreak hword c' hdigit ih =>
    have hc' : isIdentPart c' = true := isIdentPart_of_isWordChar (isWordChar_cased upper hword)
    simp only [List.forall_mem_cons]
    exact ⟨rfl, hc', ih⟩
  | case4 started upper c cs hbreak hword c' hdigit ih =>
    have hc' : isIdentPart c' = true := isIdentPart_of_isWordChar (isWordChar_cased upper hword)
    simp only [List.forall_mem_cons]
    exact ⟨hc', ih⟩
  | case5 started upper c cs hbreak hword ih => exact ih

/-- At the beginning stands a letter, or an underscore with a digit behind it. -/
theorem camelFrom_cases (upper : Bool) (cs : List Char) :
    camelFrom false upper cs = [] ∨ ∃ c rest, camelFrom false upper cs = c :: rest ∧
      (isLetter c = true ∨ c = '_' ∧ rest ≠ []) := by
  induction cs generalizing upper with
  | nil => exact Or.inl rfl
  | cons c cs ih =>
    rw [camelFrom]
    split
    · exact ih false
    · split
      · next hword =>
        dsimp only
        split
        · exact Or.inr ⟨_, _, rfl, Or.inr ⟨rfl, List.cons_ne_nil _ _⟩⟩
        · next hdigit =>
          -- what is no digit is a letter
          have hletter : isLetter c = true := by
            simp only [isWordChar, Bool.or_eq_true] at hword
            exact hword.resolve_right (by simpa using hdigit)
          refine Or.inr ⟨_, _, rfl, Or.inl ?_⟩
          split
          · exact isLetter_toUpper hletter
          · exact hletter
      · exact ih upper

/-! ## Identifiers that are no keywords -/

/-- A text with the form of an identifier that begins with no lower-case letter of ASCII and is more
than an underscore. -/
def Capital (s : String) : Prop :=
  ∃ c rest, s.toList = c :: rest ∧ isIdentStart c = true ∧ ¬ AsciiLower c ∧ (c = '_' → rest ≠ []) ∧
    ∀ d ∈ rest, isIdentPart d = true

/-- Keywords begin with lower-case letters of ASCII. -/
theorem asciiLower_of_keyword :
    ∀ k ∈ keywords, ∃ c rest, k.toList = c :: rest ∧ AsciiLower c := by
  have hhead : ∀ k ∈ keywords, (k.toList.head?.any fun c => decide (AsciiLower c)) = true := by
    decide +kernel
  intro k hk
  have hany := hhead k hk
  cases hlist : k.toList with
  | nil => simp [hlist] at hany
  | cons c rest => exact ⟨c, rest, rfl, by simpa [hlist] using hany⟩

theorem Capital.isIdentifier {s : String} (h : Capital s) : isIdentifier s = true := by
  obtain ⟨c, rest, hs, hstart, hlower, _, hrest⟩ := h
  have hform : hasIdentForm s.toList = true := by
    rw [hs, hasIdentForm, hstart, Bool.true_and]
    exact List.all_eq_true.2 hrest
  have hkeyword : s ∉ keywords := by
    intro hk
    obtain ⟨c', rest', hs', hlower'⟩ := asciiLower_of_keyword s hk
    rw [hs] at hs'
    exact hlower ((List.cons.inj hs').1 ▸ hlower')
  rw [Naming.isIdentifier, hform, Bool.true_and, Bool.not_eq_true', List.contains_eq_mem]
  exact decide_eq_false hkeyword

theorem Capital.ne_underscore {s : String} (h : Capital s) : s ≠ "_" := by
  rintro rfl
  obtain ⟨c, rest, hs, _, _, hmore, _⟩ := h
  obtain ⟨rfl, rfl⟩ := List.cons.inj hs
  exact hmore rfl rfl

/-- What an identifier may go on with may stand behind it. -/
theorem Capital.append {s tail : String} (h : Capital s)
    (htail : ∀ d ∈ tail.toList, isIdentPart d = true) : Capital (s ++ tail) := by
  obtain ⟨c, rest, hs, hstart, hlower, hmore, hrest⟩ := h
  refine ⟨c, rest ++ tail.toList, ?_, hstart, hlower, ?_, ?_⟩
  · rw [String.toList_append, hs, List.cons_append]
  · exact fun hc => List.append_ne_nil_of_left_ne_nil (hmore hc) _
  · intro d hd
    exact (List.mem_append.1 hd).elim (hrest d) (htail d)

theorem toNat_le_of_isDigit {c : Char} (h : c.isDigit = true) : c.toNat ≤ 0x39 := by
  simp only [Char.isDigit, Bool.and_eq_true, decide_eq_true_iff] at h
  exact UInt32.le_iff_toNat_le.1 h.2

theorem isIdentPart_toString (n : Nat) : ∀ d ∈ (toString n).toList, isIdentPart d = true := by
  have hdigits : ∀ k < 0x80, (Char.ofNat k).isDigit = true → isIdentPart (Char.ofNat k) = true := by
    decide
  intro d hd
  have hdigit := isDigit_of_mem_toString hd
  have hascii : d.toNat < 0x80 := Nat.lt_of_le_of_lt (toNat_le_of_isDigit hdigit) (by decide)
  have hpart := hdigits d.toNat hascii
  rw [Char.ofNat_toNat] at hpart
  exact hpart hdigit

theorem Capital.firstFree {base : String} (h : Capital base) (taken : List String) :
    Capital (firstFree taken base) := by
  rcases firstFree_eq taken base with heq | ⟨n, heq⟩
  · rwa [heq]
  · rw [heq]
    exact h.append (isIdentPart_toString _)

/-- **Exported camel case is an identifier, unless nothing is left.** -/
theorem capital_exported_camelCase {s : String} (h : exported (camelCase s) ≠ "") :
    Capital (exported (camelCase s)) := by
  rcases camelFrom_cases false s.toList with hnil | ⟨c, rest, hcamel, hfirst⟩
  · have hempty : camelCase s = "" := by rw [camelCase, hnil, String.ofList_nil]
    rw [hempty] at h
    exact absurd rfl h
  · have hexported : (exported (camelCase s)).toList = toUpper c :: rest := by
      rw [exported, mapFirst, camelCase, String.toList_ofList, hcamel]
      exact String.toList_ofList
    refine ⟨toUpper c, rest, hexported, ?_, not_asciiLower_toUpper c, ?_, ?_⟩
    · rcases hfirst with hletter | ⟨rfl, _⟩
      · rw [isIdentStart, isLetter_toUpper hletter, Bool.true_or]
      · rfl
    · intro hunderscore
      rcases hfirst with hletter | ⟨_, hrest⟩
      · have hupper := isLetter_toUpper hletter
        rw [hunderscore] at hupper
        exact absurd hupper (by decide)
      · exact hrest
    · intro d hd
      exact isIdentPart_camelFrom false false s.toList d (hcamel ▸ List.mem_cons_of_mem c hd)

end TaskBuilders.Naming
