import Mathlib.Data.List.Induction
import TaskBuilders.Number.Format
import TaskBuilders.Number.Reading

/-!
# Integers in decimal digits

A number is written digit by digit, and a further digit makes what stands before it worth ten times as
much. The reader takes such texts with an optional sign and nothing else, as long as the number fits 64
bits, so the text of an integer that fits is read as that integer.

* `Numeral`, `SignedNumeral` — the texts of numbers and what they are worth
* `IsInt64` — the integers of 64 bits
* `numeral_iff` — a numeral is any row of digits
* `readInt?_eq_some_iff` — which texts are read, and as which integers
* `readInt?_intText` — the text of an integer is read as that integer
-/

namespace TaskBuilders.Number

variable {cs : List Char} {c : Char} {m : Nat} {n : Int} {s : String}

/-! ## Digits -/

theorem isDecimalDigit_digitChar {d : Nat} (h : d < 10) : isDecimalDigit d.digitChar = true := by
  have hall : ∀ d < 10, isDecimalDigit d.digitChar = true := by decide
  exact hall d h

theorem digitValue?_digitChar {d : Nat} (h : d < 10) : digitValue? d.digitChar = some d := by
  have hall : ∀ d < 10, digitValue? d.digitChar = some d := by decide
  exact hall d h

theorem exists_digitChar_of_isDecimalDigit (h : isDecimalDigit c = true) :
    ∃ d < 10, d.digitChar = c := by
  have hbounds : 48 ≤ c.toNat ∧ c.toNat ≤ 57 := by
    rw [isDecimalDigit, Bool.and_eq_true, decide_eq_true_iff, decide_eq_true_iff] at h
    exact h
  refine ⟨c.toNat - 48, by omega, Char.toNat_inj.1 ?_⟩
  rw [Nat.toNat_digitChar_of_lt_ten (by omega)]
  omega

theorem ofDigits_append_singleton (base : Nat) (cs : List Char) (c : Char) :
    ofDigits base (cs ++ [c]) = ofDigits base cs * base + (digitValue? c).getD 0 := by
  simp [ofDigits]

/-! ## Numerals -/

/-- What a row of decimal digits is worth. -/
inductive Numeral : List Char → Nat → Prop
  | one (d : Nat) (hd : d < 10) : Numeral [d.digitChar] d
  | more {cs : List Char} {m : Nat} (h : Numeral cs m) (d : Nat) (hd : d < 10) :
      Numeral (cs ++ [d.digitChar]) (10 * m + d)

/-- **A numeral is a row of digits that is not empty**, and worth what the reader makes of it. -/
theorem numeral_iff :
    Numeral cs m ↔ cs ≠ [] ∧ (∀ c ∈ cs, isDecimalDigit c = true) ∧ ofDigits 10 cs = m := by
  constructor
  · intro h
    induction h with
    | one d hd =>
      exact ⟨by simp, by simpa using isDecimalDigit_digitChar hd,
        by simp [ofDigits, digitValue?_digitChar hd]⟩
    | @more cs m h d hd ih =>
      obtain ⟨_, hdigits, hvalue⟩ := ih
      refine ⟨by simp, fun c hc => ?_, ?_⟩
      · rcases List.mem_append.1 hc with hc | hc
        · exact hdigits c hc
        · rw [List.mem_singleton.1 hc]
          exact isDecimalDigit_digitChar hd
      · rw [ofDigits_append_singleton, digitValue?_digitChar hd, hvalue, Option.getD_some]
        omega
  · rintro ⟨hne, hdigits, rfl⟩
    -- the last digit is the one that was written last
    induction cs using List.reverseRecOn with
    | nil => exact absurd rfl hne
    | append_singleton cs c ih =>
      obtain ⟨d, hd, rfl⟩ := exists_digitChar_of_isDecimalDigit (hdigits c (by simp))
      rw [ofDigits_append_singleton, digitValue?_digitChar hd, Option.getD_some, Nat.mul_comm]
      by_cases hcs : cs = []
      · rw [hcs]
        simpa [ofDigits] using Numeral.one d hd
      · exact .more (ih hcs fun c hc => hdigits c (List.mem_append_left _ hc)) d hd

theorem numeral_digitsOf (m : Nat) : Numeral (digitsOf m) m := by
  induction m using Nat.strongRecOn with
  | _ m ih =>
    rw [digitsOf]
    by_cases hm : m < 10
    · rw [Nat.toDigits_of_lt_base hm]
      exact .one m hm
    · rw [Nat.toDigits_of_base_le (by decide) (by omega)]
      have hmore := Numeral.more (ih (m / 10) (by omega)) (m % 10) (Nat.mod_lt m (by decide))
      rwa [Nat.div_add_mod] at hmore

/-! ## Signs -/

/-- What a numeral with an optional sign is worth. -/
inductive SignedNumeral : List Char → Int → Prop
  | unsigned {cs : List Char} {m : Nat} (h : Numeral cs m) : SignedNumeral cs m
  | plus {cs : List Char} {m : Nat} (h : Numeral cs m) : SignedNumeral ('+' :: cs) m
  | minus {cs : List Char} {m : Nat} (h : Numeral cs m) : SignedNumeral ('-' :: cs) (-m)

theorem splitSign_of_numeral (h : Numeral cs m) : splitSign cs = (false, cs) := by
  obtain ⟨_, hdigits, _⟩ := numeral_iff.1 h
  -- neither sign is a digit
  unfold splitSign
  split
  · exact absurd (hdigits '-' (by simp)) (by decide)
  · exact absurd (hdigits '+' (by simp)) (by decide)
  · rfl

theorem signedNumeral_iff : SignedNumeral cs n ↔
    ∃ m, Numeral (splitSign cs).2 m ∧ n = if (splitSign cs).1 then -(m : Int) else m := by
  constructor
  · rintro (h | h | h)
    · exact ⟨_, by rwa [splitSign_of_numeral h], by simp [splitSign_of_numeral h]⟩
    · exact ⟨_, h, rfl⟩
    · exact ⟨_, h, rfl⟩
  · rintro ⟨m, h, rfl⟩
    unfold splitSign at h ⊢
    split at h
    · exact .minus h
    · exact .plus h
    · exact .unsigned h

theorem signedNumeral_intText (n : Int) : SignedNumeral (intText n).toList n := by
  have hdigits := numeral_digitsOf n.natAbs
  unfold intText
  split
  · have hn : n = -(n.natAbs : Int) := by omega
    have hlist : ("-" ++ String.ofList (digitsOf n.natAbs)).toList = '-' :: digitsOf n.natAbs := by
      simp
    have hminus := SignedNumeral.minus hdigits
    rwa [← hn, ← hlist] at hminus
  · have hn : n = (n.natAbs : Int) := by omega
    have hunsigned := SignedNumeral.unsigned hdigits
    rwa [← hn, ← String.toList_ofList (l := digitsOf n.natAbs)] at hunsigned

/-! ## Reading -/

/-- The integer fits 64 bits. -/
def IsInt64 (n : Int) : Prop := -((Nat.pow 2 63 : Nat) : Int) ≤ n ∧ n < (Nat.pow 2 63 : Nat)

theorem fitsInt64_iff : fitsInt64 n = true ↔ IsInt64 n := by
  rw [fitsInt64, Bool.and_eq_true, decide_eq_true_iff, decide_eq_true_iff, IsInt64]

/-- **The texts that are read are the numerals with an optional sign that fit 64 bits**, and they are
read as what they are worth. -/
theorem readInt?_eq_some_iff : readInt? s = some n ↔ SignedNumeral s.toList n ∧ IsInt64 n := by
  rw [signedNumeral_iff, ← fitsInt64_iff, readInt?]
  generalize splitSign s.toList = signed
  obtain ⟨negative, cs⟩ := signed
  have hguard : (cs.isEmpty || !cs.all isDecimalDigit) = true ↔
      ¬ (cs ≠ [] ∧ ∀ c ∈ cs, isDecimalDigit c = true) := by
    simp [Classical.or_iff_not_imp_left]
  dsimp only
  by_cases hcs : cs ≠ [] ∧ ∀ c ∈ cs, isDecimalDigit c = true
  · have hnumeral : ∀ m, Numeral cs m ↔ ofDigits 10 cs = m := fun m =>
      numeral_iff.trans ⟨fun h => h.2.2, fun h => ⟨hcs.1, hcs.2, h⟩⟩
    rw [if_neg fun h => hguard.1 h hcs]
    simp only [hnumeral, exists_eq_left', Option.ite_none_right_eq_some, Option.some.injEq]
    generalize (if negative = true then -(ofDigits 10 cs : Int) else ofDigits 10 cs) = value
    constructor
    · rintro ⟨hfits, rfl⟩
      exact ⟨rfl, hfits⟩
    · rintro ⟨rfl, hfits⟩
      exact ⟨hfits, rfl⟩
  · rw [if_pos (hguard.2 hcs)]
    refine ⟨nofun, ?_⟩
    rintro ⟨⟨m, hm, _⟩, _⟩
    obtain ⟨hne, hdigits, _⟩ := numeral_iff.1 hm
    exact absurd ⟨hne, hdigits⟩ hcs

/-- **The text of an integer is read as that integer.** -/
theorem readInt?_intText (h : IsInt64 n) : readInt? (intText n) = some n :=
  readInt?_eq_some_iff.2 ⟨signedNumeral_intText n, h⟩

end TaskBuilders.Number
