import TaskBuilders.Proofs.Text.UpperCase

/-!
# Letters and digits in lower case

A letter in lower case is a letter, and a digit has no other case. As for upper case, that is checked run
against run. Two capitals beyond ASCII have their lower case within ASCII, where their runs are looked at
apart from the table of letters.

* `isLetter_toLower` — letters stay letters
* `toLower_of_isDigit` — digits stay what they are
-/

namespace TaskBuilders.Text

/-! ## Letters -/

/-- The letters of a run are moved to lower-case letters of ASCII or to other letters. -/
def CaseShift.lowersLetters (s : CaseShift) : Bool :=
  s.image.within ⟨0x61, 0x7A, 1⟩ || s.keepsLetters

theorem lowersLetters_lowerShifts : lowerShifts.all (·.lowersLetters) = true := by decide +kernel

/-- What is moved to lower case is on the image of its run. -/
theorem image_contains_of_lowerShifts {s : CaseShift} (hs : s ∈ lowerShifts) {n : Nat}
    (hn : s.run.contains n = true) : s.image.contains ((n : Int) + s.distance).toNat = true := by
  have hland := List.all_eq_true.1 landAtRest_lowerShifts s hs
  simp only [Bool.and_eq_true, Nat.ble_eq] at hland
  exact s.image_contains (by omega) hn

theorem isLetter_of_asciiLower {n : Nat} (h : (CodeRange.mk 0x61 0x7A 1).contains n = true) :
    isLetter (Char.ofNat n) = true := by
  have hsmall : ∀ n < 0x80, (CodeRange.mk 0x61 0x7A 1).contains n = true →
      isLetter (Char.ofNat n) = true := by decide
  refine hsmall n ?_ h
  simp only [CodeRange.contains, Bool.and_eq_true, decide_eq_true_iff] at h
  omega

/-- **Letters stay letters in lower case.** -/
theorem isLetter_toLower {c : Char} (h : isLetter c = true) : isLetter (toLower c) = true := by
  have hletters : ∀ n < 0x80, isLetter (Char.ofNat n) = true →
      isLetter (Char.ofNat n).toLower = true := by decide
  by_cases hascii : isAscii c = true
  · have hlower := hletters c.toNat (of_decide_eq_true hascii)
    rw [Char.ofNat_toNat] at hlower
    rw [toLower, if_pos hascii]
    exact hlower h
  · have hletter := h
    rw [isLetter, if_neg hascii] at hletter
    rw [toLower, if_neg hascii]
    rcases shiftCase_cases lowerShifts c with ⟨_, hstays⟩ | ⟨s, hs, hrun, hmoved⟩
    · rwa [hstays]
    · have himage := image_contains_of_lowerShifts hs hrun
      have hlowers := List.all_eq_true.1 lowersLetters_lowerShifts s hs
      rw [CaseShift.lowersLetters, Bool.or_eq_true] at hlowers
      rw [hmoved]
      rcases hlowers with hsmall | hkeeps
      · exact isLetter_of_asciiLower (CodeRange.contains_of_within hsmall himage)
      · exact s.isLetter_of_keepsLetters hkeeps hletter hrun himage

/-! ## Digits -/

/-- No run of digits has a lower case. -/
def digitsRestBelow : Bool := digitTable.all fun r => lowerShifts.all fun s => r.apart s.run

theorem digitsRestBelow_eq : digitsRestBelow = true := by decide +kernel

/-- **Digits have no lower case.** -/
theorem toLower_of_isDigit {c : Char} (h : isDigit c = true) : toLower c = c := by
  have hdigits : ∀ n < 0x80, (Char.ofNat n).isDigit = true →
      (Char.ofNat n).toLower = Char.ofNat n := by decide
  by_cases hascii : isAscii c = true
  · have hlower := hdigits c.toNat (of_decide_eq_true hascii)
    rw [Char.ofNat_toNat] at hlower
    rw [isDigit, if_pos hascii] at h
    rw [toLower, if_pos hascii, hlower h]
  · rw [isDigit, if_neg hascii] at h
    rw [toLower, if_neg hascii]
    exact shiftCase_of_digit digitsRestBelow_eq h

end TaskBuilders.Text
