import TaskBuilders.Proofs.Text.Case

/-!
# Letters and digits in upper case

A letter in upper case is a letter, and a digit has no other case. Both are checked run against run:
the letters of a run are moved into a run of the table of letters, and no run of digits is moved at
all. Few runs need a look at their single letters.

* `shiftCase_cases` — a character is moved by one run, or stays
* `isLetter_toUpper` — letters stay letters
* `toUpper_of_isDigit` — digits stay what they are
* `not_asciiLower_toUpper` — no letter is moved to the lower-case letters of ASCII
-/

namespace TaskBuilders.Text

/-! ## Runs within runs -/

/-- A run lies within another one that has no gaps, or begins where the other one does and goes in
its steps. -/
def CodeRange.within (r r' : CodeRange) : Bool :=
  Nat.ble r.last r'.last && Nat.ble r'.first r.first &&
    (r'.step == 1 || r'.first == r.first && r'.step == r.step)

theorem CodeRange.contains_of_within {r r' : CodeRange} {n : Nat} (h : r.within r' = true)
    (hn : r.contains n = true) : r'.contains n = true := by
  simp only [within, Bool.and_eq_true, Bool.or_eq_true, Nat.ble_eq, beq_iff_eq] at h
  simp only [contains, Bool.and_eq_true, decide_eq_true_iff, beq_iff_eq] at hn ⊢
  obtain ⟨⟨hlast, hfirst⟩, hsteps⟩ := h
  refine ⟨⟨by omega, by omega⟩, ?_⟩
  rcases hsteps with hstep | ⟨hbegin, hstep⟩
  · rw [hstep, Nat.mod_one]
  · rw [hbegin, hstep, hn.2]

/-- The code points of a run. -/
def CodeRange.points (r : CodeRange) : List Nat :=
  (List.range ((r.last - r.first) / r.step + 1)).map (r.first + r.step * ·)

theorem CodeRange.mem_points {r : CodeRange} {n : Nat} (h : r.contains n = true) :
    n ∈ r.points := by
  simp only [contains, Bool.and_eq_true, decide_eq_true_iff, beq_iff_eq] at h
  obtain ⟨⟨hfirst, hlast⟩, hstep⟩ := h
  refine List.mem_map.2 ⟨(n - r.first) / r.step, ?_, ?_⟩
  · have hle : (n - r.first) / r.step ≤ (r.last - r.first) / r.step :=
      Nat.div_le_div_right (by omega)
    exact List.mem_range.2 (by omega)
  · have hdivide := Nat.div_add_mod (n - r.first) r.step
    omega

/-! ## Moved characters -/

/-- A character stays where it is when no run holds it; otherwise some run moves it. -/
theorem shiftCase_cases (shifts : List CaseShift) (c : Char) :
    (∀ s ∈ shifts, s.run.contains c.toNat = false) ∧ shiftCase shifts c = c ∨
      ∃ s ∈ shifts, s.run.contains c.toNat = true ∧
        shiftCase shifts c = Char.ofNat ((c.toNat : Int) + s.distance).toNat := by
  unfold shiftCase
  split
  · next s hs =>
    have hrun : s.run.contains c.toNat = true := by simpa using List.find?_some hs
    exact Or.inr ⟨s, List.mem_of_find?_eq_some hs, hrun, rfl⟩
  · next hnone => exact Or.inl ⟨fun s hs => by simpa using List.find?_eq_none.1 hnone s hs, rfl⟩

theorem toNat_ofNat_of_lt {n : Nat} (h : n < 0xD800 ∨ 0xDFFF < n ∧ n < 0x110000) :
    (Char.ofNat n).toNat = n := by
  have hvalid : n.isValidChar := h
  rw [Char.ofNat, dif_pos hvalid]
  rfl

/-! ## Letters -/

/-- A run of the table of letters has characters only, and none of ASCII. -/
def CodeRange.proper (r : CodeRange) : Bool :=
  Nat.ble 0x80 r.first &&
    (Nat.blt r.last 0xD800 || Nat.blt 0xDFFF r.first && Nat.blt r.last 0x110000)

theorem proper_letterTable : letterTable.all (·.proper) = true := by decide +kernel

theorem isLetter_ofNat_of_contains {r : CodeRange} (hr : r ∈ letterTable) {n : Nat}
    (hn : r.contains n = true) : isLetter (Char.ofNat n) = true := by
  have hproper := List.all_eq_true.1 proper_letterTable r hr
  simp only [CodeRange.proper, Bool.and_eq_true, Bool.or_eq_true, Nat.ble_eq, Nat.blt_eq] at hproper
  have hbounds := hn
  simp only [CodeRange.contains, Bool.and_eq_true, decide_eq_true_iff] at hbounds
  have htoNat : (Char.ofNat n).toNat = n := toNat_ofNat_of_lt (by omega)
  have hascii : ¬ isAscii (Char.ofNat n) = true := by
    simp only [isAscii, htoNat, decide_eq_true_iff]
    omega
  rw [isLetter, if_neg hascii, onRuns, htoNat]
  exact List.any_eq_true.2 ⟨r, hr, hn⟩

/-- A run lies within a run of the table of letters, or within the capitals of ASCII. -/
def CodeRange.amongLetters (r : CodeRange) : Bool :=
  r.within ⟨0x41, 0x5A, 1⟩ || letterTable.any (r.within ·)

theorem CodeRange.isLetter_of_amongLetters {r : CodeRange} (h : r.amongLetters = true) {n : Nat}
    (hn : r.contains n = true) : isLetter (Char.ofNat n) = true := by
  rw [amongLetters, Bool.or_eq_true] at h
  rcases h with hascii | htable
  · have hcapitals : ∀ n < 0x80, (CodeRange.mk 0x41 0x5A 1).contains n = true →
        isLetter (Char.ofNat n) = true := by decide
    have hcontains := contains_of_within hascii hn
    refine hcapitals n ?_ hcontains
    simp only [contains, Bool.and_eq_true, decide_eq_true_iff] at hcontains
    omega
  · obtain ⟨r', hr', hwithin⟩ := List.any_eq_true.1 htable
    exact isLetter_ofNat_of_contains hr' (contains_of_within hwithin hn)

/-- The letters of a run are moved to letters, as a whole or one by one, or it has no letters. -/
def CaseShift.keepsLetters (s : CaseShift) : Bool :=
  s.image.amongLetters || letterTable.all (s.run.apart ·) ||
    s.image.points.all fun n => (CodeRange.mk n n 1).amongLetters

/-- A run is moved to positive code points that are no lower-case letters of ASCII. -/
def CaseShift.leavesAsciiLower (s : CaseShift) : Bool :=
  Nat.blt 0 s.image.first && (Nat.blt s.image.last 0x61 || Nat.blt 0x7A s.image.first)

theorem keepsLetters_upperShifts : upperShifts.all (·.keepsLetters) = true := by decide +kernel

theorem leavesAsciiLower_upperShifts : upperShifts.all (·.leavesAsciiLower) = true := by
  decide +kernel

/-- What is moved to upper case is on the image of its run. -/
theorem image_contains_of_upperShifts {s : CaseShift} (hs : s ∈ upperShifts) {n : Nat}
    (hn : s.run.contains n = true) : s.image.contains ((n : Int) + s.distance).toNat = true := by
  have hleaves := List.all_eq_true.1 leavesAsciiLower_upperShifts s hs
  simp only [CaseShift.leavesAsciiLower, Bool.and_eq_true, Nat.blt_eq] at hleaves
  exact s.image_contains hleaves.1 hn

/-- A run that keeps its letters moves each of them to a letter. -/
theorem CaseShift.isLetter_of_keepsLetters {s : CaseShift} (hkeeps : s.keepsLetters = true) {c : Char}
    (hletter : onRuns letterTable c = true) (hrun : s.run.contains c.toNat = true) {n : Nat}
    (himage : s.image.contains n = true) : isLetter (Char.ofNat n) = true := by
  simp only [keepsLetters, Bool.or_eq_true] at hkeeps
  rcases hkeeps with (hamong | hapart) | hpoints
  · exact CodeRange.isLetter_of_amongLetters hamong himage
  · -- the run has no letters, but this is one
    obtain ⟨r, hr, hc⟩ := List.any_eq_true.1 hletter
    have hnot := CodeRange.contains_of_apart (List.all_eq_true.1 hapart r hr) hrun
    rw [hnot] at hc
    cases hc
  · have hamong := List.all_eq_true.1 hpoints _ (CodeRange.mem_points himage)
    exact CodeRange.isLetter_of_amongLetters hamong (by simp [CodeRange.contains])

theorem isLetter_shiftCase {c : Char} (h : onRuns letterTable c = true)
    (hascii : ¬ isAscii c = true) :
    isLetter (shiftCase upperShifts c) = true := by
  rcases shiftCase_cases upperShifts c with ⟨_, hstays⟩ | ⟨s, hs, hrun, hmoved⟩
  · rw [hstays, isLetter, if_neg hascii, h]
  · have hkeeps := List.all_eq_true.1 keepsLetters_upperShifts s hs
    rw [hmoved]
    exact s.isLetter_of_keepsLetters hkeeps h hrun (image_contains_of_upperShifts hs hrun)

/-- **Letters stay letters in upper case.** -/
theorem isLetter_toUpper {c : Char} (h : isLetter c = true) : isLetter (toUpper c) = true := by
  have hletters : ∀ n < 0x80, isLetter (Char.ofNat n) = true →
      isLetter (Char.ofNat n).toUpper = true := by decide
  by_cases hascii : isAscii c = true
  · have hupper := hletters c.toNat (of_decide_eq_true hascii)
    rw [Char.ofNat_toNat] at hupper
    rw [toUpper, if_pos hascii]
    exact hupper h
  · rw [isLetter, if_neg hascii] at h
    rw [toUpper, if_neg hascii]
    exact isLetter_shiftCase h hascii

/-- A lower-case letter of ASCII. -/
def AsciiLower (c : Char) : Prop := 0x61 ≤ c.toNat ∧ c.toNat ≤ 0x7A

instance (c : Char) : Decidable (AsciiLower c) := inferInstanceAs (Decidable (_ ∧ _))

/-- **Nothing is moved to the lower-case letters of ASCII.** -/
theorem not_asciiLower_toUpper (c : Char) : ¬ AsciiLower (toUpper c) := by
  have hupper : ∀ n < 0x80, ¬ AsciiLower (Char.ofNat n).toUpper := by decide
  by_cases hascii : isAscii c = true
  · have hc := hupper c.toNat (of_decide_eq_true hascii)
    rw [Char.ofNat_toNat] at hc
    rwa [toUpper, if_pos hascii]
  · rw [toUpper, if_neg hascii]
    have hlarge : 0x80 ≤ c.toNat := by simpa [isAscii] using hascii
    rcases shiftCase_cases upperShifts c with ⟨_, hstays⟩ | ⟨s, hs, hrun, hmoved⟩
    · rw [hstays, AsciiLower]
      omega
    · have himage := image_contains_of_upperShifts hs hrun
      have hleaves := List.all_eq_true.1 leavesAsciiLower_upperShifts s hs
      simp only [CaseShift.leavesAsciiLower, Bool.and_eq_true, Bool.or_eq_true,
        Nat.blt_eq] at hleaves
      simp only [CodeRange.contains, Bool.and_eq_true, decide_eq_true_iff] at himage
      rw [hmoved, AsciiLower]
      generalize ((c.toNat : Int) + s.distance).toNat = n at himage
      by_cases hvalid : n.isValidChar
      · rw [toNat_ofNat_of_lt hvalid]
        omega
      · rw [Char.ofNat, dif_neg hvalid]
        decide

/-! ## Digits -/

/-- A digit stays where it is when no run of digits is moved. -/
theorem shiftCase_of_digit {shifts : List CaseShift}
    (hrest : (digitTable.all fun r => shifts.all fun s => r.apart s.run) = true) {c : Char}
    (h : onRuns digitTable c = true) : shiftCase shifts c = c := by
  rcases shiftCase_cases shifts c with ⟨_, hstays⟩ | ⟨s, hs, hrun, _⟩
  · exact hstays
  · obtain ⟨r, hr, hdigit⟩ := List.any_eq_true.1 h
    have hapart := List.all_eq_true.1 (List.all_eq_true.1 hrest r hr) s hs
    rw [CodeRange.contains_of_apart hapart hdigit] at hrun
    cases hrun

/-- No run of digits is moved. -/
def digitsRest : Bool := digitTable.all fun r => upperShifts.all fun s => r.apart s.run

theorem digitsRest_eq : digitsRest = true := by decide +kernel

/-- **Digits have no upper case.** -/
theorem toUpper_of_isDigit {c : Char} (h : isDigit c = true) : toUpper c = c := by
  have hdigits : ∀ n < 0x80, (Char.ofNat n).isDigit = true →
      (Char.ofNat n).toUpper = Char.ofNat n := by decide
  by_cases hascii : isAscii c = true
  · have hupper := hdigits c.toNat (of_decide_eq_true hascii)
    rw [Char.ofNat_toNat] at hupper
    rw [isDigit, if_pos hascii] at h
    rw [toUpper, if_pos hascii, hupper h]
  · rw [isDigit, if_neg hascii] at h
    rw [toUpper, if_neg hascii]
    exact shiftCase_of_digit digitsRest_eq h

/-- Letters and digits stay letters and digits. -/
theorem isWordChar_toUpper {c : Char} (h : isWordChar c = true) :
    isWordChar (toUpper c) = true := by
  rw [isWordChar, Bool.or_eq_true] at h ⊢
  rcases h with hletter | hdigit
  · exact Or.inl (isLetter_toUpper hletter)
  · exact Or.inr (by rwa [toUpper_of_isDigit hdigit])

end TaskBuilders.Text
