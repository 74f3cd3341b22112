import TaskBuilders.Text.Letter

/-!
# Lower case is reached in one step

A run of letters is moved as a whole, and where it arrives no run begins. That is checked run against
run, without a look at single letters.

* `CodeRange.contains_of_apart` — runs that end before each other, or alternate, have nothing in common
* `toLower_toLower` — a letter in lower case stays where it is
* `lowercase_lowercase` — and so does a text
-/

namespace TaskBuilders.Text

/-! ## Runs -/

/-- One run ends before the other begins, or they take turns. -/
def CodeRange.apart (r r' : CodeRange) : Bool :=
  Nat.blt r.last r'.first || Nat.blt r'.last r.first ||
    ((r.step == 2 || r.first == r.last) && r'.step == 2 && r.first % 2 != r'.first % 2)

theorem CodeRange.contains_of_apart {r r' : CodeRange} {n : Nat} (h : r.apart r' = true)
    (hn : r.contains n = true) : r'.contains n = false := by
  simp only [apart, Bool.or_eq_true, Bool.and_eq_true, Nat.blt_eq, beq_iff_eq, bne_iff_ne] at h
  simp only [contains, Bool.and_eq_true, decide_eq_true_iff, beq_iff_eq] at hn
  rw [Bool.eq_false_iff]
  simp only [contains, ne_eq, Bool.and_eq_true, decide_eq_true_iff, beq_iff_eq]
  rintro ⟨⟨hfirst, hlast⟩, hstep⟩
  rcases h with (h | h) | ⟨⟨hr, hr'⟩, hparity⟩
  · omega
  · omega
  · rw [hr'] at hstep
    rcases hr with hr | hr
    · rw [hr] at hn
      omega
    · omega

/-- Where a run is moved to. -/
def CaseShift.image (s : CaseShift) : CodeRange :=
  ⟨((s.run.first : Int) + s.distance).toNat, ((s.run.last : Int) + s.distance).toNat, s.run.step⟩

/-- A moved code point is on the image of its run, unless the run is moved below `first`. -/
theorem CaseShift.image_contains {s : CaseShift} {n : Nat} (hfirst : 0 < s.image.first)
    (hn : s.run.contains n = true) : s.image.contains ((n : Int) + s.distance).toNat = true := by
  simp only [image] at hfirst
  simp only [CodeRange.contains, Bool.and_eq_true, decide_eq_true_iff, beq_iff_eq] at hn
  have hdifference : ((n : Int) + s.distance).toNat - ((s.run.first : Int) + s.distance).toNat =
      n - s.run.first := by omega
  have hbegin : ((s.run.first : Int) + s.distance).toNat ≤ ((n : Int) + s.distance).toNat := by omega
  have hend : ((n : Int) + s.distance).toNat ≤ ((s.run.last : Int) + s.distance).toNat := by omega
  simp [CodeRange.contains, image, hbegin, hend, hdifference, hn.2]

/-- All runs arrive behind the upper-case letters of ASCII, and where no run begins. -/
def landAtRest (shifts : List CaseShift) : Bool :=
  shifts.all fun s => Nat.ble 0x5B s.image.first && shifts.all fun s' => s.image.apart s'.run

theorem landAtRest_lowerShifts : landAtRest lowerShifts = true := by decide +kernel

/-! ## Letters and texts -/

/-- Behind the upper-case letters, ASCII has nothing to lower. -/
theorem toLower_of_ascii {c : Char} (hascii : isAscii c = true) (h : c.toNat = 0 ∨ 0x5B ≤ c.toNat) :
    toLower c = c := by
  have hall : ∀ n < 0x80, n = 0 ∨ 0x5B ≤ n → (Char.ofNat n).toLower = Char.ofNat n := by decide
  have hc := hall c.toNat (of_decide_eq_true hascii) h
  rw [Char.ofNat_toNat] at hc
  rw [toLower, if_pos hascii, hc]

theorem toLower_of_not_contains {c : Char} (hc : 0x80 ≤ c.toNat)
    (h : ∀ s ∈ lowerShifts, s.run.contains c.toNat = false) : toLower c = c := by
  have hnone : lowerShifts.find? (·.run.contains c.toNat) = none :=
    List.find?_eq_none.2 fun s hs => by simp [h s hs]
  rw [toLower, if_neg (by simp [isAscii]; omega), shiftCase, hnone]

theorem toLower_shiftCase (c : Char) (hc : 0x80 ≤ c.toNat) :
    toLower (shiftCase lowerShifts c) = shiftCase lowerShifts c := by
  unfold shiftCase
  split
  · next s hs =>
    have hmem := List.mem_of_find?_eq_some hs
    have hland := List.all_eq_true.1 landAtRest_lowerShifts s hmem
    simp only [Bool.and_eq_true, Nat.ble_eq, List.all_eq_true] at hland
    obtain ⟨hfirst, hapart⟩ := hland
    have hrun : s.run.contains c.toNat = true := by simpa using List.find?_some hs
    have himage := s.image_contains (by omega) hrun
    have hbehind : s.image.first ≤ ((c.toNat : Int) + s.distance).toNat := by
      simp only [CodeRange.contains, Bool.and_eq_true, decide_eq_true_iff] at himage
      exact himage.1.1
    generalize hn : ((c.toNat : Int) + s.distance).toNat = n at himage hbehind
    by_cases hvalid : n.isValidChar
    · have htoNat : (Char.ofNat n).toNat = n := by
        rw [Char.ofNat, dif_pos hvalid]
        rfl
      by_cases hascii : n < 0x80
      · exact toLower_of_ascii (by simp [isAscii, htoNat, hascii]) (Or.inr (by omega))
      · refine toLower_of_not_contains (by omega) fun s' hs' => ?_
        rw [htoNat]
        exact CodeRange.contains_of_apart (hapart s' hs') himage
    · -- what is no character becomes the null character
      have htoNat : (Char.ofNat n).toNat = 0 := by
        rw [Char.ofNat, dif_neg hvalid]
        rfl
      exact toLower_of_ascii (by simp [isAscii, htoNat]) (Or.inl htoNat)
  · next hnone =>
    refine toLower_of_not_contains hc fun s hs => ?_
    simpa using List.find?_eq_none.1 hnone s hs

/-- **A letter in lower case stays where it is.** -/
@[simp] theorem toLower_toLower (c : Char) : toLower (toLower c) = toLower c := by
  have hascii : ∀ n < 0x80, isAscii (Char.ofNat n).toLower = true ∧
      (Char.ofNat n).toLower.toLower = (Char.ofNat n).toLower := by decide
  by_cases hc : isAscii c = true
  · obtain ⟨hlower, hfixed⟩ := hascii c.toNat (of_decide_eq_true hc)
    rw [Char.ofNat_toNat] at hlower hfixed
    rw [toLower, toLower, if_pos hc, if_pos hlower, hfixed]
  · have hlower : toLower c = shiftCase lowerShifts c := by rw [toLower, if_neg hc]
    rw [hlower]
    exact toLower_shiftCase c (by simpa [isAscii] using hc)

/-- A text in lower case stays as it is. -/
@[simp] theorem lowercase_lowercase (s : String) : lowercase (lowercase s) = lowercase s := by
  simp [lowercase, Function.comp_def]

end TaskBuilders.Text
