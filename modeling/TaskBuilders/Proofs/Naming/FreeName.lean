import TaskBuilders.Naming.FreeName

/-!
# The first free name

* `firstFree_not_mem` — the name that is found is free
* `firstFree_eq` — it is the base or the base with a number behind it
* `firstFree_of_not_mem` — it is the base where that is free
* `firstFree_isFirstFree` — otherwise it has the first number that makes it free

The candidates are distinct and there is one more of them than there are taken names, so not all of
them can be taken.
-/

namespace TaskBuilders.Naming

/-- Different numbers behind one base make different names. -/
theorem append_toString_inj {base : String} {m n : Nat} :
    base ++ toString m = base ++ toString n ↔ m = n := by
  refine ⟨fun h => ?_, fun h => by rw [h]⟩
  have hlists : base.toList ++ (toString m).toList = base.toList ++ (toString n).toList := by
    rw [← String.toList_append, h, String.toList_append]
  have hdigits : (toString m).toList = (toString n).toList := List.append_cancel_left hlists
  have hvalue := congrArg (Nat.ofDigitChars 10 · 0) hdigits
  simpa only [Nat.toString_eq_repr, Nat.toList_repr, Nat.ofDigitChars_ten_toDigits] using hvalue

theorem toString_ne_empty (n : Nat) : toString n ≠ "" := by
  intro h
  have hnil : Nat.toDigits 10 n = [] := by
    simpa only [Nat.toString_eq_repr, Nat.toList_repr, String.toList_empty]
      using congrArg String.toList h
  exact Nat.toDigits_ne_nil hnil

/-- A number is written in digits. -/
theorem isDigit_of_mem_toString {n : Nat} {c : Char} (h : c ∈ (toString n).toList) :
    c.isDigit = true := by
  rw [Nat.toString_eq_repr, Nat.toList_repr] at h
  exact Nat.isDigit_of_mem_toDigits (by decide) (by decide) h

theorem append_ne_self {base tail : String} (h : tail ≠ "") : base ++ tail ≠ base := by
  intro he
  refine h (String.toList_inj.1 ?_)
  simpa using congrArg String.toList he

/-- The candidates for a name are distinct. -/
theorem nodup_candidates (base : String) (count : Nat) : (candidates base count).Nodup := by
  rw [candidates, List.nodup_cons]
  constructor
  · intro hm
    obtain ⟨i, _, hi⟩ := List.mem_map.1 hm
    exact append_ne_self (toString_ne_empty _) hi
  · rw [List.Nodup, List.pairwise_map]
    refine List.nodup_range.imp fun {i j} hij he => hij ?_
    have := append_toString_inj.1 he
    omega

theorem length_candidates (base : String) (count : Nat) :
    (candidates base count).length = count + 1 := by
  simp [candidates]

/-- Of one candidate more than there are taken names, one is free. -/
theorem exists_free_candidate (taken : List String) (base : String) :
    ∃ n ∈ candidates base taken.length, n ∉ taken := by
  refine Classical.byContradiction fun hno => ?_
  have hsub : candidates base taken.length ⊆ taken := fun n hn =>
    Classical.byContradiction fun ht => hno ⟨n, hn, ht⟩
  have hle := (nodup_candidates base taken.length).length_le_of_subset hsub
  rw [length_candidates] at hle
  omega

theorem find?_firstFree (taken : List String) (base : String) :
    (candidates base taken.length).find? (fun n => !taken.contains n)
      = some (firstFree taken base) := by
  obtain ⟨n, hn, hfree⟩ := exists_free_candidate taken base
  cases h : (candidates base taken.length).find? (fun n => !taken.contains n) with
  | none =>
    have := List.find?_eq_none.1 h n hn
    simp [hfree] at this
  | some m => rw [firstFree, h, Option.getD_some]

/-- **The name that is found is free.** -/
theorem firstFree_not_mem (taken : List String) (base : String) : firstFree taken base ∉ taken := by
  have h := List.find?_some (find?_firstFree taken base)
  simpa using h

/-- The name that is found is the base, or the base with a number behind it. -/
theorem firstFree_eq (taken : List String) (base : String) :
    firstFree taken base = base ∨ ∃ i, firstFree taken base = base ++ toString (i + 2) := by
  have h := List.mem_of_find?_eq_some (find?_firstFree taken base)
  rw [candidates, List.mem_cons, List.mem_map] at h
  rcases h with h | ⟨i, _, hi⟩
  · exact Or.inl h
  · exact Or.inr ⟨i, hi.symm⟩

/-- A base that is free is found itself. -/
theorem firstFree_of_not_mem {taken : List String} {base : String} (h : base ∉ taken) :
    firstFree taken base = base := by
  have hfind := find?_firstFree taken base
  rw [candidates, List.find?_cons_of_pos (by simpa using h)] at hfind
  exact (Option.some.inj hfind).symm

/-- What the search for a free name ends with: the base where that is free, and otherwise the base
with the first number from 2 on that makes it free. -/
inductive IsFirstFree (taken : List String) (base : String) : String → Prop where
  | unnumbered (free : base ∉ taken) : IsFirstFree taken base base
  | numbered (n : Nat) (two_le : 2 ≤ n) (base_taken : base ∈ taken)
      (before_taken : ∀ k, 2 ≤ k → k < n → base ++ toString k ∈ taken)
      (free : base ++ toString n ∉ taken) : IsFirstFree taken base (base ++ toString n)

theorem getElem?_candidates_succ {base : String} {count i : Nat} (h : i < count) :
    (candidates base count)[i + 1]? = some (base ++ toString (i + 2)) := by
  simp [candidates, h]

/-- **The search ends, and with the first name that is free.** -/
theorem firstFree_isFirstFree (taken : List String) (base : String) :
    IsFirstFree taken base (firstFree taken base) := by
  obtain ⟨_, i, hi, hname, hbefore⟩ := List.find?_eq_some_iff_getElem.1 (find?_firstFree taken base)
  have hfree := firstFree_not_mem taken base
  have htaken : ∀ j name, j < i → (candidates base taken.length)[j]? = some name →
      name ∈ taken := by
    intro j name hj hget
    obtain ⟨_, rfl⟩ := List.getElem?_eq_some_iff.1 hget
    simpa using hbefore j hj
  rw [length_candidates] at hi
  have hget : (candidates base taken.length)[i]? = some (firstFree taken base) :=
    List.getElem?_eq_some_iff.2 ⟨_, hname⟩
  cases i with
  | zero =>
    rw [← Option.some.inj hget] at hfree ⊢
    exact .unnumbered hfree
  | succ i =>
    have hnumber : firstFree taken base = base ++ toString (i + 2) := by
      rw [getElem?_candidates_succ (by omega)] at hget
      exact (Option.some.inj hget).symm
    rw [hnumber] at hfree ⊢
    refine .numbered (i + 2) (by omega) (htaken 0 base (by omega) rfl) (fun k hk hki => ?_) hfree
    refine htaken (k - 1) _ (by omega) ?_
    obtain ⟨k, rfl⟩ : ∃ k', k = k' + 2 := ⟨k - 2, by omega⟩
    exact getElem?_candidates_succ (by omega)

theorem firstFree_eq_empty_iff (taken : List String) (base : String) :
    firstFree taken base = "" ↔ base = "" ∧ "" ∉ taken := by
  constructor
  · intro h
    rcases firstFree_eq taken base with hbase | ⟨i, hi⟩
    · have hfree := firstFree_not_mem taken base
      rw [h] at hbase hfree
      exact ⟨hbase.symm, hfree⟩
    · -- the number behind the base is not empty
      rw [h] at hi
      have hnil := congrArg String.toList hi
      rw [String.toList_append] at hnil
      have hdigits : (toString (i + 2)).toList = [] := (List.append_eq_nil_iff.1 hnil.symm).2
      exact absurd (String.toList_inj.1 hdigits) (toString_ne_empty _)
  · rintro ⟨rfl, hfree⟩
    exact firstFree_of_not_mem hfree

end TaskBuilders.Naming
