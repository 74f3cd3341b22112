import TaskBuilders.Proofs.Naming.ImportTable
import TaskBuilders.Proofs.Naming.Namer

/-!
# Candidates in their order

A type or container asks for the name that it prefers, and a package for the identifier of its last
element. Where that is taken, a fallback is tried, and then the fallback with the numbers from 2 on. This
row has no end, but the numbered names differ from each other, so the names that are taken cannot go on for
longer than there are any. The fallback may be the preferred name again; then it is taken, too.

* `candidate` — the row of candidates
* `exists_firstFreeAt` — the search ends with the first of them that is free
* `Namer.mint_firstFreeAt`, `ImportTable.require_firstFreeAt` — the names of keys and the aliases of packages
* `first_free_candidates` — both of them
-/

namespace TaskBuilders.Naming

variable {names : Nat → String} {i : Nat}

/-! ## The row of candidates -/

/-- What is tried in turn: the preferred name, the fallback, and the fallback with the numbers from 2 on. -/
def candidate (preferred fallback : String) : Nat → String
  | 0 => preferred
  | 1 => fallback
  | i + 2 => fallback ++ toString (i + 2)

/-- The first name of a row that is not taken stands at place `i`. -/
structure FirstFreeAt (names : Nat → String) (Taken : String → Prop) (i : Nat) : Prop where
  free : ¬ Taken (names i)
  before : ∀ j < i, Taken (names j)

theorem FirstFreeAt.congr {Taken Taken' : String → Prop} (h : FirstFreeAt names Taken i)
    (hiff : ∀ name, Taken name ↔ Taken' name) : FirstFreeAt names Taken' i where
  free htaken := h.free ((hiff _).2 htaken)
  before j hj := (hiff _).1 (h.before j hj)

/-- Numbers behind a name reach no further than there are taken names. -/
theorem number_le_of_taken {taken : List String} {base : String} {n : Nat} (hbase : base ∈ taken)
    (hbefore : ∀ k, 2 ≤ k → k < n → base ++ toString k ∈ taken) : n ≤ taken.length + 1 := by
  have hsub : candidates base (n - 2) ⊆ taken := by
    intro name hname
    rcases List.mem_cons.1 hname with rfl | hname
    · exact hbase
    · obtain ⟨k, hk, rfl⟩ := List.mem_map.1 hname
      have hk := List.mem_range.1 hk
      exact hbefore (k + 2) (by omega) (by omega)
  have hle := (nodup_candidates base (n - 2)).length_le_of_subset hsub
  rw [length_candidates] at hle
  omega

/-- **The search ends with the first candidate that is free.** It passes at most one candidate more than
there are taken names. -/
theorem exists_firstFreeAt (taken : List String) (preferred fallback : String) :
    ∃ i ≤ taken.length + 1,
      (if preferred ∈ taken then firstFree taken fallback else preferred) =
        candidate preferred fallback i ∧
      FirstFreeAt (candidate preferred fallback) (· ∈ taken) i := by
  by_cases hpreferred : preferred ∈ taken
  · rw [if_pos hpreferred]
    have hfirst := firstFree_isFirstFree taken fallback
    generalize firstFree taken fallback = name at hfirst
    cases hfirst with
    | unnumbered free =>
      refine ⟨1, by omega, rfl, free, fun j hj => ?_⟩
      obtain rfl : j = 0 := by omega
      exact hpreferred
    | numbered n two_le base_taken before_taken free =>
      have hn := number_le_of_taken base_taken before_taken
      obtain ⟨n, rfl⟩ : ∃ m, n = m + 2 := ⟨n - 2, by omega⟩
      refine ⟨n + 2, hn, rfl, free, fun j hj => ?_⟩
      match j, hj with
      | 0, _ => exact hpreferred
      | 1, _ => exact base_taken
      | j + 2, hj => exact before_taken (j + 2) (by omega) hj
  · rw [if_neg hpreferred]
    exact ⟨0, by omega, rfl, hpreferred, fun j hj => absurd hj (Nat.not_lt_zero j)⟩

/-! ## Names of keys -/

namespace Namer

variable {n : Namer} {key : String}

/-- A name belongs to a key other than `key`. -/
def OwnedByOther (n : Namer) (key ident : String) : Prop :=
  ∃ owner, n.owners.get? ident = some owner ∧ owner ≠ key

theorem mem_takenNames_iff {ident : String} : ident ∈ n.takenNames key ↔ n.OwnedByOther key ident :=
  mem_takenNames.trans takenFor_eq_true_iff

theorem length_takenNames_le (n : Namer) (key : String) : (n.takenNames key).length ≤ n.owners.size := by
  rw [takenNames, List.length_map, Dict.size]
  exact List.length_filter_le _ _

theorem choose_eq_ite (n : Namer) (key preferred source : String) : n.choose key preferred source =
    if preferred ∈ n.takenNames key then
      firstFree (n.takenNames key) (n.fallbackName source preferred)
    else preferred := by
  simp only [choose, mem_takenNames]

/-- **A key without a name gets the first candidate that no other key owns.** -/
theorem mint_firstFreeAt (hnew : n.names.get? key = none) (preferred source : String) :
    ∃ i ≤ n.owners.size + 1,
      (n.mint key preferred source).1 = candidate preferred (n.fallbackName source preferred) i ∧
      FirstFreeAt (candidate preferred (n.fallbackName source preferred)) (n.OwnedByOther key) i := by
  obtain ⟨i, hi, hname, hfirst⟩ :=
    exists_firstFreeAt (n.takenNames key) preferred (n.fallbackName source preferred)
  have hsize := n.length_takenNames_le key
  refine ⟨i, by omega, ?_, hfirst.congr fun _ => mem_takenNames_iff⟩
  rw [← hname, ← choose_eq_ite]
  simp [mint, hnew]

end Namer

/-! ## Aliases of packages -/

namespace ImportTable

variable {t : ImportTable} {p : String}

/-- An alias belongs to a package other than the one at `p`. -/
def UsedByOther (t : ImportTable) (p a : String) : Prop :=
  ∃ e ∈ t.used, e.shortName = a ∧ e.path ≠ p

/-- All aliases are those of others while a package has none. -/
theorem mem_aliases_iff_of_none (hnew : t.aliasOf? p = none) {a : String} :
    a ∈ t.aliases ↔ t.UsedByOther p a := by
  rw [aliases, List.mem_map]
  constructor
  · rintro ⟨e, he, hname⟩
    exact ⟨e, he, hname, aliasOf?_eq_none_iff.1 hnew e he⟩
  · rintro ⟨e, he, hname, _⟩
    exact ⟨e, he, hname⟩

/-- **A package without an alias gets the first candidate that no other package uses.** -/
theorem require_firstFreeAt (hnew : t.aliasOf? p = none) :
    ∃ i ≤ t.size + 1, (t.require p).1 = candidate (packageIdent p) (pathIdent p) i ∧
      FirstFreeAt (candidate (packageIdent p) (pathIdent p)) (t.UsedByOther p) i := by
  obtain ⟨i, hi, hname, hfirst⟩ := exists_firstFreeAt t.aliases (packageIdent p) (pathIdent p)
  have hsize : t.aliases.length = t.size := List.length_map _
  refine ⟨i, by omega, ?_, hfirst.congr fun _ => mem_aliases_iff_of_none hnew⟩
  rw [← hname, require_of_none hnew]
  simp [freshAlias]

end ImportTable

/-- **Names and aliases are the first candidates that are free.** In every state of a namer a key without a
name gets the first one that no other key owns, out of the name it prefers, the fallback and the numbered
fallbacks. In every state of an import table a package without an alias gets the first one that no other
package uses. Either search passes at most one candidate more than there are names. -/
theorem first_free_candidates :
    (∀ (n : Namer) (key preferred source : String), n.names.get? key = none →
      ∃ i ≤ n.owners.size + 1,
        (n.mint key preferred source).1 = candidate preferred (n.fallbackName source preferred) i ∧
        FirstFreeAt (candidate preferred (n.fallbackName source preferred)) (n.OwnedByOther key) i) ∧
    ∀ (t : ImportTable) (p : String), t.aliasOf? p = none →
      ∃ i ≤ t.size + 1, (t.require p).1 = candidate (packageIdent p) (pathIdent p) i ∧
        FirstFreeAt (candidate (packageIdent p) (pathIdent p)) (t.UsedByOther p) i :=
  ⟨fun _ _ preferred source hnew => Namer.mint_firstFreeAt hnew preferred source,
    fun _ _ hnew => ImportTable.require_firstFreeAt hnew⟩

/-- With the source root gone the fallback is the preferred name again, and a number tells the second type
from the first one. -/
example : let n := ((Namer.new "m/out" "a.").resultName "b.Path").2
    n.fallbackName "a.Path" "DSLPath" = "DSLPath" ∧ (n.resultName "a.Path").1 = "m/out.DSLPath2" := by
  decide +kernel

end TaskBuilders.Naming
