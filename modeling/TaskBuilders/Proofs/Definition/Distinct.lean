import Mathlib.Data.List.Basic
import Mathlib.Data.List.Induction
import TaskBuilders.Definition.Basic

/-!
# Members at their first occurrence

`distinct` goes over a list and keeps a member unless it was there before. It is the library's
`eraseDups`, and the members that are kept stand in the order in which they occur first.

* `distinct_append_singleton` — one member more
* `pairwise_distinct` — the order is that of first occurrences
* `distinct_flatMap_distinct` — repetitions may be dropped early
-/

namespace TaskBuilders

/-- Keeps a member, latest first, unless it is there. -/
def keepNew (seen : List String) (x : String) : List String :=
  if seen.contains x then seen else x :: seen

theorem distinct_eq_foldl (xs : List String) : distinct xs = (xs.foldl keepNew []).reverse := rfl

theorem mem_foldl_keepNew (xs : List String) (seen : List String) (y : String) :
    y ∈ xs.foldl keepNew seen ↔ y ∈ seen ∨ y ∈ xs := by
  induction xs generalizing seen with
  | nil => simp
  | cons x xs ih =>
    rw [List.foldl_cons, ih, keepNew]
    split
    · next hx =>
      have hx : x ∈ seen := List.contains_iff_mem.1 hx
      grind
    · grind

@[simp] theorem mem_distinct (xs : List String) (y : String) : y ∈ distinct xs ↔ y ∈ xs := by
  simp [distinct_eq_foldl, mem_foldl_keepNew]

/-- A member behind all others is kept if it is new. -/
theorem distinct_append_singleton (xs : List String) (x : String) :
    distinct (xs ++ [x]) = if x ∈ xs then distinct xs else distinct xs ++ [x] := by
  have hmem : (xs.foldl keepNew []).contains x = true ↔ x ∈ xs := by
    simp [mem_foldl_keepNew]
  rw [distinct_eq_foldl, List.foldl_append, List.foldl_cons, List.foldl_nil, keepNew]
  by_cases hx : x ∈ xs
  · rw [if_pos hx, if_pos (hmem.2 hx), distinct_eq_foldl]
  · rw [if_neg hx, if_neg (mt hmem.1 hx), List.reverse_cons, distinct_eq_foldl]

/-- **Members stand in the order in which they occur first.** -/
theorem pairwise_distinct (xs : List String) :
    (distinct xs).Pairwise fun a b => xs.idxOf a < xs.idxOf b := by
  induction xs using List.reverseRecOn with
  | nil => exact .nil
  | append_singleton xs x ih =>
    have hold : (distinct xs).Pairwise fun a b => (xs ++ [x]).idxOf a < (xs ++ [x]).idxOf b := by
      refine ih.imp_of_mem fun {a b} ha hb hab => ?_
      rwa [List.idxOf_append_of_mem ((mem_distinct xs a).1 ha),
        List.idxOf_append_of_mem ((mem_distinct xs b).1 hb)]
    rw [distinct_append_singleton]
    split
    · exact hold
    · next hx =>
      refine List.pairwise_append.2 ⟨hold, List.pairwise_singleton _ x, fun a ha b hb => ?_⟩
      -- what is new occurs behind everything else
      obtain rfl := List.mem_singleton.1 hb
      have ha := (mem_distinct xs a).1 ha
      rw [List.idxOf_append_of_mem ha, List.idxOf_append_of_notMem hx]
      have := List.idxOf_lt_length_of_mem ha
      omega

/-- The distinct members of a list are those that are left when repetitions are erased. -/
theorem distinct_eq_eraseDups (xs : List String) : distinct xs = xs.eraseDups := by
  have hloop : ∀ (xs seen : List String),
      (xs.foldl (fun seen x => if seen.contains x then seen else x :: seen) seen).reverse =
        List.eraseDupsBy.loop (· == ·) xs seen := by
    intro xs
    induction xs with
    | nil => exact fun _ => rfl
    | cons x xs ih =>
      intro seen
      rw [List.foldl_cons, ih, List.eraseDupsBy.loop, List.contains_eq_any_beq]
      cases seen.any (x == ·) <;> rfl
  exact hloop xs []

theorem nodup_distinct (xs : List String) : (distinct xs).Nodup :=
  (pairwise_distinct xs).imp fun {a b} hlt (hab : a = b) => by
    rw [hab] at hlt
    exact Nat.lt_irrefl _ hlt

/-! ## Early repetitions -/

/-- What was kept of a list stands for the list. -/
theorem foldl_keepNew_distinct (xs seen : List String) :
    (distinct xs).foldl keepNew seen = xs.foldl keepNew seen := by
  induction xs using List.reverseRecOn with
  | nil => rfl
  | append_singleton xs x ih =>
    rw [distinct_append_singleton, List.foldl_append, List.foldl_cons, List.foldl_nil]
    split
    · next hx =>
      have hmem : (xs.foldl keepNew seen).contains x = true := by
        simp [mem_foldl_keepNew, hx]
      rw [ih, keepNew, if_pos hmem]
    · rw [List.foldl_append, ih, List.foldl_cons, List.foldl_nil]

/-- **Repetitions may be dropped early**, in every part of a list on its own. -/
theorem distinct_flatMap_distinct {α : Type} (f : α → List String) (as : List α) :
    distinct (as.flatMap fun a => distinct (f a)) = distinct (as.flatMap f) := by
  have hfold : ∀ seen, (as.flatMap fun a => distinct (f a)).foldl keepNew seen =
      (as.flatMap f).foldl keepNew seen := by
    induction as with
    | nil => exact fun _ => rfl
    | cons a as ih =>
      intro seen
      rw [List.flatMap_cons, List.flatMap_cons, List.foldl_append, List.foldl_append, ih,
        foldl_keepNew_distinct]
  rw [distinct_eq_foldl, hfold, distinct_eq_foldl]

end TaskBuilders
