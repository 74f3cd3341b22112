import Mathlib.Data.List.Basic
import Mathlib.Logic.Relation

/-!
# Dependencies of targets

A table of dependencies makes a graph of names. Unfolding it from some names gives a forest, and the
post-order of that forest names every target behind all that it depends on, as often as it is depended
on. Each name counts where it comes first.

* `Unfolds` — the post-order of the unfolded dependencies
* `Unfolds.mem_iff` — it names what can be reached
* `Settled` — targets that are done, each once and after its dependencies
* `Settled.comes_before` — what a target depends on was done before it
* `reverse_recorded` — recording a post-order keeps the first of each name
-/

namespace TaskBuilders.Script

open Relation

variable {deps : String → Option (List String)}

/-- A declared target depends on a name. -/
def DependsOn (deps : String → Option (List String)) (a b : String) : Prop :=
  ∃ ds, deps a = some ds ∧ b ∈ ds

/-- A name is one of several names or something that they depend on, directly or not. -/
def ReachableFrom (deps : String → Option (List String)) (names : List String) (b : String) : Prop :=
  ∃ a ∈ names, ReflTransGen (DependsOn deps) a b

/-! ## Unfolding -/

/-- What several names unfold to, in post-order: what a target depends on comes before it, in the
written order. -/
inductive Unfolds (deps : String → Option (List String)) : List String → List String → Prop where
  | nil : Unfolds deps [] []
  | cons {name : String} {names ds below rest : List String} (declared : deps name = some ds)
      (inner : Unfolds deps ds below) (later : Unfolds deps names rest) :
      Unfolds deps (name :: names) (below ++ name :: rest)

namespace Unfolds

variable {names w : List String}

theorem unique (h : Unfolds deps names w) {w' : List String} (h' : Unfolds deps names w') :
    w = w' := by
  induction h generalizing w' with
  | nil => cases h'; rfl
  | cons declared _ _ ihinner ihlater =>
    cases h' with
    | cons declared' inner' later' =>
      obtain rfl := Option.some.inj (declared.symm.trans declared')
      rw [ihinner inner', ihlater later']

/-- **Names unfold to what can be reached from them.** -/
theorem mem_iff (h : Unfolds deps names w) (b : String) : b ∈ w ↔ ReachableFrom deps names b := by
  induction h with
  | nil => simp [ReachableFrom]
  | @cons name names ds below rest declared _ _ ihinner ihlater =>
    have hname : b ∈ below ∨ b = name ↔ ReflTransGen (DependsOn deps) name b := by
      rw [ihinner]
      constructor
      · rintro (⟨d, hd, hpath⟩ | rfl)
        · exact .head ⟨ds, declared, hd⟩ hpath
        · exact .refl
      · intro hpath
        rcases hpath.cases_head with rfl | ⟨d, ⟨ds', hds', hd⟩, hpath⟩
        · exact Or.inr rfl
        · obtain rfl := Option.some.inj (declared.symm.trans hds')
          exact Or.inl ⟨d, hd, hpath⟩
    rw [List.mem_append, List.mem_cons, ← or_assoc, hname, ihlater]
    simp [ReachableFrom]

theorem subset (h : Unfolds deps names w) : ∀ a ∈ names, a ∈ w :=
  fun a ha => (h.mem_iff a).2 ⟨a, ha, .refl⟩

theorem append (h : Unfolds deps names w) {names' w' : List String} (h' : Unfolds deps names' w') :
    Unfolds deps (names ++ names') (w ++ w') := by
  induction h with
  | nil => exact h'
  | cons declared inner _ _ ih =>
    rw [List.append_assoc]
    exact .cons declared inner ih

/-- Names unfold when each of them does. -/
theorem of_each {P : String → Prop} : ∀ {names : List String},
    (∀ a ∈ names, ∃ w, Unfolds deps [a] w ∧ ∀ b ∈ w, P b) → ∃ w, Unfolds deps names w ∧ ∀ b ∈ w, P b
  | [], _ => ⟨[], .nil, by simp⟩
  | a :: names, h => by
    obtain ⟨w, hw, hP⟩ := h a List.mem_cons_self
    obtain ⟨rest, hrest, hP'⟩ := of_each fun b hb => h b (List.mem_cons_of_mem a hb)
    exact ⟨w ++ rest, hw.append hrest, fun b hb => (List.mem_append.1 hb).elim (hP b) (hP' b)⟩

end Unfolds

/-! ## Targets that are done -/

/-- Targets that are done, the latest first: each is declared, was done once, and after all that it
depends on. -/
inductive Settled (deps : String → Option (List String)) : List String → Prop where
  | nil : Settled deps []
  | cons {name : String} {ds done : List String} (declared : deps name = some ds)
      (new : name ∉ done) (after : ∀ d ∈ ds, d ∈ done) (rest : Settled deps done) :
      Settled deps (name :: done)

namespace Settled

variable {done : List String}

theorem nodup (h : Settled deps done) : done.Nodup := by
  induction h with
  | nil => exact .nil
  | cons _ new _ _ ih => exact List.nodup_cons.2 ⟨new, ih⟩

/-- What a target that is done depends on is done. -/
theorem closed (h : Settled deps done) {a b : String} (ha : a ∈ done) (hab : DependsOn deps a b) :
    b ∈ done := by
  induction h with
  | nil => cases ha
  | @cons name ds done declared _ after _ ih =>
    rcases List.mem_cons.1 ha with rfl | ha
    · obtain ⟨ds', hds', hb⟩ := hab
      obtain rfl := Option.some.inj (declared.symm.trans hds')
      exact List.mem_cons_of_mem _ (after b hb)
    · exact List.mem_cons_of_mem _ (ih ha)

theorem of_append {later : List String} (h : Settled deps (later ++ done)) : Settled deps done := by
  induction later with
  | nil => exact h
  | cons a later ih =>
    cases h with
    | cons _ _ _ rest => exact ih rest

/-- **What a target depends on was done before it.** -/
theorem comes_before {later earlier : List String} {a b : String}
    (h : Settled deps (later ++ a :: earlier)) (hab : TransGen (DependsOn deps) a b) : b ∈ earlier := by
  have ha := h.of_append
  cases ha with
  | @cons _ ds _ declared _ after rest =>
    induction hab with
    | single hstep =>
      obtain ⟨ds', hds', hb⟩ := hstep
      obtain rfl := Option.some.inj (declared.symm.trans hds')
      exact after _ hb
    | tail _ hstep ih => exact rest.closed ih hstep

/-- In the order in which they got done, what a target depends on stands before it. -/
theorem idxOf_lt (h : Settled deps done) {a b : String} (ha : a ∈ done)
    (hab : TransGen (DependsOn deps) a b) : done.reverse.idxOf b < done.reverse.idxOf a := by
  obtain ⟨later, earlier, rfl⟩ := List.append_of_mem ha
  have hb : b ∈ earlier.reverse := List.mem_reverse.2 (h.comes_before hab)
  have hnew : a ∉ earlier.reverse := by
    have hnodup := h.of_append.nodup
    rw [List.mem_reverse]
    exact (List.nodup_cons.1 hnodup).1
  rw [List.reverse_append, List.reverse_cons, List.append_assoc, List.idxOf_append_of_mem hb,
    List.idxOf_append_of_notMem hnew, List.singleton_append, List.idxOf_cons_self, Nat.add_zero]
  exact List.idxOf_lt_length_of_mem hb

/-- A target that is done unfolds to targets that are done. -/
theorem unfolds (h : Settled deps done) {a : String} (ha : a ∈ done) :
    ∃ w, Unfolds deps [a] w ∧ ∀ b ∈ w, b ∈ done := by
  induction h generalizing a with
  | nil => cases ha
  | @cons name ds done declared _ after _ ih =>
    rcases List.mem_cons.1 ha with rfl | ha
    · obtain ⟨w, hw, hsub⟩ := Unfolds.of_each fun d hd => ih (after d hd)
      refine ⟨w ++ [a], .cons declared hw .nil, ?_⟩
      intro b hb
      rcases List.mem_append.1 hb with hb | hb
      · exact List.mem_cons_of_mem _ (hsub b hb)
      · exact List.mem_singleton.1 hb ▸ List.mem_cons_self
    · obtain ⟨w, hw, hsub⟩ := ih ha
      exact ⟨w, hw, fun b hb => List.mem_cons_of_mem _ (hsub b hb)⟩

end Settled

/-! ## Recording a post-order -/

/-- The targets that are done, the latest first, after the new ones among `w` were added. -/
def recorded (done w : List String) : List String := w.foldl (fun done name => done.insert name) done

theorem recorded_append (done w w' : List String) :
    recorded done (w ++ w') = recorded (recorded done w) w' := List.foldl_append

theorem recorded_of_subset {done w : List String} (h : ∀ b ∈ w, b ∈ done) : recorded done w = done := by
  induction w with
  | nil => rfl
  | cons a w ih =>
    show recorded (done.insert a) w = done
    rw [List.insert_of_mem (h a List.mem_cons_self)]
    exact ih fun b hb => h b (List.mem_cons_of_mem a hb)

theorem mem_recorded {done w : List String} {b : String} :
    b ∈ recorded done w ↔ b ∈ done ∨ b ∈ w := by
  induction w generalizing done with
  | nil => simp [recorded]
  | cons a w ih =>
    show b ∈ recorded (done.insert a) w ↔ _
    rw [ih, List.mem_insert_iff, List.mem_cons]
    tauto

/-- **Recording keeps the first of each name**, behind those that were there before. -/
theorem reverse_recorded (done w : List String) : (recorded done w).reverse =
    done.reverse ++ (w.filter fun a => !done.contains a).eraseDups := by
  induction w generalizing done with
  | nil => simp [recorded]
  | cons a w ih =>
    show (recorded (done.insert a) w).reverse = _
    rw [ih]
    by_cases ha : a ∈ done
    · rw [List.insert_of_mem ha, List.filter_cons_of_neg (by simpa using ha)]
    · have hfilter : (w.filter fun b => !(a :: done).contains b) =
          (w.filter fun b => !done.contains b).filter fun b => !b == a := by
        rw [List.filter_filter]
        exact List.filter_congr fun b _ => by rw [List.contains_cons, Bool.not_or]
      rw [List.insert_of_not_mem ha, List.filter_cons_of_pos (by simpa using ha),
        List.eraseDups_cons, hfilter, List.reverse_cons, List.append_assoc]
      rfl

end TaskBuilders.Script
