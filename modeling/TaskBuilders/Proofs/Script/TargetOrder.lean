import Mathlib.Data.List.Nodup
import Mathlib.Data.List.Perm.Subperm
import TaskBuilders.Proofs.Script.Declaration
import TaskBuilders.Proofs.Script.Walk

/-!
# The order in which targets run

A request runs the targets that the requested names lead to, each once, behind all that it depends on,
in the post-order of their dependencies.

* `Machine.QuietBodies` — bodies that declare no targets
* `Machine.targetsRun` — the targets that a request runs, in order
* `Machine.visited_targets` — what a request comes to, whether it stops or not
* `Machine.not_tooDeep` — a chain of dependencies is never longer than there are targets
* `Machine.runTargets_order` — a request that does not stop runs the post-order
-/

namespace TaskBuilders.Script.Machine

open Relation

variable {inner : List Statement → Machine → Machine} {depth : Nat} {m m' : Machine} {name : String}
  {t t' : Target Body} {names : List String}

/-! ## Bodies that declare no targets -/

/-- The bodies of the declared targets declare no targets themselves. -/
def QuietBodies (inner : List Statement → Machine → Machine) (m : Machine) : Prop :=
  ∀ name t, m.project.target? name = some t → ∀ b ∈ t.body,
    ∀ m', SameTargets m m' → SameTargets m (inner b.statements m')

theorem quietBodies_exec (hex : ∀ x ∈ m.executor, x.Quiet)
    (hbodies : ∀ t ∈ m.project.declared, ∀ b ∈ t.body, ∀ s ∈ b.statements, s.Quiet) (depth : Nat) :
    m.QuietBodies (exec depth) := by
  intro name t ht b hb m' hm
  refine hm.trans (sameTargets_exec ?_ depth (hbodies t (Project.mem_declared_of_target? ht) b hb))
  rwa [hm.executor]

/-- A target runs as it was declared. -/
theorem enter_of_declaration (h : t'.declaration = t.declaration) :
    (runner inner).enter t' = (runner inner).enter t := by
  show (runner inner).enter t'.declaration = (runner inner).enter t.declaration
  rw [h]

theorem QuietBodies.enter (hquiet : m.QuietBodies inner) (ht : m.project.target? name = some t)
    (hm : SameTargets m m') : SameTargets m ((runner inner).enter t m') := by
  cases hbody : t.body with
  | none =>
    simp only [runner, hbody]
    exact hm
  | some b =>
    simp only [runner, hbody]
    exact hquiet name t ht b hbody _ ⟨hm.executor, hm.declarations⟩

/-! ## Requests -/

/-- The targets that a request runs, in order. -/
def targetsRun (depth : Nat) (inner : List Statement → Machine → Machine) (names : List String)
    (m : Machine) : List String :=
  ((runner inner).traced.run (m.chainLimit depth) (m.project.requested names) (m, [])).1.2

/-- Runs the target of a name. -/
def enterNamed (inner : List Statement → Machine → Machine) (m : Machine) (name : String) : Machine :=
  (m.project.target? name).elim m ((runner inner).enter · m)

/-- Since a request began, no target was declared, and those that are done are those that have run. -/
structure Running (inner : List Statement → Machine → Machine) (m : Machine)
    (g : Progress (Machine × List String)) : Prop where
  sameTargets : SameTargets m g.state.1
  written : g.state.2 = g.done.reverse
  state : g.state.1 = g.done.reverse.foldl (enterNamed inner) m

theorem steady_running (hquiet : m.QuietBodies inner) :
    (runner inner).traced.Steady m.project.dependsOf? (Running inner m) where
  find {g} name hg := by
    rw [Project.dependsOf?_eq, ← hg.sameTargets.declarations, ← Project.dependsOf?_eq]
    rfl
  enter {g g' name t} hg hfind hg' _ := by
    have ht : g.state.1.project.target? name = some t := hfind
    -- found at the beginning, before the dependencies and after them, the declaration is the same
    obtain ⟨t₀, ht₀, hdecl⟩ := Project.target?_of_declarations hg.sameTargets.declarations ht
    obtain ⟨t', ht', hdecl'⟩ :=
      Project.target?_of_declarations hg'.sameTargets.declarations.symm ht₀
    refine ⟨?_, ?_, ?_⟩
    · show SameTargets m ((runner inner).enter t g'.state.1)
      rw [← enter_of_declaration hdecl]
      exact hquiet.enter ht₀ hg'.sameTargets
    · show g'.state.2 ++ [t.name] = (name :: g'.done).reverse
      rw [hg'.written, Project.name_of_target? ht, List.reverse_cons]
    · show (runner inner).enter t g'.state.1 = _
      rw [List.reverse_cons, List.foldl_append, ← hg'.state]
      show _ = (g'.state.1.project.target? name).elim g'.state.1 ((runner inner).enter · g'.state.1)
      rw [ht', ← enter_of_declaration hdecl, ← enter_of_declaration hdecl']
      rfl

/-- **What a request comes to**, whether it stops or not: the targets that have run are settled. -/
theorem visited_targets (hquiet : m.QuietBodies inner) (depth : Nat) (names : List String) :
    ∃ x, Visited m.project.dependsOf? (Running inner m) (m.chainLimit depth) []
        (m.project.requested names) ⟨(m, []), []⟩ x ∧
      m.runTargets depth inner names = (x.1.state.1, x.2) ∧
      m.targetsRun depth inner names = x.1.done.reverse := by
  have hx := TargetRunner.visited_visitEach
    (fun name g => TargetRunner.visited_visit (steady_running hquiet) (m.chainLimit depth) [] name g)
    (m.project.requested names) ⟨(m, []), []⟩ ⟨.refl m, rfl, rfl⟩ .nil
  refine ⟨_, hx, ?_, ?_⟩
  · exact TargetRunner.run_traced (runner inner) _ _ m
  · exact hx.invariant.written

/-- Distinct targets are no more than were declared. -/
theorem length_le_of_declared {path : List String} (hnodup : path.Nodup)
    (hdeclared : ∀ a ∈ path, (m.project.dependsOf? a).isSome) :
    path.length ≤ m.project.targets.length := by
  have hsub : path ⊆ m.project.declared.map (·.name) := by
    intro a ha
    obtain ⟨t, ht⟩ := Option.isSome_iff_exists.1 (Option.isSome_map.symm.trans (hdeclared a ha))
    exact List.mem_map.2 ⟨t, Project.mem_declared_of_target? ht, Project.name_of_target? ht⟩
  calc path.length
      ≤ (m.project.declared.map (·.name)).length := (List.subperm_of_subset hnodup hsub).length_le
    _ = m.project.targets.length - 1 := by rw [List.length_map, Project.declared, List.length_drop]
    _ ≤ m.project.targets.length := Nat.sub_le _ _

/-- **No request is too deep**: the chain of targets that it goes through would have to be longer than
there are targets. -/
theorem not_tooDeep {requested : List String} :
    ¬ Stops m.project.dependsOf? (m.chainLimit depth) [] requested (.tooDeep name) := by
  intro h
  cases h with
  | tooDeep path nodup declared new length =>
    have hle := length_le_of_declared nodup declared
    rw [length, chainLimit] at hle
    omega

/-- **The order of targets.** A request that meets no unknown target and no circular dependency does
not stop, and comes to running certain targets one after the other: each once, all those that the
requested names lead to and no others, each behind everything that it depends on. The order is the
post-order of the dependencies as they are written, with each target where it comes first. -/
theorem runTargets_order (depth : Nat) (inner : List Statement → Machine → Machine)
    (names : List String) (m : Machine) (hquiet : m.QuietBodies inner)
    (hknown : ∀ n, (m.runTargets depth inner names).2 ≠ some (.unknownTarget n))
    (hacyclic : ∀ n, (m.runTargets depth inner names).2 ≠ some (.circular n)) :
    let deps := m.project.dependsOf?
    let requested := m.project.requested names
    let order := m.targetsRun depth inner names
    m.runTargets depth inner names = (order.foldl (enterNamed inner) m, none) ∧
    order.Nodup ∧
    (∀ n, n ∈ order ↔ ReachableFrom deps requested n) ∧
    (∀ a b, a ∈ order → TransGen (DependsOn deps) a b → order.idxOf b < order.idxOf a) ∧
    ∃ w, (∀ w', Unfolds deps requested w' ↔ w' = w) ∧ order = w.eraseDups := by
  intro deps requested order
  obtain ⟨x, hx, hrun, hdone⟩ := visited_targets hquiet depth names
  -- all three reasons to stop are ruled out, two by hypothesis and one by the number of targets
  have hnone : x.2 = none := by
    cases he : x.2 with
    | none => rfl
    | some e =>
      rw [hrun, he] at hknown hacyclic
      cases e with
      | unknownTarget n => exact absurd rfl (hknown n)
      | circular n => exact absurd rfl (hacyclic n)
      | tooDeep n => exact absurd (hx.stops _ he) not_tooDeep
  obtain ⟨w, hw, hrecorded⟩ := hx.complete hnone
  have horder : order = x.1.done.reverse := hdone
  have hmem (n : String) : n ∈ order ↔ n ∈ w := by
    rw [horder, List.mem_reverse, hrecorded, mem_recorded]
    simp
  refine ⟨?_, ?_, fun n => (hmem n).trans (hw.mem_iff n), ?_, w, ?_, ?_⟩
  · rw [hrun, hnone, hx.invariant.state, horder]
  · rw [horder]
    exact List.nodup_reverse.2 hx.settled.nodup
  · intro a b ha hab
    rw [horder] at ha ⊢
    exact hx.settled.idxOf_lt (List.mem_reverse.1 ha) hab
  · exact fun w' => ⟨fun hw' => hw'.unique hw, fun he => he ▸ hw⟩
  · rw [horder, hrecorded, reverse_recorded]
    simp

/-- A diamond of targets; the second declaration of `b` replaces the first. -/
def diamond : Machine :=
  exec 1 [.target "t" "b" ["missing"] none,
    .target "t" "a" [] (some [.setProperty "a" "done"]),
    .target "t" "b" ["a"] (some [.container "t" "u" (some [.lookup "a"])]),
    .target "t" "c" ["a", "b", "a"] none,
    .target "t" "all" ["c", "b"] (some [.failures])] (start "shop" "/work" none)

theorem runTargets_order_diamond :
    let order := diamond.targetsRun 1 (exec 1) ["b", "all", "b"]
    order = ["a", "b", "c", "all"] ∧
    diamond.runTargets 1 (exec 1) ["b", "all", "b"] =
      (order.foldl (enterNamed (exec 1)) diamond, none) ∧
    order.Nodup ∧
    ∃ w, (∀ w', Unfolds diamond.project.dependsOf? ["b", "all", "b"] w' ↔ w' = w) ∧
      order = w.eraseDups := by
  have hquiet : diamond.QuietBodies (exec 1) := by
    refine quietBodies_exec (by intro x hx; cases hx) ?_ 1
    intro t ht b hb s hs
    have hbody : b ∈ diamond.project.declared.filterMap (·.body) := List.mem_filterMap.2 ⟨t, ht, hb⟩
    have hbodies : diamond.project.declared.filterMap (·.body) =
        [⟨"t", [.setProperty "a" "done"]⟩, ⟨"t", [.container "t" "u" (some [.lookup "a"])]⟩,
          ⟨"t", [.failures]⟩] := rfl
    rw [hbodies] at hbody
    simp only [List.mem_cons, List.not_mem_nil, or_false] at hbody
    rcases hbody with rfl | rfl | rfl <;> obtain rfl := List.mem_singleton.1 hs
    · exact .plain rfl
    · exact .container fun s hs => List.mem_singleton.1 hs ▸ .plain rfl
    · exact .plain rfl
  have hnone : (diamond.runTargets 1 (exec 1) ["b", "all", "b"]).2 = none := by decide +kernel
  obtain ⟨hrun, hnodup, -, -, hunfolds⟩ := runTargets_order 1 (exec 1) ["b", "all", "b"] diamond
    hquiet (by rw [hnone]; exact nofun) (by rw [hnone]; exact nofun)
  exact ⟨by decide +kernel, hrun, hnodup, hunfolds⟩

end TaskBuilders.Script.Machine
