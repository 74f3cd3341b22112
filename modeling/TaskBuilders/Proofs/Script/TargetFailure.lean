import TaskBuilders.Proofs.Script.TargetOrder

/-!
# When a request fails

A request stops exactly when it leads to a name that is not declared or that depends on itself. What
has run by then has run once, and behind everything that it depends on.

Two details of the walk make no difference. The bound on its depth is never reached, so that every
larger bound gives the same. And targets may stay marked for good where the walk only remembers the
path that it is on: a target that is left is done, and nobody asks whether it is marked.

* `TargetRunner.visit_mono` — what a walk comes to within its bound, it comes to within larger ones
* `TargetRunner.visitMarked` — the walk with marks that are never taken back
* `TargetRunner.run_marked` — it is the same walk
* `Unfolds.sound` — names that unfold lead to declared targets only, and to no cycle
* `Machine.runTargets_fails_iff` — when a request fails, and what has run by then
-/

namespace TaskBuilders.Script

open Relation

variable {deps : String → Option (List String)} {names w : List String}

/-- A name that no request gets past: it is not declared, or it depends on itself, directly or not. -/
def Broken (deps : String → Option (List String)) (n : String) : Prop :=
  deps n = none ∨ TransGen (DependsOn deps) n n

/-! ## What unfolds is sound -/

theorem Unfolds.declared (h : Unfolds deps names w) {b : String} (hb : b ∈ w) :
    ∃ ds, deps b = some ds := by
  induction h with
  | nil => cases hb
  | cons declared _ _ ihinner ihlater =>
    rcases List.mem_append.1 hb with hb | hb
    · exact ihinner hb
    · rcases List.mem_cons.1 hb with rfl | hb
      · exact ⟨_, declared⟩
      · exact ihlater hb

/-- **Names that unfold lead to nothing that is broken.** A cycle would come before itself in the order
in which targets got done. -/
theorem Unfolds.sound (h : Unfolds deps names w) {done : List String} (hdone : Settled deps done)
    (hsub : ∀ b ∈ w, b ∈ done) {n : String} (hn : ReachableFrom deps names n) : ¬ Broken deps n := by
  have hmem : n ∈ w := (h.mem_iff n).2 hn
  rintro (hnone | hcycle)
  · obtain ⟨ds, hds⟩ := h.declared hmem
    rw [hnone] at hds
    cases hds
  · exact absurd (hdone.idxOf_lt (hsub n hmem) hcycle) (Nat.lt_irrefl _)

/-- What stops a request at its beginning, the bound apart, is broken. -/
theorem Stops.broken {depth : Nat} {e : RunError} (h : Stops deps depth [] names e) :
    (∃ n, e = .tooDeep n) ∨
    ∃ n, ReachableFrom deps names n ∧ (e = .unknownTarget n ∧ deps n = none ∨
      e = .circular n ∧ TransGen (DependsOn deps) n n) := by
  cases h with
  | @unknownTarget n reachable undeclared => exact Or.inr ⟨n, reachable, Or.inl ⟨rfl, undeclared⟩⟩
  | @circular n reachable again =>
    exact Or.inr ⟨n, reachable, Or.inr ⟨rfl, again.resolve_left List.not_mem_nil⟩⟩
  | @tooDeep n => exact Or.inl ⟨n, rfl⟩

namespace TargetRunner

variable {β σ : Type} {r : TargetRunner β σ}

/-! ## Larger bounds -/

/-- A walk did not reach its bound. -/
def InBound (x : Progress σ × Option RunError) : Prop := ∀ n, x.2 ≠ some (.tooDeep n)

theorem visitEach_congr {visit visit' : String → Progress σ → Progress σ × Option RunError}
    (h : ∀ name g, InBound (visit name g) → visit' name g = visit name g)
    (names : List String) (g : Progress σ) (hbound : InBound (visitEach visit names g)) :
    visitEach visit' names g = visitEach visit names g := by
  induction names generalizing g with
  | nil => rfl
  | cons name names ih =>
    rw [visitEach] at hbound
    rw [visitEach, visitEach]
    rcases hx : visit name g with ⟨g', _ | e⟩
    · rw [hx] at hbound
      have hfirst : InBound (visit name g) := by rw [hx]; exact fun _ h => by cases h
      rw [h name g hfirst, hx]
      exact ih g' hbound
    · rw [hx] at hbound
      have hfirst : InBound (visit name g) := by rw [hx]; exact hbound
      rw [h name g hfirst, hx]

theorem visit_succ (depth : Nat) (visiting : List String) (name : String) (g : Progress σ)
    (hbound : InBound (r.visit depth visiting name g)) :
    r.visit (depth + 1) visiting name g = r.visit depth visiting name g := by
  induction depth generalizing visiting name g with
  | zero => exact absurd rfl (hbound name)
  | succ depth ih =>
    rw [visit] at hbound
    rw [visit, visit]
    split
    · rfl
    next hdone =>
      rw [if_neg hdone] at hbound
      split
      · rfl
      next t hfind =>
        rw [hfind] at hbound
        dsimp only at hbound
        split
        · rfl
        next hvisiting =>
          rw [if_neg hvisiting] at hbound
          have hdeps : InBound (visitEach (r.visit depth (name :: visiting)) t.depends g) := by
            rcases hx : visitEach (r.visit depth (name :: visiting)) t.depends g with ⟨g', _ | e⟩
            · exact fun _ h => by cases h
            · rw [hx] at hbound
              exact hbound
          rw [visitEach_congr (fun a g => ih (name :: visiting) a g) t.depends g hdeps]

/-- **What a walk comes to within its bound, it comes to within every larger bound.** -/
theorem visit_mono {depth depth' : Nat} (h : depth ≤ depth') (visiting : List String) (name : String)
    (g : Progress σ) (hbound : InBound (r.visit depth visiting name g)) :
    r.visit depth' visiting name g = r.visit depth visiting name g := by
  induction h with
  | refl => rfl
  | @step depth' _ ih => rw [visit_succ depth' visiting name g (ih ▸ hbound), ih]

theorem run_mono {depth depth' : Nat} (h : depth ≤ depth') (names : List String) (s : σ)
    (hbound : ∀ n, (r.run depth names s).2 ≠ some (.tooDeep n)) :
    r.run depth' names s = r.run depth names s := by
  have heq := visitEach_congr (fun name g => visit_mono (r := r) h [] name g) names ⟨s, []⟩ hbound
  rw [run, run, heq]

/-! ## Marks that stay -/

/-- Runs the target of a name after its dependencies. The second part of the state holds the targets
that have been begun, whether or not they are done. -/
def visitMarked (r : TargetRunner β σ) : (depth : Nat) → String → Progress (σ × List String) →
    Progress (σ × List String) × Option RunError
  | 0, name, g => (g, some (.tooDeep name))
  | depth + 1, name, g =>
    if g.done.contains name then (g, none)
    else
      match r.find g.state.1 name with
      | none => (g, some (.unknownTarget name))
      | some t =>
        if g.state.2.contains name then (g, some (.circular name))
        else
          match visitEach (visitMarked r depth) t.depends
              ⟨(g.state.1, name :: g.state.2), g.done⟩ with
          | (g, some e) => (g, some e)
          | (g, none) => (⟨(r.enter t g.state.1, g.state.2), name :: g.done⟩, none)

/-- Runs the targets of several names, with new marks for each of them. -/
def runMarked (r : TargetRunner β σ) (depth : Nat) (names : List String) (s : σ) :
    σ × Option RunError :=
  let (g, e) := visitEach
    (fun name g => r.visitMarked depth name ⟨(g.state.1, []), g.done⟩) names ⟨(s, []), []⟩
  (g.state.1, e)

/-- Of the targets that are not done, those are marked whose dependencies are being run. -/
def MarksPath (visiting : List String) (g : Progress (σ × List String)) : Prop :=
  ∀ n, n ∉ g.done → (n ∈ g.state.2 ↔ n ∈ visiting)

/-- What a walk with marks comes to: without its marks it is `x`, and if it does not stop, the marks
are as they were, up to targets that are done. -/
def Follows (visiting : List String) (y : Progress (σ × List String) × Option RunError)
    (x : Progress σ × Option RunError) : Prop :=
  untraced y = x ∧ (y.2 = none → MarksPath visiting y.1)

theorem visitEach_follows {visiting : List String}
    {visit : String → Progress σ → Progress σ × Option RunError}
    {visit' : String → Progress (σ × List String) → Progress (σ × List String) × Option RunError}
    (h : ∀ name g, MarksPath visiting g →
      Follows visiting (visit' name g) (visit name ⟨g.state.1, g.done⟩))
    (names : List String) (g : Progress (σ × List String)) (hg : MarksPath visiting g) :
    Follows visiting (visitEach visit' names g) (visitEach visit names ⟨g.state.1, g.done⟩) := by
  induction names generalizing g with
  | nil => exact ⟨rfl, fun _ => hg⟩
  | cons name names ih =>
    obtain ⟨heq, hmarks⟩ := h name g hg
    rw [visitEach, visitEach, ← heq]
    rcases hx : visit' name g with ⟨g', _ | e⟩
    · rw [hx] at hmarks
      exact ih g' (hmarks rfl)
    · exact ⟨rfl, fun h => by cases h⟩

/-- The marks of a walk tell what its path tells. -/
theorem visitMarked_follows (depth : Nat) (visiting : List String) (name : String)
    (g : Progress (σ × List String)) (hg : MarksPath visiting g) :
    Follows visiting (r.visitMarked depth name g)
      (r.visit depth visiting name ⟨g.state.1, g.done⟩) := by
  induction depth generalizing visiting name g with
  | zero => exact ⟨rfl, fun h => by cases h⟩
  | succ depth ih =>
    rw [visitMarked, visit]
    by_cases hdone : g.done.contains name
    · rw [if_pos hdone, if_pos hdone]
      exact ⟨rfl, fun _ => hg⟩
    · rw [if_neg hdone, if_neg hdone]
      cases r.find g.state.1 name with
      | none => exact ⟨rfl, fun h => by cases h⟩
      | some t =>
        -- the target is not done, so that it is marked exactly when it is on the path
        have hmarked : g.state.2.contains name = visiting.contains name := by
          rw [Bool.eq_iff_iff, List.contains_iff_mem, List.contains_iff_mem]
          exact hg name (by simpa using hdone)
        dsimp only
        rw [hmarked]
        by_cases hvisiting : visiting.contains name
        · rw [if_pos hvisiting, if_pos hvisiting]
          exact ⟨rfl, fun h => by cases h⟩
        · rw [if_neg hvisiting, if_neg hvisiting]
          have hbegun : MarksPath (name :: visiting) ⟨(g.state.1, name :: g.state.2), g.done⟩ := by
            intro n hn
            show n ∈ name :: g.state.2 ↔ n ∈ name :: visiting
            rw [List.mem_cons, List.mem_cons, hg n hn]
          obtain ⟨heq, hmarks⟩ := visitEach_follows (fun a g => ih (name :: visiting) a g) t.depends
            _ hbegun
          rw [← heq]
          rcases hx : visitEach (r.visitMarked depth) t.depends
            ⟨(g.state.1, name :: g.state.2), g.done⟩ with ⟨g', _ | e⟩
          · rw [hx] at hmarks
            refine ⟨rfl, fun _ n hn => ?_⟩
            obtain ⟨hne, hn⟩ := not_or.1 (mt List.mem_cons.2 hn)
            exact (hmarks rfl n hn).trans (List.mem_cons.trans (or_iff_right hne))
          · exact ⟨rfl, fun h => by cases h⟩

/-- **Marks that are never taken back change nothing.** -/
theorem run_marked (r : TargetRunner β σ) (depth : Nat) (names : List String) (s : σ) :
    r.runMarked depth names s = r.run depth names s := by
  have hmarks : ∀ name (g : Progress (σ × List String)),
      untraced (r.visitMarked depth name ⟨(g.state.1, []), g.done⟩) =
        r.visit depth [] name ⟨g.state.1, g.done⟩ := fun name g =>
    (visitMarked_follows depth [] name ⟨(g.state.1, []), g.done⟩ fun _ _ => Iff.rfl).1
  have h := visitEach_untraced hmarks names ⟨(s, []), []⟩
  rw [run, ← h]
  rfl

end TargetRunner

namespace Machine

variable {inner : List Statement → Machine → Machine} {m : Machine}

/-- The walk ends within its bound. -/
theorem runTargets_ne_tooDeep (hquiet : m.QuietBodies inner) (depth : Nat) (names : List String)
    (n : String) : (m.runTargets depth inner names).2 ≠ some (.tooDeep n) := by
  intro he
  obtain ⟨x, hx, hrun, _⟩ := visited_targets hquiet depth names
  rw [hrun] at he
  exact not_tooDeep (hx.stops _ he)

/-- The walk is the same within every bound above the number of targets. -/
theorem run_eq_runTargets (hquiet : m.QuietBodies inner) (depth : Nat) (names : List String)
    {limit : Nat} (hlimit : m.project.targets.length < limit) :
    (runner inner).run limit (m.project.requested names) m = m.runTargets depth inner names := by
  -- both bounds are above the least one that is enough
  have hleast : ∀ limit, m.project.targets.length < limit →
      (runner inner).run limit (m.project.requested names) m = m.runTargets 0 inner names :=
    fun limit hlimit => TargetRunner.run_mono (by unfold chainLimit; omega) _ m
      (runTargets_ne_tooDeep hquiet 0 names)
  exact (hleast limit hlimit).trans (hleast (m.chainLimit depth) (by unfold chainLimit; omega)).symm

/-- A request that fails leads to something broken, which its error names. -/
theorem broken_of_fails (hquiet : m.QuietBodies inner) {depth : Nat} {names : List String}
    {e : RunError} (he : (m.runTargets depth inner names).2 = some e) :
    ∃ n, ReachableFrom m.project.dependsOf? (m.project.requested names) n ∧
      (e = .unknownTarget n ∧ m.project.dependsOf? n = none ∨
        e = .circular n ∧ TransGen (DependsOn m.project.dependsOf?) n n) := by
  obtain ⟨x, hx, hrun, _⟩ := visited_targets hquiet depth names
  rw [hrun] at he
  have hstops := hx.stops e he
  rcases hstops.broken with ⟨n, rfl⟩ | hbroken
  · exact absurd hstops not_tooDeep
  · exact hbroken

/-- A request that does not fail leads to nothing broken. -/
theorem sound_of_completes (hquiet : m.QuietBodies inner) {depth : Nat} {names : List String}
    (he : (m.runTargets depth inner names).2 = none) {n : String}
    (hreach : ReachableFrom m.project.dependsOf? (m.project.requested names) n) :
    ¬ (m.project.dependsOf? n = none ∨ TransGen (DependsOn m.project.dependsOf?) n n) := by
  obtain ⟨x, hx, hrun, _⟩ := visited_targets hquiet depth names
  rw [hrun] at he
  obtain ⟨w, hw, hrecorded⟩ := hx.complete he
  have hsub : ∀ b ∈ w, b ∈ x.1.done := by
    intro b hb
    rw [hrecorded]
    exact mem_recorded.2 (Or.inr hb)
  exact hw.sound hx.settled hsub hreach

/-- **When a request fails.** The walk ends by itself: every bound on its depth above the number of
targets gives the same, and so do marks that are never taken back. It fails exactly when the requested
names lead to a name that is not declared or that depends on itself, and its error names such a one.
Whether it fails or not, what has happened is that certain targets ran one after the other, each once
and behind everything that it depends on. -/
theorem runTargets_fails_iff (depth : Nat) (inner : List Statement → Machine → Machine)
    (names : List String) (m : Machine) (hquiet : m.QuietBodies inner) :
    let deps := m.project.dependsOf?
    let requested := m.project.requested names
    let order := m.targetsRun depth inner names
    let result := m.runTargets depth inner names
    (∀ limit, m.project.targets.length < limit →
      (runner inner).run limit requested m = result ∧
      (runner inner).runMarked limit requested m = result) ∧
    (∀ n, result.2 ≠ some (.tooDeep n)) ∧
    ((∃ n, result.2 = some (.unknownTarget n) ∨ result.2 = some (.circular n)) ↔
      ∃ n, ReachableFrom deps requested n ∧
        (deps n = none ∨ TransGen (DependsOn deps) n n)) ∧
    (∀ n, result.2 = some (.unknownTarget n) → ReachableFrom deps requested n ∧ deps n = none) ∧
    (∀ n, result.2 = some (.circular n) →
      ReachableFrom deps requested n ∧ TransGen (DependsOn deps) n n) ∧
    result.1 = order.foldl (enterNamed inner) m ∧
    order.Nodup ∧
    ∀ a b, a ∈ order → TransGen (DependsOn deps) a b →
      b ∈ order ∧ order.idxOf b < order.idxOf a := by
  intro deps requested order result
  obtain ⟨x, hx, hrun, hdone⟩ := visited_targets hquiet depth names
  have hresult : result = (x.1.state.1, x.2) := hrun
  have horder : order = x.1.done.reverse := hdone
  refine ⟨fun limit hlimit => ?_, runTargets_ne_tooDeep hquiet depth names, ?_, ?_, ?_, ?_, ?_, ?_⟩
  · have hsame := run_eq_runTargets hquiet depth names hlimit
    exact ⟨hsame, (TargetRunner.run_marked _ limit requested m).trans hsame⟩
  · constructor
    · rintro ⟨n, he | he⟩
      · obtain ⟨k, hk, hbroken⟩ := broken_of_fails hquiet he
        exact ⟨k, hk, hbroken.imp And.right And.right⟩
      · obtain ⟨k, hk, hbroken⟩ := broken_of_fails hquiet he
        exact ⟨k, hk, hbroken.imp And.right And.right⟩
    · rintro ⟨n, hreach, hbroken⟩
      cases he : result.2 with
      | none => exact absurd hbroken (sound_of_completes hquiet he hreach)
      | some e =>
        obtain ⟨k, _, ⟨rfl, _⟩ | ⟨rfl, _⟩⟩ := broken_of_fails hquiet he
        · exact ⟨k, Or.inl rfl⟩
        · exact ⟨k, Or.inr rfl⟩
  · intro n he
    obtain ⟨k, hk, ⟨heq, hnone⟩ | ⟨heq, _⟩⟩ := broken_of_fails hquiet he
    · cases heq
      exact ⟨hk, hnone⟩
    · cases heq
  · intro n he
    obtain ⟨k, hk, ⟨heq, _⟩ | ⟨heq, hcycle⟩⟩ := broken_of_fails hquiet he
    · cases heq
    · cases heq
      exact ⟨hk, hcycle⟩
  · rw [hresult, horder]
    exact hx.invariant.state
  · rw [horder]
    exact List.nodup_reverse.2 hx.settled.nodup
  · intro a b ha hab
    rw [horder] at ha ⊢
    have hlt := hx.settled.idxOf_lt (List.mem_reverse.1 ha) hab
    exact ⟨List.idxOf_lt_length_iff.1 (Nat.lt_trans hlt (List.idxOf_lt_length_of_mem ha)), hlt⟩

/-- Targets of which one depends on itself and one on a name that is not declared, behind others that
can run. -/
def tangle : Machine :=
  exec 1 [.target "t" "a" [] (some [.setProperty "a" "done"]),
    .target "t" "b" ["a", "a"] (some [.lookup "a"]),
    .target "t" "loop" ["b", "a", "back"] none,
    .target "t" "back" ["b", "loop"] (some [.failures]),
    .target "t" "self" ["a", "self", "missing"] none,
    .target "t" "last" ["b", "missing"] none] (start "shop" "/work" none)

theorem runTargets_fails_iff_tangle :
    let result := tangle.runTargets 1 (exec 1)
    tangle.QuietBodies (exec 1) ∧
    (result ["a", "loop"]).2 = some (.circular "loop") ∧
    tangle.targetsRun 1 (exec 1) ["a", "loop"] = ["a", "b"] ∧
    (result ["self"]).2 = some (.circular "self") ∧
    (result ["last"]).2 = some (.unknownTarget "missing") ∧
    ReachableFrom tangle.project.dependsOf? ["last"] "missing" ∧
    ∃ n, ReachableFrom tangle.project.dependsOf? ["a", "loop"] n ∧
      (tangle.project.dependsOf? n = none ∨
        TransGen (DependsOn tangle.project.dependsOf?) n n) := by
  have hplain : tangle.project.declared.all
      (fun t => t.body.all fun b => b.statements.all Statement.plain) = true := by decide +kernel
  have hquiet : tangle.QuietBodies (exec 1) := by
    refine quietBodies_exec (by intro x hx; cases hx) ?_ 1
    intro t ht b hb s hs
    have hbody := List.all_eq_true.1 hplain t ht
    rw [Option.mem_def.1 hb] at hbody
    exact .plain (List.all_eq_true.1 hbody s hs)
  have hloop : (tangle.runTargets 1 (exec 1) ["a", "loop"]).2 = some (.circular "loop") := by
    decide +kernel
  have hlast : (tangle.runTargets 1 (exec 1) ["last"]).2 = some (.unknownTarget "missing") := by
    decide +kernel
  obtain ⟨_, _, hfails, _⟩ := runTargets_fails_iff 1 (exec 1) ["a", "loop"] tangle hquiet
  obtain ⟨_, _, _, hunknown, _⟩ := runTargets_fails_iff 1 (exec 1) ["last"] tangle hquiet
  exact ⟨hquiet, hloop, by decide +kernel, by decide +kernel, hlast,
    (hunknown "missing" hlast).1, hfails.1 ⟨"loop", Or.inr hloop⟩⟩

end Machine

end TaskBuilders.Script
