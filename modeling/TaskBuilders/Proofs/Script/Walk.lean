import TaskBuilders.Script.Run
import TaskBuilders.Proofs.Script.Dependency

/-!
# Walking through targets

A walk visits targets depth-first and may stop with an error. As long as the dependencies of targets
stay the same, the targets that are done are settled at every time, whether the walk stops or not: each
is done once and after all that it depends on.

A target cannot get done while its own dependencies are being run, since visiting it a second time
stops the walk. This is why it is new when its turn comes.

* `Stops` — why a walk may stop
* `Visited` — what a walk comes to
* `visited_visit`, `visited_visitEach` — walks come to that
* `run_traced` — a walk that writes down what it runs is the same walk
-/

namespace TaskBuilders.Script

open Relation

variable {deps : String → Option (List String)} {depth : Nat} {visiting names : List String}
  {name : String} {ds : List String} {e : RunError}

/-! ## Why a walk stops -/

/-- Why visiting some names may stop: one that they lead to is not declared, or leads to itself or back
to one of `visiting`, or else there are `depth` targets to go through. -/
inductive Stops (deps : String → Option (List String)) (depth : Nat) (visiting names : List String) :
    RunError → Prop where
  | unknownTarget {n : String} (reachable : ReachableFrom deps names n) (undeclared : deps n = none) :
      Stops deps depth visiting names (.unknownTarget n)
  | circular {n : String} (reachable : ReachableFrom deps names n)
      (again : n ∈ visiting ∨ TransGen (DependsOn deps) n n) :
      Stops deps depth visiting names (.circular n)
  | tooDeep {n : String} (path : List String) (nodup : path.Nodup)
      (declared : ∀ a ∈ path, (deps a).isSome) (new : ∀ a ∈ path, a ∉ visiting)
      (length : path.length = depth) : Stops deps depth visiting names (.tooDeep n)

namespace Stops

theorem mono (h : Stops deps depth visiting names e) {names' : List String}
    (hsub : ∀ a ∈ names, a ∈ names') : Stops deps depth visiting names' e := by
  cases h with
  | unknownTarget reachable undeclared =>
    obtain ⟨a, ha, hpath⟩ := reachable
    exact .unknownTarget ⟨a, hsub a ha, hpath⟩ undeclared
  | circular reachable again =>
    obtain ⟨a, ha, hpath⟩ := reachable
    exact .circular ⟨a, hsub a ha, hpath⟩ again
  | tooDeep path nodup declared new length => exact .tooDeep path nodup declared new length

/-- What stops the dependencies of a target stops the target. -/
theorem of_depends (h : Stops deps depth (name :: visiting) ds e) (hname : deps name = some ds)
    (hnew : name ∉ visiting) : Stops deps (depth + 1) visiting [name] e := by
  cases h with
  | unknownTarget reachable undeclared =>
    obtain ⟨d, hd, hpath⟩ := reachable
    exact .unknownTarget ⟨name, List.mem_singleton_self _, .head ⟨ds, hname, hd⟩ hpath⟩ undeclared
  | circular reachable again =>
    obtain ⟨d, hd, hpath⟩ := reachable
    have hlead : TransGen (DependsOn deps) name _ := .head' ⟨ds, hname, hd⟩ hpath
    refine .circular ⟨name, List.mem_singleton_self _, hlead.to_reflTransGen⟩ ?_
    rcases again with hvisiting | hcycle
    · rcases List.mem_cons.1 hvisiting with rfl | hvisiting
      · -- a way back to the target itself closes a cycle
        exact Or.inr hlead
      · exact Or.inl hvisiting
    · exact Or.inr hcycle
  | tooDeep path nodup declared new length =>
    have hpath : name ∉ path := fun hmem => new name hmem List.mem_cons_self
    refine .tooDeep (name :: path) (List.nodup_cons.2 ⟨hpath, nodup⟩) ?_ ?_
      (by rw [List.length_cons, length])
    · intro a ha
      rcases List.mem_cons.1 ha with rfl | ha
      · rw [hname]; rfl
      · exact declared a ha
    · intro a ha
      rcases List.mem_cons.1 ha with rfl | ha
      · exact hnew
      · exact fun hmem => new a ha (List.mem_cons_of_mem _ hmem)

end Stops

/-! ## What a walk comes to -/

/-- What visiting some names comes to. Whether it stops or not, an invariant holds, the targets that
are done are settled, and no target of `visiting` has got done. If it does not stop, the names were
unfolded and what they unfold to was recorded. -/
structure Visited {σ : Type} (deps : String → Option (List String)) (inv : Progress σ → Prop)
    (depth : Nat) (visiting names : List String) (g : Progress σ) (x : Progress σ × Option RunError) :
    Prop where
  invariant : inv x.1
  settled : Settled deps x.1.done
  spared : ∀ v ∈ visiting, v ∈ x.1.done → v ∈ g.done
  stops : ∀ e, x.2 = some e → Stops deps depth visiting names e
  complete : x.2 = none → ∃ w, Unfolds deps names w ∧ x.1.done = recorded g.done w

namespace Visited

variable {σ : Type} {inv : Progress σ → Prop} {g g' : Progress σ} {x : Progress σ × Option RunError}

/-- A visit that stops at once. -/
theorem of_stops (hinv : inv g) (hsettled : Settled deps g.done)
    (h : Stops deps depth visiting names e) : Visited deps inv depth visiting names g (g, some e) where
  invariant := hinv
  settled := hsettled
  spared _ _ hdone := hdone
  stops _ he := Option.some.inj he ▸ h
  complete := nofun

/-- A visit of targets that are done. -/
theorem of_done (hinv : inv g) (hsettled : Settled deps g.done) (hdone : ∀ a ∈ names, a ∈ g.done) :
    Visited deps inv depth visiting names g (g, none) where
  invariant := hinv
  settled := hsettled
  spared _ _ hmem := hmem
  stops := nofun
  complete _ := by
    obtain ⟨w, hw, hsub⟩ := Unfolds.of_each fun a ha => hsettled.unfolds (hdone a ha)
    exact ⟨w, hw, (recorded_of_subset hsub).symm⟩

theorem cons_of_stops (h : Visited deps inv depth visiting [name] g (g', some e)) :
    Visited deps inv depth visiting (name :: names) g (g', some e) where
  invariant := h.invariant
  settled := h.settled
  spared := h.spared
  stops e he := (h.stops e he).mono fun _ ha => List.mem_singleton.1 ha ▸ List.mem_cons_self
  complete := nofun

/-- A visit of one name and then of others. -/
theorem cons (h : Visited deps inv depth visiting [name] g (g', none))
    (hx : Visited deps inv depth visiting names g' x) :
    Visited deps inv depth visiting (name :: names) g x where
  invariant := hx.invariant
  settled := hx.settled
  spared v hv hdone := h.spared v hv (hx.spared v hv hdone)
  stops e he := (hx.stops e he).mono fun a ha => List.mem_cons_of_mem _ ha
  complete he := by
    obtain ⟨w, hw, hdone⟩ := h.complete rfl
    obtain ⟨w', hw', hdone'⟩ := hx.complete he
    refine ⟨w ++ w', hw.append hw', ?_⟩
    rw [hdone', show g'.done = recorded g.done w from hdone, recorded_append]

/-- A visit of a target whose dependencies stop. -/
theorem of_depends_stops (h : Visited deps inv depth (name :: visiting) ds g (g', some e))
    (hname : deps name = some ds) (hnew : name ∉ visiting) :
    Visited deps inv (depth + 1) visiting [name] g (g', some e) where
  invariant := h.invariant
  settled := h.settled
  spared v hv hdone := h.spared v (List.mem_cons_of_mem _ hv) hdone
  stops e he := (h.stops e he).of_depends hname hnew
  complete := nofun

/-- A visit of a target whose dependencies do not stop. -/
theorem of_depends (h : Visited deps inv depth (name :: visiting) ds g (g', none))
    (hname : deps name = some ds) (hnew : name ∉ visiting) (htodo : name ∉ g.done) {s : σ}
    (hinv : inv ⟨s, name :: g'.done⟩) :
    Visited deps inv (depth + 1) visiting [name] g (⟨s, name :: g'.done⟩, none) := by
  have hfresh : name ∉ g'.done := fun hdone => htodo (h.spared name List.mem_cons_self hdone)
  obtain ⟨w, hw, hdone⟩ := h.complete rfl
  have hdone : g'.done = recorded g.done w := hdone
  refine ⟨hinv, .cons hname hfresh ?_ h.settled, ?_, nofun, fun _ => ⟨w ++ [name], ?_, ?_⟩⟩
  · intro d hd
    rw [hdone]
    exact mem_recorded.2 (Or.inr (hw.subset d hd))
  · intro v hv hmem
    rcases List.mem_cons.1 hmem with rfl | hmem
    · exact absurd hv hnew
    · exact h.spared v (List.mem_cons_of_mem _ hv) hmem
  · exact .cons hname hw .nil
  · show name :: g'.done = recorded g.done (w ++ [name])
    rw [recorded_append, ← hdone]
    exact (List.insert_of_not_mem hfresh).symm

end Visited

/-! ## Runners whose targets stay as they are -/

namespace TargetRunner

variable {β σ : Type} {r : TargetRunner β σ} {inv : Progress σ → Prop}

/-- An invariant under which a table tells what targets depend on, and which running a new target
keeps. The target may have been found earlier, before its dependencies were run. -/
structure Steady (r : TargetRunner β σ) (deps : String → Option (List String))
    (inv : Progress σ → Prop) : Prop where
  find : ∀ {g : Progress σ} (name : String), inv g → (r.find g.state name).map (·.depends) = deps name
  enter : ∀ {g g' : Progress σ} {name : String} {t : Target β}, inv g →
    r.find g.state name = some t → inv g' → name ∉ g'.done → inv ⟨r.enter t g'.state, name :: g'.done⟩

theorem visited_visitEach {visit : String → Progress σ → Progress σ × Option RunError}
    (h : ∀ name g, inv g → Settled deps g.done →
      Visited deps inv depth visiting [name] g (visit name g))
    (names : List String) (g : Progress σ) (hinv : inv g) (hsettled : Settled deps g.done) :
    Visited deps inv depth visiting names g (visitEach visit names g) := by
  induction names generalizing g with
  | nil => exact .of_done hinv hsettled nofun
  | cons name names ih =>
    have hname := h name g hinv hsettled
    rw [visitEach]
    split
    next g' e heq =>
      rw [heq] at hname
      exact hname.cons_of_stops
    next g' heq =>
      rw [heq] at hname
      exact hname.cons (ih g' hname.invariant hname.settled)

/-- **What visiting a target comes to.** By induction on the depth: the dependencies are visited with
the target itself among those that may not get done. -/
theorem visited_visit (hr : r.Steady deps inv) (depth : Nat) (visiting : List String) (name : String)
    (g : Progress σ) (hinv : inv g) (hsettled : Settled deps g.done) :
    Visited deps inv depth visiting [name] g (r.visit depth visiting name g) := by
  induction depth generalizing visiting name g with
  | zero => exact .of_stops hinv hsettled (.tooDeep [] .nil nofun nofun rfl)
  | succ depth ih =>
    rw [visit]
    split
    next hdone =>
      have hdone : name ∈ g.done := by simpa using hdone
      exact .of_done hinv hsettled fun a ha => List.mem_singleton.1 ha ▸ hdone
    next hdone =>
      have htodo : name ∉ g.done := by simpa using hdone
      have hreach : ReachableFrom deps [name] name := ⟨name, List.mem_singleton_self _, .refl⟩
      split
      next hfind =>
        have hundeclared : deps name = none := by rw [← hr.find name hinv, hfind]; rfl
        exact .of_stops hinv hsettled (.unknownTarget hreach hundeclared)
      next t hfind =>
        have hname : deps name = some t.depends := by rw [← hr.find name hinv, hfind]; rfl
        split
        next hvisiting =>
          exact .of_stops hinv hsettled (.circular hreach (Or.inl (by simpa using hvisiting)))
        next hvisiting =>
          have hnew : name ∉ visiting := by simpa using hvisiting
          have hdeps := visited_visitEach (fun a g => ih (name :: visiting) a g) t.depends g hinv
            hsettled
          split
          next g' e heq =>
            rw [heq] at hdeps
            exact hdeps.of_depends_stops hname hnew
          next g' heq =>
            rw [heq] at hdeps
            -- the target was found before its dependencies ran, and runs after them
            refine hdeps.of_depends hname hnew htodo (hr.enter hinv hfind hdeps.invariant ?_)
            exact fun hmem => htodo (hdeps.spared name List.mem_cons_self hmem)

/-! ## Writing down what runs -/

/-- A runner that writes down the targets that it runs. -/
def traced (r : TargetRunner β σ) : TargetRunner β (σ × List String) where
  find s name := r.find s.1 name
  enter t s := (r.enter t s.1, s.2 ++ [t.name])

/-- A progress without what was written down. -/
def untraced (x : Progress (σ × List String) × Option RunError) : Progress σ × Option RunError :=
  (⟨x.1.state.1, x.1.done⟩, x.2)

theorem visitEach_untraced {visit : String → Progress σ → Progress σ × Option RunError}
    {visit' : String → Progress (σ × List String) → Progress (σ × List String) × Option RunError}
    (h : ∀ name g, untraced (visit' name g) = visit name ⟨g.state.1, g.done⟩)
    (names : List String) (g : Progress (σ × List String)) :
    untraced (visitEach visit' names g) = visitEach visit names ⟨g.state.1, g.done⟩ := by
  induction names generalizing g with
  | nil => rfl
  | cons name names ih =>
    rw [visitEach, visitEach, ← h]
    rcases visit' name g with ⟨g', _ | e⟩
    · exact ih g'
    · rfl

theorem visit_untraced (depth : Nat) (visiting : List String) (name : String)
    (g : Progress (σ × List String)) :
    untraced (r.traced.visit depth visiting name g) =
      r.visit depth visiting name ⟨g.state.1, g.done⟩ := by
  induction depth generalizing visiting name g with
  | zero => rfl
  | succ depth ih =>
    have hfind : r.traced.find g.state name = r.find g.state.1 name := rfl
    rw [visit, visit, hfind]
    by_cases hdone : g.done.contains name
    · rw [if_pos hdone, if_pos hdone]
      rfl
    · rw [if_neg hdone, if_neg hdone]
      cases r.find g.state.1 name with
      | none => rfl
      | some t =>
        by_cases hvisiting : visiting.contains name
        · simp only [hvisiting, if_true]
          rfl
        · have hdeps := visitEach_untraced (fun a g => ih (name :: visiting) a g) t.depends g
          simp only [hvisiting]
          rw [← hdeps]
          rcases visitEach (r.traced.visit depth (name :: visiting)) t.depends g with ⟨g', _ | e⟩ <;> rfl

/-- **Writing down what runs changes nothing else.** -/
theorem run_traced (r : TargetRunner β σ) (depth : Nat) (names : List String) (s : σ) :
    r.run depth names s =
      ((r.traced.run depth names (s, [])).1.1, (r.traced.run depth names (s, [])).2) := by
  have h := visitEach_untraced (fun a g => visit_untraced (r := r) depth [] a g) names ⟨(s, []), []⟩
  rw [run, ← h]
  rfl

end TargetRunner

end TaskBuilders.Script
