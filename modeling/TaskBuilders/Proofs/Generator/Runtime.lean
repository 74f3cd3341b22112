import TaskBuilders.Proofs.Generator.Registration

/-!
# The runtime package of a run

A run begins with the configured runtime package and takes over the one of the first library of another
package that is loaded. That library settles the matter even when it names no runtime package, so that
runtime packages of later libraries are ignored. The classes of the runtime package in use are always
registered.

* `Rooted`, `rooted_performAll` — the root classes of the runtime package in use are there
* `runtime_loads` — the first library decides
* `runtime_loads_iff` — when the runtime package is the first one that a library names
-/

namespace TaskBuilders.Generator

open Naming

variable {g g' : Generator} {l : Loading} {ls : List Loading}

/-! ## Root classes -/

/-- The root classes of the runtime package in use are registered. -/
def Rooted (g : Generator) : Prop :=
  ∀ root ∈ rootNames, g.library.resolves (g.runtimeName root) = true

theorem Rooted.grows (h : Rooted g) (hg : Grows g g') : Rooted g' := by
  intro root hroot
  rw [runtimeName, hg.emitter]
  exact hg.library.resolves (h root hroot)

theorem Rooted.load (h : Rooted g) (l : Loading) : Rooted (g.load l) := by
  intro root hroot
  cases hsame : g.samePackage l with
  | true =>
    rw [load_of_own hsame]
    exact h root hroot
  | false =>
    obtain ⟨hlibrary, hemitter⟩ := library_load_of_other hsame
    have hsettled := resolves_settleRuntime hroot (h root hroot) l.library
    rw [Structure.resolves_iff] at hsettled
    obtain ⟨c, hc⟩ := hsettled
    obtain ⟨c', hc', _⟩ := Structure.exists_grows_merge l.library hc
    rw [runtimeName, hemitter, hlibrary, Structure.resolves_iff]
    exact ⟨c', hc'⟩

theorem Rooted.fresh {p : Provider} {o : GeneratorOptions} (h : Generator.new p o = .ok g) :
    Rooted g := by
  intro root hroot
  rw [(fresh_of_new h).library]
  exact g.resolves_rootClasses _ hroot

/-- **The root classes of the runtime package in use stay registered in all operations.** -/
theorem rooted_performAll {p : Provider} {o : GeneratorOptions} {g₀ : Generator}
    (hnew : Generator.new p o = .ok g₀) (ops : List Operation) : Rooted (g₀.performAll ops) :=
  keeps_performAll_of_steps (fun _ _ hm h => h.grows hm.grows) ops g₀ (fun l _ _ h => h.load l)
    (.fresh hnew)

/-! ## The library that decides -/

/-- The first runtime package that the structures name, or the configured one. -/
def firstRuntime (configured : String) (ss : List Structure) : String :=
  ((ss.map (·.runtime)).find? (· ≠ "")).getD configured

@[simp] theorem firstRuntime_nil (configured : String) : firstRuntime configured [] = configured := rfl

theorem firstRuntime_cons (configured : String) (s : Structure) (ss : List Structure) :
    firstRuntime configured (s :: ss) =
      if s.runtime = "" then firstRuntime configured ss else s.runtime := by
  by_cases h : s.runtime = "" <;> simp [firstRuntime, h]

/-- Loading a library of another package before any other one takes over its runtime package. -/
theorem runtime_load_of_unsettled (h : g.runtimeSettled = false) (hother : g.samePackage l = false) :
    (g.load l).runtime = firstRuntime g.runtime [l.library] := by
  rw [runtime, (library_load_of_other hother).2, firstRuntime_cons, firstRuntime_nil]
  unfold settleRuntime
  by_cases hempty : l.library.runtime = ""
  · simp [hempty, runtime]
  · by_cases hsame : l.library.runtime = g.runtime
    · simp [hsame, runtime]
    · simp [hempty, hsame, h, switchRuntime, registerRoots]

/-- Once the runtime package is settled, loading keeps it. -/
theorem runtime_loads_of_settled : ∀ (ls : List Loading) (g : Generator),
    g.runtimeSettled = true → (g.performAll (ls.map .load)).runtime = g.runtime
  | [], _, _ => rfl
  | l :: ls, g, h => by
    have hsettled : (g.load l).runtimeSettled = true := by
      cases hsame : g.samePackage l with
      | true => rw [load_of_own hsame]; exact h
      | false => exact runtimeSettled_load hsame
    exact (runtime_loads_of_settled ls (g.load l) hsettled).trans (runtime_load_of_settled h l)

/-- **The first library decides about the runtime package**, whether it names one or not. -/
theorem runtime_loads (h : g.runtimeSettled = false) (hother : ∀ l ∈ ls, g.samePackage l = false) :
    (g.performAll (ls.map .load)).runtime =
      firstRuntime g.runtime ((ls.map Loading.library).take 1) := by
  cases ls with
  | nil => rfl
  | cons l ls =>
    have hl := hother l List.mem_cons_self
    calc (g.performAll ((l :: ls).map .load)).runtime
        = (g.load l).runtime := runtime_loads_of_settled ls (g.load l) (runtimeSettled_load hl)
      _ = firstRuntime g.runtime [l.library] := runtime_load_of_unsettled h hl

/-- The first structure names the first runtime package, or there is no other than the configured one. -/
theorem firstRuntime_take_one_iff (configured : String) (ss : List Structure) :
    firstRuntime configured (ss.take 1) = firstRuntime configured ss ↔
      firstRuntime configured ss = configured ∨ ∃ s rest, ss = s :: rest ∧ s.runtime ≠ "" := by
  cases ss with
  | nil => simp
  | cons s ss =>
    rw [List.take_succ_cons, List.take_zero, firstRuntime_cons, firstRuntime_cons, firstRuntime_nil]
    by_cases hempty : s.runtime = ""
    · rw [if_pos hempty, if_pos hempty]
      constructor
      · exact fun h => Or.inl h.symm
      · rintro (h | ⟨s', rest, he, hnamed⟩)
        · exact h.symm
        · obtain ⟨rfl, _⟩ := List.cons.inj he
          exact absurd hempty hnamed
    · rw [if_neg hempty, if_neg hempty]
      exact ⟨fun _ => Or.inr ⟨s, ss, rfl, hempty⟩, fun _ => rfl⟩

/-- **The runtime package after loading libraries of other packages** is the one that the library, the
root container and the root classes are of. It is the first one that a library names if and only if the
first library names it or it is the configured one. The orders in which their classes are met do not
matter. -/
theorem runtime_loads_iff {p : Provider} {o : GeneratorOptions} {g₀ : Generator}
    (hnew : Generator.new p o = .ok g₀) (ls : List Loading)
    (hother : ∀ l ∈ ls, Elsewhere o.importPath l.library) :
    let g := g₀.performAll (ls.map .load)
    let ss := ls.map Loading.library
    (g.library.runtime = g.runtime ∧ g.rootContainer = qualify g.runtime "TaskContainer" ∧
      ∀ root ∈ rootNames, g.library.resolves (qualify g.runtime root) = true) ∧
    g.runtime = firstRuntime o.runtimePath (ss.take 1) ∧
    (g.runtime = firstRuntime o.runtimePath ss ↔
      firstRuntime o.runtimePath ss = o.runtimePath ∨ ∃ s rest, ss = s :: rest ∧ s.runtime ≠ "") := by
  intro g ss
  obtain ⟨hunsettled, hconfigured⟩ := runtime_of_new hnew
  have himport : g₀.options.importPath = o.importPath := by rw [options_of_new hnew]; rfl
  have hsame : ∀ l ∈ ls, g₀.samePackage l = false := fun l hl =>
    Elsewhere.samePackage (himport ▸ hother l hl)
  have hruntime : g.runtime = firstRuntime o.runtimePath (ss.take 1) :=
    hconfigured ▸ runtime_loads hunsettled hsame
  refine ⟨⟨(runs_performAll hnew _).library, rfl, rooted_performAll hnew _⟩, hruntime, ?_⟩
  rw [hruntime]
  exact firstRuntime_take_one_iff o.runtimePath ss

/-- A library that was made from one type. -/
def oneTypeLibrary (runtime name source : String) : Structure :=
  { runtime, classes := Dict.ofList [(name, { name, source })] }

/-- Two libraries with different runtime packages: the run uses that of the first one. -/
theorem runtime_loads_iff_looms :
    ∃ g₀, Generator.new (.static []) { importPath := "m/out", runtimePath := "m/rt" } = .ok g₀ ∧
      let ls := [Loading.byName (oneTypeLibrary "m/base" "m/lib.DSLLoom" "x.Loom"),
        Loading.byName (oneTypeLibrary "m/other" "m/two.DSLReed" "x.Reed")]
      (∀ l ∈ ls, Elsewhere "m/out" l.library) ∧
      firstRuntime "m/rt" (ls.map Loading.library) = "m/base" ∧
      (g₀.performAll (ls.map .load)).runtime = "m/base" ∧
      ["m/base.TaskContainer", "m/base.Project", "m/base.Target"].map
        (g₀.performAll (ls.map .load)).library.resolves = [true, true, true] := by
  refine ⟨_, rfl, by decide +kernel, by decide +kernel, ?_, by decide +kernel⟩
  have h := runtime_loads_iff (p := .static [])
    (o := { importPath := "m/out", runtimePath := "m/rt" }) rfl
    [.byName (oneTypeLibrary "m/base" "m/lib.DSLLoom" "x.Loom"),
      .byName (oneTypeLibrary "m/other" "m/two.DSLReed" "x.Reed")] (by decide +kernel)
  exact h.2.2.2 (Or.inr ⟨_, _, rfl, by decide⟩)

/-- A library that names no runtime package is loaded before one that does: the run keeps the configured
runtime package, and the classes of the only one that was named are not there. -/
theorem unnamed_runtime_settles :
    ∃ g₀, Generator.new (.static []) { importPath := "m/out", runtimePath := "m/rt" } = .ok g₀ ∧
      let ls := [Loading.byName (oneTypeLibrary "" "m/lib.DSLLoom" "x.Loom"),
        Loading.byName (oneTypeLibrary "m/base" "m/two.DSLReed" "x.Reed")]
      let g := g₀.performAll (ls.map .load)
      (∀ l ∈ ls, Elsewhere "m/out" l.library) ∧
      firstRuntime "m/rt" (ls.map Loading.library) = "m/base" ∧
      g.runtime = "m/rt" ∧ g.rootContainer = "m/rt.TaskContainer" ∧ g.library.runtime = "m/rt" ∧
      g.library.resolves "m/base.TaskContainer" = false := by
  refine ⟨_, rfl, ?_⟩
  decide +kernel

end TaskBuilders.Generator
