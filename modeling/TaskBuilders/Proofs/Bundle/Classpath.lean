import Mathlib.Data.List.Forall2
import TaskBuilders.Bundle.Classpath
import TaskBuilders.Proofs.Definition.Distinct
import TaskBuilders.Proofs.Dict.Lookup

/-!
# What a classpath defines

A classpath lists the identifiers that its bundles declare, and it answers questions for them.
Within a bundle the last definition of an identifier counts, and of all bundles the first that
declares it; the list has every identifier at its first place. Both agree on which identifiers there
are.

* `Bundle.exists_found_of_atPath` — a bundle has the tasks of its descriptors, in the order of its
  entries
* `Provider.ask_static` — a fixed set of definitions answers with the last one
* `Classpath.ask_provider` — a classpath answers with the first bundle that declares an identifier
* `Classpath.definitions_match_provider` — the list and the answers agree
-/

namespace TaskBuilders

/-! ## Fixed sets of definitions -/

/-- The last definition of an identifier. -/
def lastDefinition? (defs : List TaskDefinition) (id : String) : Option TaskDefinition :=
  defs.reverse.find? (·.id == id)

theorem lastDefinition?_eq_some_iff {defs : List TaskDefinition} {id : String}
    {d : TaskDefinition} :
    lastDefinition? defs id = some d ↔
      ∃ before after, defs = before ++ d :: after ∧ d.id = id ∧ ∀ d' ∈ after, d'.id ≠ id := by
  rw [lastDefinition?, List.find?_eq_some_iff_append, beq_iff_eq]
  constructor
  · rintro ⟨hid, after, before, hdefs, hafter⟩
    refine ⟨before.reverse, after.reverse, ?_, hid, fun d' hd' => ?_⟩
    · simpa using congrArg List.reverse hdefs
    · simpa using hafter d' (List.mem_reverse.1 hd')
  · rintro ⟨before, after, rfl, hid, hafter⟩
    refine ⟨hid, after.reverse, before.reverse, by simp, fun d' hd' => ?_⟩
    simpa using hafter d' (List.mem_reverse.1 hd')

theorem lastDefinition?_eq_none_iff {defs : List TaskDefinition} {id : String} :
    lastDefinition? defs id = none ↔ id ∉ defs.map (·.id) := by
  simp [lastDefinition?]

/-- **A fixed set of definitions answers with the last one.** -/
theorem Provider.ask_static (defs : List TaskDefinition) (id : String) (m : Memory) :
    (static defs).ask id m =
      ((lastDefinition? defs id).elim (.failed (notFound id)) .found, m) := by
  have hlookup : ∀ ds : List TaskDefinition,
      (ds.map fun d => (d.id, some d)).lookup id = (ds.find? (·.id == id)).map some := by
    intro ds
    induction ds with
    | nil => rfl
    | cons d ds ih =>
      rw [List.map_cons, Dict.lookup_cons_eq, ih, List.find?_cons]
      by_cases hd : id = d.id
      · rw [if_pos hd, beq_iff_eq.2 hd.symm, Option.map_some]
      · rw [if_neg hd, beq_eq_false_iff_ne.2 (Ne.symm hd)]
  have hget : (Dict.ofList (defs.map fun d => (d.id, some d))).get? id =
      (lastDefinition? defs id).map some := by
    rw [Dict.get?_ofList, ← List.map_reverse, hlookup, lastDefinition?]
  unfold static table stateless
  dsimp only
  rw [hget]
  cases lastDefinition? defs id with
  | none => rfl
  | some d => rfl

/-! ## Bundles -/

namespace Bundle

open Files (Tree)

/-- Entries that are all read give one result each. -/
theorem forall₂_of_mapM {ε α β : Type} {f : α → Except ε β} {xs : List α} :
    ∀ {ys : List β}, xs.mapM f = .ok ys → List.Forall₂ (fun x y => f x = .ok y) xs ys := by
  induction xs with
  | nil =>
    intro ys h
    obtain rfl := Except.ok.inj h
    exact .nil
  | cons x xs ih =>
    intro ys h
    rw [List.mapM_cons] at h
    cases hx : f x with
    | error e => rw [hx] at h; cases h
    | ok y =>
      cases hxs : xs.mapM f with
      | error e => rw [hx, hxs] at h; cases h
      | ok ys' =>
        rw [hx, hxs] at h
        obtain rfl := Except.ok.inj h
        exact .cons hx (ih hxs)

theorem exists_found_of_withTasks {t : Tree} {b b' : Bundle} (h : withTasks t b = .ok b') :
    ∃ found, List.Forall₂ (fun name ds => b'.readEntry t name = .ok ds)
      (b'.entries.filter isDescriptorName) found ∧ b'.tasks = found.flatten := by
  unfold withTasks at h
  split at h
  · cases h
  · next found hfound =>
    obtain rfl := Except.ok.inj h
    exact ⟨found, forall₂_of_mapM hfound, rfl⟩

/-- **A bundle has the tasks of its descriptors, in the order of its entries.** -/
theorem exists_found_of_atPath {t : Tree} {path : String} {b : Bundle} (h : atPath t path = .ok b) :
    ∃ found, List.Forall₂ (fun name ds => b.readEntry t name = .ok ds)
      (b.entries.filter isDescriptorName) found ∧ b.tasks = found.flatten := by
  unfold atPath at h
  split at h
  · cases h
  · cases h
  · split at h
    · exact exists_found_of_withTasks h
    · exact exists_found_of_withTasks h
    · cases h

end Bundle

/-! ## Classpaths -/

namespace Classpath

open Files (Tree)

/-- The definition that a classpath has for an identifier: the last one of the first bundle that has
any. -/
def definition? (c : Classpath) (id : String) : Option TaskDefinition :=
  c.findSome? fun b => lastDefinition? b.tasks id

/-- **A classpath answers with the first bundle that declares an identifier.** -/
theorem ask_provider (c : Classpath) (id : String) (m : Memory) :
    c.provider.ask id m = ((c.definition? id).elim (.failed (notFound id)) .found, m) := by
  show Provider.askInTurn id (c.map Bundle.provider) [] m = _
  induction c with
  | nil => rfl
  | cons b c ih =>
    rw [List.map_cons, Provider.askInTurn, Bundle.provider, Provider.ask_static, definition?,
      List.findSome?_cons]
    cases lastDefinition? b.tasks id with
    | none => exact ih
    | some d => rfl

/-- The identifiers in the order in which they are declared. -/
def declared (c : Classpath) : List String := c.flatMap fun b => b.tasks.map (·.id)

theorem definitions_eq (c : Classpath) : c.definitions = distinct c.declared :=
  distinct_flatMap_distinct _ c

theorem definition?_eq_none_iff {c : Classpath} {id : String} :
    c.definition? id = none ↔ id ∉ c.definitions := by
  simp [definition?, lastDefinition?_eq_none_iff, definitions_eq, declared]

theorem definition?_eq_some_iff {c : Classpath} {id : String} {d : TaskDefinition} :
    c.definition? id = some d ↔
      d.id = id ∧ ∃ pre b post before after, c = pre ++ b :: post ∧
        (∀ b' ∈ pre, ∀ d' ∈ b'.tasks, d'.id ≠ id) ∧
        b.tasks = before ++ d :: after ∧ ∀ d' ∈ after, d'.id ≠ id := by
  have hnone (pre : Classpath) : (∀ b' ∈ pre, lastDefinition? b'.tasks id = none) ↔
      ∀ b' ∈ pre, ∀ d' ∈ b'.tasks, d'.id ≠ id := by
    simp [lastDefinition?_eq_none_iff]
  rw [definition?, List.findSome?_eq_some_iff]
  simp only [lastDefinition?_eq_some_iff]
  constructor
  · rintro ⟨pre, b, post, hc, ⟨before, after, htasks, hid, hafter⟩, hpre⟩
    exact ⟨hid, pre, b, post, before, after, hc, (hnone pre).1 hpre, htasks, hafter⟩
  · rintro ⟨hid, pre, b, post, before, after, hc, hpre, htasks, hafter⟩
    exact ⟨pre, b, post, hc, ⟨before, after, htasks, hid, hafter⟩, (hnone pre).2 hpre⟩

theorem found_provider_iff {c : Classpath} {id : String} {m : Memory} {d : TaskDefinition} :
    (c.provider.ask id m).1 = .found d ↔ c.definition? id = some d := by
  rw [ask_provider]
  cases c.definition? id with
  | none => simp
  | some d' => simp

/-- **The list of a classpath and its answers agree.** The list has no repetitions and stands in the
order of first declarations. It has exactly the identifiers that are answered with a definition: the
last one of the first bundle that declares the identifier. The tasks of a bundle are those of its
descriptors, in the order of the entries. -/
theorem definitions_match_provider (c : Classpath) :
    c.definitions.Nodup ∧
    c.definitions.Pairwise (fun a b => c.declared.idxOf a < c.declared.idxOf b) ∧
    (∀ id m, id ∈ c.definitions ↔ ∃ d, (c.provider.ask id m).1 = .found d) ∧
    (∀ id m d, (c.provider.ask id m).1 = .found d ↔
      d.id = id ∧ ∃ pre b post before after, c = pre ++ b :: post ∧
        (∀ b' ∈ pre, ∀ d' ∈ b'.tasks, d'.id ≠ id) ∧
        b.tasks = before ++ d :: after ∧ ∀ d' ∈ after, d'.id ≠ id) ∧
    ∀ (t : Tree) (path : String) (b : Bundle), Bundle.atPath t path = .ok b →
      ∃ found, List.Forall₂ (fun name ds => b.readEntry t name = .ok ds)
        (b.entries.filter Bundle.isDescriptorName) found ∧ b.tasks = found.flatten := by
  refine ⟨nodup_distinct _, ?_, fun id m => ?_, fun id m d => ?_,
    fun t path b => Bundle.exists_found_of_atPath⟩
  · rw [definitions_eq]
    exact pairwise_distinct c.declared
  · simp only [found_provider_iff]
    rw [← Option.isSome_iff_exists, ← Option.ne_none_iff_isSome, ne_eq, definition?_eq_none_iff,
      not_not]
  · rw [found_provider_iff, definition?_eq_some_iff]

/-- The second bundle declares `x.Saw` as well, but the last definition of the first one counts. -/
example :
    let c : Classpath :=
      [⟨"a", .directory, [], [{ id := "x.Saw" }, { id := "x.Saw", executable := true }]⟩,
        ⟨"b", .directory, [], [{ id := "x.Axe" }, { id := "x.Saw" }]⟩]
    c.definitions = ["x.Saw", "x.Axe"] ∧
      (c.provider.ask "x.Saw" []).1 = .found { id := "x.Saw", executable := true } := by
  decide

end Classpath

end TaskBuilders
