import TaskBuilders.Proofs.Structure.Merge

/-!
# Structures that grow

A structure gains classes, and its classes gain builders. Registering a class, declaring a builder and
merging another structure take nothing back: a class keeps what it says about itself, and a builder stays
as it was declared.

* `StructureClass.Grows`, `Structure.Grows` — nothing of a class, of a structure is lost
* `grows_register`, `grows_addFunction`, `grows_merge` — the changes that only add
-/

namespace TaskBuilders

/-- A class with everything that it had: builders may have been added, and nothing else is different. -/
structure StructureClass.Grows (c c' : StructureClass) : Prop where
  name : c'.name = c.name
  source : c'.source = c.source
  capability : c'.capability = c.capability
  traits : c'.traits = c.traits
  functions : ∀ key f, c.functions.get? key = some f → c'.functions.get? key = some f

namespace StructureClass.Grows

variable {c c' c'' : StructureClass}

theorem refl (c : StructureClass) : Grows c c := ⟨rfl, rfl, rfl, rfl, fun _ _ h => h⟩

theorem trans (h : Grows c c') (h' : Grows c' c'') : Grows c c'' where
  name := h'.name.trans h.name
  source := h'.source.trans h.source
  capability := h'.capability.trans h.capability
  traits := h'.traits.trans h.traits
  functions := fun key f hf => h'.functions key f (h.functions key f hf)

end StructureClass.Grows

/-- The builders of another class come after those that are there. -/
theorem Structure.grows_mergeClass (mine theirs : StructureClass) :
    mine.Grows (mergeClass mine theirs) where
  name := rfl
  source := rfl
  capability := rfl
  traits := rfl
  functions := by
    intro key f hf
    show (mine.functions.union theirs.functions).get? key = some f
    simp [Dict.get?_union, hf]

/-- A structure with everything that it had. -/
structure Structure.Grows (s s' : Structure) : Prop where
  runtime : s'.runtime = s.runtime
  classes : ∀ name c, s.class? name = some c → ∃ c', s'.class? name = some c' ∧ c.Grows c'

namespace Structure

variable {s s' s'' : Structure}

theorem Grows.refl (s : Structure) : Grows s s := ⟨rfl, fun _ c hc => ⟨c, hc, .refl c⟩⟩

theorem Grows.trans (h : Grows s s') (h' : Grows s' s'') : Grows s s'' where
  runtime := h'.runtime.trans h.runtime
  classes := by
    intro name c hc
    obtain ⟨c', hc', hgrows⟩ := h.classes name c hc
    obtain ⟨c'', hc'', hgrows'⟩ := h'.classes name c' hc'
    exact ⟨c'', hc'', hgrows.trans hgrows'⟩

/-- A builder stays as it was declared. -/
theorem Grows.functionAt? (h : Grows s s') {name key : String} {f : BuilderFunction}
    (hf : s.functionAt? name key = some f) : s'.functionAt? name key = some f := by
  obtain ⟨c, hc, hkey⟩ := Option.bind_eq_some_iff.1 hf
  obtain ⟨c', hc', hgrows⟩ := h.classes name c hc
  simp [Structure.functionAt?, hc', hgrows.functions key f hkey]

theorem grows_register (s : Structure) (c : StructureClass) : Grows s (s.register c) :=
  ⟨rfl, fun _ mine hmine => ⟨mine, class?_register_of_some hmine c, .refl mine⟩⟩

theorem grows_addFunction {name tag builder package : String} {attrs : List AttributeDescriptor}
    {produced : String} (h : s.addFunction name tag builder package attrs produced = .ok s') :
    Grows s s' := by
  unfold addFunction at h
  split at h
  · cases h
  · next c hc =>
    split at h
    · cases h
    · next hnew =>
      obtain rfl := Except.ok.inj h
      refine ⟨rfl, fun n mine hmine => ?_⟩
      show ∃ c', (s.classes.insert name _).get? n = some c' ∧ mine.Grows c'
      by_cases hn : n = name
      · subst hn
        obtain rfl := Option.some.inj (hc.symm.trans hmine)
        refine ⟨_, Dict.get?_insert_self _ _ _, rfl, rfl, rfl, rfl, fun key f hf => ?_⟩
        -- the builder is new, so that its key had none before
        have hkey : key ≠ Text.lowercase tag := by
          rintro rfl
          simp [StructureClass.containsFunction, StructureClass.function?, hf] at hnew
        rw [Dict.get?_insert_of_ne _ _ hkey, hf]
      · exact ⟨mine, by rw [Dict.get?_insert_of_ne _ _ hn]; exact hmine, .refl mine⟩

theorem runtime_merge (s other : Structure) :
    (s.merge other).runtime = if s.runtime = "" then other.runtime else s.runtime := by
  have hfold : ∀ (es : List (String × StructureClass)) (s : Structure),
      (es.foldl (fun acc e => acc.adoptClass e.1 e.2) s).runtime = s.runtime := by
    intro es
    induction es with
    | nil => intro s; rfl
    | cons e es ih => intro s; simp [ih]
  rw [merge, mergeInOrder, hfold]
  split <;> rfl

/-- A class gains the builders of the merged one, and nothing else of it. -/
theorem exists_grows_merge (other : Structure) {name : String} {c : StructureClass}
    (hc : s.class? name = some c) : ∃ c', (s.merge other).class? name = some c' ∧ c.Grows c' := by
  rw [class?_merge, hc]
  cases other.class? name with
  | none => exact ⟨c, rfl, .refl c⟩
  | some theirs => exact ⟨_, rfl, grows_mergeClass c theirs⟩

/-- A structure that has a runtime only gains by merging. -/
theorem grows_merge (h : s.runtime ≠ "") (other : Structure) : Grows s (s.merge other) where
  runtime := by rw [runtime_merge, if_neg h]
  classes := fun _ _ => exists_grows_merge other

end Structure

end TaskBuilders
