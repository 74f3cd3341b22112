import TaskBuilders.Proofs.Structure.Functions

/-!
# Merging structures

A structure that is merged into another one adds what the other has not: whole classes, and builders
to classes that both have. The classes that are added have different names, so nothing depends on the
order in which they are met.

* `class?_merge`, `functionAt?_merge` — what stands under a class and under a key afterwards
* `mergeInOrder_perm` — the order in which the classes are met leaves no trace
-/

namespace TaskBuilders

/-- The left dictionary answers before the right one. -/
theorem Dict.get?_union {α : Type} (d e : Dict α) (k : String) :
    (d.union e).get? k = (d.get? k).or (e.get? k) := by
  have hfold : ∀ (es : List (String × α)) (d : Dict α),
      (es.foldl (fun acc x => acc.insertNew x.1 x.2) d).get? k = (d.get? k).or (es.lookup k) := by
    intro es
    induction es with
    | nil => intro d; exact Option.or_none.symm
    | cons x es ih =>
      intro d
      rw [List.foldl_cons, ih, get?_insertNew, lookup_cons_eq]
      by_cases hk : k = x.1
      · rw [if_pos hk, if_pos hk, hk]
        cases d.get? x.1 <;> rfl
      · rw [if_neg hk, if_neg hk]
  exact hfold e.entries d

namespace Structure

variable {s other : Structure}

/-- Structures with one runtime and the same classes are the same. -/
theorem ext_class? {s s' : Structure} (hruntime : s'.runtime = s.runtime)
    (hclass : ∀ name, s'.class? name = s.class? name) : s' = s := by
  obtain ⟨runtime, classes⟩ := s
  obtain ⟨runtime', classes'⟩ := s'
  obtain rfl : classes' = classes := Dict.ext_get? hclass
  obtain rfl : runtime' = runtime := hruntime
  rfl

/-- A class is listed under the name that it is stored under. -/
theorem exists_class_of_mem_listing {c : StructureClass} (h : c ∈ s.listing) :
    ∃ c', s.class? c.name = some c' ∧ c = { c' with name := c.name } := by
  obtain ⟨⟨name, c'⟩, he, rfl⟩ := List.mem_map.1 h
  exact ⟨c', (s.classes.mem_entries_iff name c').1 he, rfl⟩

/-! ## One class -/

/-- A class of another structure as it stands beside what was there under its name. -/
def joinClass (mine : Option StructureClass) (theirs : StructureClass) : StructureClass :=
  mine.elim theirs (mergeClass · theirs)

theorem class?_adoptClass (s : Structure) (key name : String) (theirs : StructureClass) :
    (s.adoptClass key theirs).class? name =
      if name = key then some (joinClass (s.class? key) theirs) else s.class? name := by
  unfold adoptClass
  cases hmine : s.class? key with
  | none => exact Dict.get?_insert s.classes key name theirs
  | some mine => exact Dict.get?_insert s.classes key name (mergeClass mine theirs)

@[simp] theorem runtime_adoptClass (s : Structure) (key : String) (theirs : StructureClass) :
    (s.adoptClass key theirs).runtime = s.runtime := by
  unfold adoptClass
  split <;> rfl

/-- Classes with different names may be added in either order. -/
theorem adoptClass_comm {k k' : String} (hne : k ≠ k') (s : Structure) (c c' : StructureClass) :
    (s.adoptClass k c).adoptClass k' c' = (s.adoptClass k' c').adoptClass k c := by
  refine ext_class? (by simp) fun name => ?_
  simp only [class?_adoptClass, if_neg hne, if_neg hne.symm]
  by_cases hk : name = k
  · rw [if_neg (hk ▸ hne), if_pos hk, if_pos hk]
  · rw [if_neg hk, if_neg hk]

/-! ## All classes -/

/-- **The order in which classes are met leaves no trace.** -/
theorem mergeInOrder_perm {es : List (String × StructureClass)}
    (hes : es.Perm other.classes.entries) : s.mergeInOrder other es = s.merge other := by
  refine hes.foldl_eq' (fun e he e' he' acc => ?_) _
  have hmem := (other.classes.mem_entries_iff e.1 e.2).1 (hes.subset he)
  have hmem' := (other.classes.mem_entries_iff e'.1 e'.2).1 (hes.subset he')
  by_cases hkey : e.1 = e'.1
  · -- of two classes with one name there is only one
    rw [hkey, hmem'] at hmem
    rw [hkey, Option.some.inj hmem]
  · exact adoptClass_comm hkey acc e.2 e'.2

theorem class?_foldl_adoptClass (name : String) : ∀ (es : List (String × StructureClass)),
    (es.map Prod.fst).Nodup → ∀ s : Structure,
    (es.foldl (fun acc e => acc.adoptClass e.1 e.2) s).class? name =
      (es.lookup name).elim (s.class? name) fun theirs => some (joinClass (s.class? name) theirs)
  | [], _, _ => rfl
  | e :: es, hkeys, s => by
    obtain ⟨hhead, htail⟩ := List.nodup_cons.1 hkeys
    rw [List.foldl_cons, class?_foldl_adoptClass name es htail, class?_adoptClass,
      Dict.lookup_cons_eq]
    by_cases hname : name = e.1
    · have hnone : es.lookup name = none := by
        rw [List.lookup_eq_none_iff]
        intro e' he'
        refine bne_iff_ne.2 fun he => hhead ?_
        rw [← hname, he]
        exact List.mem_map_of_mem he'
      rw [if_pos hname, if_pos hname, hnone, hname]
      rfl
    · rw [if_neg hname, if_neg hname]

/-- What stands under a name afterwards. -/
theorem class?_merge (s other : Structure) (name : String) : (s.merge other).class? name =
    (other.class? name).elim (s.class? name)
      fun theirs => some (joinClass (s.class? name) theirs) := by
  have hclass : (if s.runtime = "" then { s with runtime := other.runtime } else s).class? name =
      s.class? name := by split <;> rfl
  rw [merge, mergeInOrder, class?_foldl_adoptClass name _ other.classes.nodup_keys, hclass]
  rfl

/-- **The builders of the first structure come before those of the second.** -/
theorem functionAt?_merge (s other : Structure) (name key : String) :
    (s.merge other).functionAt? name key =
      (s.functionAt? name key).or (other.functionAt? name key) := by
  unfold functionAt?
  rw [class?_merge]
  cases other.class? name with
  | none => exact Option.or_none.symm
  | some theirs =>
    cases s.class? name with
    | none => rfl
    | some mine => exact Dict.get?_union mine.functions theirs.functions key

end Structure

end TaskBuilders
