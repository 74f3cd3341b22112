import TaskBuilders.Proofs.Structure.Growth

/-!
# Merging as a left-biased union

A class of a merged structure is the class of the left one with the builders that only the right one
has, and so for every level: of two classes, of two builders and of two runtimes the left one counts.
Merging is thus a monoid on structures in which repetition has no effect. It also does not matter in
which order the classes of the right structure are met, nor in which order the builders of each class
are: `Walk` is such an order, and `mergeAlong` goes along it builder by builder.

* `class?_merge_eq_merge` — merging is class by class
* `mergeAlong_eq_merge` — the order leaves no trace
* `merge_leftBiased` — merging is a left-biased union
-/

namespace TaskBuilders

/-! ## Dictionaries -/

namespace Dict

variable {α : Type}

/-- Entries with different keys may be added in either order. -/
theorem insertNew_comm {k k' : String} (hne : k ≠ k') (d : Dict α) (a a' : α) :
    (d.insertNew k a).insertNew k' a' = (d.insertNew k' a').insertNew k a := by
  refine ext_get? fun key => ?_
  simp only [get?_insertNew, if_neg hne, if_neg hne.symm]
  by_cases hk : key = k
  · rw [if_neg (hk ▸ hne), if_pos hk, if_pos hk]
  · rw [if_neg hk, if_neg hk]

/-- A dictionary is taken over in any order of its entries. -/
theorem foldl_insertNew_eq_union {d e : Dict α} {es : List (String × α)} (hes : es.Perm e.entries) :
    es.foldl (fun acc x => acc.insertNew x.1 x.2) d = d.union e := by
  refine hes.foldl_eq' (fun x hx y hy acc => ?_) d
  have hgetx := (e.mem_entries_iff x.1 x.2).1 (hes.subset hx)
  have hgety := (e.mem_entries_iff y.1 y.2).1 (hes.subset hy)
  by_cases hkey : x.1 = y.1
  · rw [hkey, hgety] at hgetx
    rw [hkey, Option.some.inj hgetx]
  · exact insertNew_comm hkey acc x.2 y.2

@[simp] theorem empty_union (d : Dict α) : (∅ : Dict α).union d = d :=
  ext_get? fun k => by simp [get?_union]

theorem union_assoc (d e f : Dict α) : (d.union e).union f = d.union (e.union f) :=
  ext_get? fun k => by simp [get?_union, Option.or_assoc]

theorem union_self (d : Dict α) : d.union d = d :=
  ext_get? fun k => by simp [get?_union]

end Dict

namespace Structure

/-! ## One class -/

instance : Std.Associative mergeClass where
  assoc := by
    intro c c' c''
    simp only [mergeClass, Dict.union_assoc]

instance : Std.IdempotentOp mergeClass where
  idempotent := by
    intro c
    simp only [mergeClass, Dict.union_self]

/-- **Structures are merged class by class.** -/
theorem class?_merge_eq_merge (s other : Structure) (name : String) :
    (s.merge other).class? name = (s.class? name).merge mergeClass (other.class? name) := by
  rw [class?_merge]
  cases s.class? name with
  | none => cases other.class? name <;> rfl
  | some mine => cases other.class? name <;> rfl

/-! ## The order of classes and builders -/

/-- An order in which the classes of a structure are met, and for each of them an order in which its
builders are. -/
structure Walk (other : Structure) where
  classes : List (String × StructureClass)
  classes_perm : classes.Perm other.classes.entries
  builders : String → StructureClass → List (String × BuilderFunction)
  builders_perm : ∀ key c, (builders key c).Perm c.functions.entries

/-- Classes and builders by their names. -/
instance (other : Structure) : Inhabited (Walk other) where
  default :=
    { classes := other.classes.entries
      classes_perm := .refl _
      builders := fun _ c => c.functions.entries
      builders_perm := fun _ _ => .refl _ }

/-- Takes builders over one by one, where a class has none under their keys. -/
def takeOver (mine : StructureClass) (fs : List (String × BuilderFunction)) : StructureClass :=
  { mine with functions := fs.foldl (fun acc f => acc.insertNew f.1 f.2) mine.functions }

/-- Puts a class of another structure into `s`, whose builders are met in the order `fs`. A class that
is new begins without builders. -/
def adoptAlong (s : Structure) (key : String) (theirs : StructureClass)
    (fs : List (String × BuilderFunction)) : Structure :=
  { s with classes := s.classes.insert key (takeOver ((s.class? key).getD theirs.bare) fs) }

/-- Adds the classes and builders of another structure in the order of a walk. -/
def mergeAlong (s : Structure) {other : Structure} (w : Walk other) : Structure :=
  w.classes.foldl (fun acc e => acc.adoptAlong e.1 e.2 (w.builders e.1 e.2))
    (if s.runtime = "" then { s with runtime := other.runtime } else s)

theorem takeOver_eq_mergeClass {theirs : StructureClass} {fs : List (String × BuilderFunction)}
    (hfs : fs.Perm theirs.functions.entries) (mine : StructureClass) :
    takeOver mine fs = mergeClass mine theirs := by
  rw [takeOver, Dict.foldl_insertNew_eq_union hfs, mergeClass]

/-- A class that begins without builders ends with all of them. -/
theorem mergeClass_bare (theirs : StructureClass) : mergeClass theirs.bare theirs = theirs := by
  show { theirs with functions := (∅ : Dict BuilderFunction).union theirs.functions } = theirs
  rw [Dict.empty_union]

theorem adoptAlong_eq_adoptClass {theirs : StructureClass} {fs : List (String × BuilderFunction)}
    (hfs : fs.Perm theirs.functions.entries) (s : Structure) (key : String) :
    s.adoptAlong key theirs fs = s.adoptClass key theirs := by
  rw [adoptAlong, takeOver_eq_mergeClass hfs, adoptClass]
  cases s.class? key with
  | none => rw [Option.getD_none, mergeClass_bare]
  | some mine => rfl

/-- **The order of classes and builders leaves no trace.** -/
theorem mergeAlong_eq_merge (s : Structure) {other : Structure} (w : Walk other) :
    s.mergeAlong w = s.merge other := by
  have hstep : (fun (acc : Structure) (e : String × StructureClass) =>
      acc.adoptAlong e.1 e.2 (w.builders e.1 e.2)) = fun acc e => acc.adoptClass e.1 e.2 := by
    funext acc e
    exact adoptAlong_eq_adoptClass (w.builders_perm e.1 e.2) acc e.1
  rw [mergeAlong, hstep]
  exact mergeInOrder_perm w.classes_perm

/-! ## The laws -/

theorem merge_self (a : Structure) : a.merge a = a := by
  refine ext_class? ?_ fun name => ?_
  · rw [runtime_merge, ite_self]
  · rw [class?_merge_eq_merge]
    exact (Option.idempotentOp_merge mergeClass).idempotent _

theorem merge_assoc (a b c : Structure) : (a.merge b).merge c = a.merge (b.merge c) := by
  refine ext_class? ?_ fun name => ?_
  · simp only [runtime_merge]
    split <;> simp_all
  · simp only [class?_merge_eq_merge]
    exact (Option.associative_merge mergeClass).assoc _ _ _

theorem empty_merge (a : Structure) : empty.merge a = a := by
  refine ext_class? (runtime_merge empty a) fun name => ?_
  rw [class?_merge_eq_merge]
  exact Option.merge_none_left

theorem merge_empty (a : Structure) : a.merge empty = a := by
  refine ext_class? ?_ fun name => ?_
  · rw [runtime_merge]
    split
    · next hruntime => exact hruntime.symm
    · rfl
  · rw [class?_merge_eq_merge]
    exact Option.merge_none_right

/-- What a class says about itself comes from the left structure that has it. -/
theorem bare_merge (a b : Structure) (name : String) :
    ((a.merge b).class? name).map StructureClass.bare =
      ((a.class? name).or (b.class? name)).map StructureClass.bare := by
  rw [class?_merge_eq_merge]
  cases a.class? name with
  | none => rw [Option.merge_none_left, Option.none_or]
  | some mine => cases b.class? name <;> rfl

/-- **Merging is a left-biased union.** Every order gives the same structure; merging is associative,
has the empty structure on both sides and gains nothing from repetition; what the left structure has
stays as it was, and what only the right one has is added. -/
theorem merge_leftBiased (a b c : Structure) :
    (∀ w : Walk b, a.mergeAlong w = a.merge b) ∧
    (a.merge b).merge b = a.merge b ∧
    (a.merge b).merge c = a.merge (b.merge c) ∧
    (empty.merge a = a ∧ a.merge empty = a) ∧
    (∀ name mine, a.class? name = some mine →
      ∃ mine', (a.merge b).class? name = some mine' ∧ mine.Grows mine') ∧
    (∀ name key, (a.merge b).functionAt? name key =
      (a.functionAt? name key).or (b.functionAt? name key)) ∧
    (∀ name, ((a.merge b).class? name).map StructureClass.bare =
      ((a.class? name).or (b.class? name)).map StructureClass.bare) ∧
    (a.merge b).runtime = if a.runtime = "" then b.runtime else a.runtime := by
  refine ⟨a.mergeAlong_eq_merge, ?_, merge_assoc a b c, ⟨empty_merge a, merge_empty a⟩,
    fun name mine => exists_grows_merge b, functionAt?_merge a b, bare_merge a b,
    runtime_merge a b⟩
  rw [merge_assoc, merge_self]

end Structure

end TaskBuilders
