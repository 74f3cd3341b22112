import Mathlib.Logic.Basic
import TaskBuilders.Builder.Plan
import TaskBuilders.Proofs.Naming.Shape

/-!
# Nested elements that compete

The nested elements of a definition compete: for a tag, whatever its case, and for the names of their
methods. Each is judged by the elements that were built before it, and an element that is not built stands
in nobody's way.

* `builtElements` — the elements that get methods, from their list and the types that are known
* `mem_built_iff` — where an element is built
* `first_of_mem_built` — it is the first one for its tag that suits
* `built_complete` — why an element is not built
-/

namespace TaskBuilders

open Naming QualifiedName Text

namespace NestedElement

/-- The name of the method for a form of an element's builder. -/
def method (e : NestedElement) : BuilderForm → String
  | .deferred => exported (camelCase e.tag)
  | .immediate => exported (camelCase e.tag) ++ "With"

/-- The names of the methods for an element. -/
def methods (e : NestedElement) : List String := [e.method .deferred, e.method .immediate]

theorem mem_methods_iff {e : NestedElement} {name : String} :
    name ∈ e.methods ↔ ∃ form, e.method form = name := by
  simp only [methods, List.mem_cons, List.not_mem_nil, or_false]
  constructor
  · rintro (rfl | rfl)
    · exact ⟨_, rfl⟩
    · exact ⟨_, rfl⟩
  · rintro ⟨_ | _, rfl⟩
    · exact Or.inr rfl
    · exact Or.inl rfl

theorem whole_method (e : NestedElement) (form : BuilderForm) : Whole (e.method form) := by
  have hname := whole_exported_camelCase e.tag
  cases form with
  | immediate => exact hname.append (by decide)
  | deferred => exact hname

/-- The type of the element is known, and no element that was built has a method of the same name. -/
def Suits (known : String → Bool) (built : List NestedElement) (e : NestedElement) : Prop :=
  known e.type = true ∧ ∀ b ∈ built, ∀ name ∈ e.methods, name ∉ b.methods

/-- No element that was built has a tag with the key. -/
def Vacant (built : List NestedElement) (key : String) : Prop := ∀ b ∈ built, lowercase b.tag ≠ key

instance (known : String → Bool) (built : List NestedElement) (e : NestedElement) :
    Decidable (e.Suits known built) := inferInstanceAs (Decidable (_ ∧ _))

instance (built : List NestedElement) (key : String) : Decidable (Vacant built key) :=
  inferInstanceAs (Decidable (∀ b ∈ built, _))

/-- The elements that were built, with one more if it suits and its tag is vacant. -/
def joining (known : String → Bool) (built : List NestedElement) (e : NestedElement) :
    List NestedElement :=
  if e.Suits known built ∧ Vacant built (lowercase e.tag) then built ++ [e] else built

/-- The elements of a list that are built. -/
def builtElements (known : String → Bool) (es : List NestedElement) : List NestedElement :=
  es.foldl (joining known) []

variable {known : String → Bool} {built es pre post : List NestedElement} {e : NestedElement}

theorem not_vacant_iff {key : String} :
    ¬ Vacant built key ↔ ∃ b ∈ built, lowercase b.tag = key := by
  simp [Vacant]

theorem subset_joining (e : NestedElement) : built ⊆ joining known built e := by
  unfold joining
  split
  · exact List.subset_append_left _ _
  · exact List.Subset.refl _

theorem subset_foldl_joining : ∀ (es built : List NestedElement),
    built ⊆ es.foldl (joining known) built
  | [], _ => List.Subset.refl _
  | e :: es, _ => List.Subset.trans (subset_joining e) (subset_foldl_joining es _)

/-- What was built of the beginning of a list stays. -/
theorem builtElements_subset_append (pre post : List NestedElement) :
    builtElements known pre ⊆ builtElements known (pre ++ post) := by
  rw [builtElements, builtElements, List.foldl_append]
  exact subset_foldl_joining post _

theorem mem_joining_iff {x : NestedElement} : x ∈ joining known built e ↔
    x ∈ built ∨ x = e ∧ e.Suits known built ∧ Vacant built (lowercase e.tag) := by
  unfold joining
  split
  · next h => simp [h]
  · next h => simp [h]

theorem mem_foldl_joining_iff : ∀ (es built : List NestedElement) {e : NestedElement},
    e ∈ es.foldl (joining known) built ↔ e ∈ built ∨ ∃ pre post, es = pre ++ e :: post ∧
      e.Suits known (pre.foldl (joining known) built) ∧
      Vacant (pre.foldl (joining known) built) (lowercase e.tag)
  | [], built, e => by simp
  | x :: es, built, e => by
    rw [List.foldl_cons, mem_foldl_joining_iff es, mem_joining_iff, or_assoc]
    refine or_congr_right ⟨?_, ?_⟩
    · rintro (⟨rfl, hsuits⟩ | ⟨pre, post, rfl, hsuits⟩)
      · exact ⟨[], es, rfl, hsuits⟩
      · exact ⟨x :: pre, post, rfl, hsuits⟩
    · rintro ⟨pre, post, hes, hsuits⟩
      cases pre with
      | nil =>
        obtain ⟨rfl, rfl⟩ := List.cons.inj hes
        exact Or.inl ⟨rfl, hsuits⟩
      | cons y pre =>
        obtain ⟨rfl, rfl⟩ := List.cons.inj hes
        exact Or.inr ⟨pre, post, rfl, hsuits⟩

/-- **An element is built where it suits what was built before it and its tag is vacant.** -/
theorem mem_built_iff : e ∈ builtElements known es ↔ ∃ pre post, es = pre ++ e :: post ∧
    e.Suits known (builtElements known pre) ∧ Vacant (builtElements known pre) (lowercase e.tag) := by
  unfold builtElements
  rw [mem_foldl_joining_iff]
  simp

/-- **An element that is built is the first one for its tag that suits.** -/
theorem first_of_mem_built (h : e ∈ builtElements known es) : ∃ pre post, es = pre ++ e :: post ∧
    e.Suits known (builtElements known pre) ∧
    ∀ pre' e' post', pre = pre' ++ e' :: post' → lowercase e'.tag = lowercase e.tag →
      ¬ e'.Suits known (builtElements known pre') := by
  obtain ⟨pre, post, hes, hsuits, hvacant⟩ := mem_built_iff.1 h
  refine ⟨pre, post, hes, hsuits, ?_⟩
  rintro pre' e' post' rfl htag hsuits'
  -- either the element itself took the tag, or it was taken before
  by_cases hvacant' : Vacant (builtElements known pre') (lowercase e'.tag)
  · exact hvacant e' (mem_built_iff.2 ⟨pre', post', rfl, hsuits', hvacant'⟩) htag
  · obtain ⟨b, hb, hkey⟩ := not_vacant_iff.1 hvacant'
    exact hvacant b (builtElements_subset_append pre' _ hb) (hkey.trans htag)

/-- **Every element of a list has an element for its tag that is built**, or its type is unknown, or an
element that was built before it has a method of the same name. -/
theorem built_complete (h : es = pre ++ e :: post) :
    (∃ b ∈ builtElements known es, lowercase b.tag = lowercase e.tag) ∨ known e.type = false ∨
      ∃ b ∈ builtElements known pre, ∃ name ∈ e.methods, name ∈ b.methods := by
  subst h
  by_cases hsuits : e.Suits known (builtElements known pre)
  · left
    by_cases hvacant : Vacant (builtElements known pre) (lowercase e.tag)
    · exact ⟨e, mem_built_iff.2 ⟨pre, post, rfl, hsuits, hvacant⟩, rfl⟩
    · obtain ⟨b, hb, hkey⟩ := not_vacant_iff.1 hvacant
      exact ⟨b, builtElements_subset_append pre _ hb, hkey⟩
  · right
    rw [Suits, not_and_or] at hsuits
    rcases hsuits with hunknown | hclash
    · exact Or.inl (by simpa using hunknown)
    · simp only [not_forall, not_not] at hclash
      obtain ⟨b, hb, name, hname, hmem⟩ := hclash
      exact Or.inr ⟨b, hb, name, hname, hmem⟩

end NestedElement

end TaskBuilders
