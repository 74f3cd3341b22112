import TaskBuilders.Proofs.Dict.Lookup
import TaskBuilders.Structure.Basic

/-!
# Classes and functions of a structure

What registering a class and declaring a builder do to the classes and to the builder under every
class and key.

* `functionAt?_register` — a class without builders adds none
* `addFunction_of_new` — declaring a builder on a known class that has none for the tag succeeds,
  and puts the builder under its class and key and nowhere else
-/

namespace TaskBuilders

open Text

/-- A class without its builders. -/
def StructureClass.bare (c : StructureClass) : StructureClass := { c with functions := ∅ }

namespace Structure

/-- The builder under a key of a class. -/
def functionAt? (s : Structure) (name key : String) : Option BuilderFunction :=
  (s.class? name).bind (·.functions.get? key)

/-- Every class of `s` has a class of the same name in `s'`. -/
def Covers (s s' : Structure) : Prop := ∀ name, s.resolves name = true → s'.resolves name = true

theorem resolves_iff (s : Structure) (name : String) :
    s.resolves name = true ↔ ∃ c, s.class? name = some c := s.classes.contains_iff name

theorem containsFunction_eq_false_iff {s : Structure} {name tag : String} :
    s.containsFunction name tag = false ↔ s.functionAt? name (lowercase tag) = none := by
  show (s.functionAt? name (lowercase tag)).isSome = false ↔ _
  rw [Option.isSome_eq_false_iff, Option.isNone_iff_eq_none]

theorem containsFunction_iff {s : Structure} {name tag : String} :
    s.containsFunction name tag = true ↔ ∃ f, s.functionAt? name (lowercase tag) = some f :=
  Option.isSome_iff_exists

/-! ## Registering -/

theorem class?_register (s : Structure) (c : StructureClass) (name : String) :
    (s.register c).class? name =
      if name = c.name then some ((s.class? c.name).getD c) else s.class? name :=
  Dict.get?_insertNew s.classes c.name name c

/-- A class of a structure after registering is the new one or was there before. -/
theorem class?_register_cases {s : Structure} {c c' : StructureClass} {name : String}
    (h : (s.register c).class? name = some c') :
    name = c.name ∧ c' = c ∨ s.class? name = some c' := by
  rw [class?_register] at h
  by_cases hname : name = c.name
  · rw [if_pos hname, Option.some.injEq] at h
    cases hold : s.class? c.name with
    | none =>
      rw [hold, Option.getD_none] at h
      exact Or.inl ⟨hname, h.symm⟩
    | some mine =>
      rw [hold, Option.getD_some] at h
      rw [hname, hold, h]
      exact Or.inr rfl
  · rw [if_neg hname] at h
    exact Or.inr h

/-- Registering a class leaves the classes that are there. -/
theorem class?_register_of_some {s : Structure} {c : StructureClass} {name : String}
    (h : s.class? name = some c) (c' : StructureClass) : (s.register c').class? name = some c := by
  rw [class?_register]
  by_cases hname : name = c'.name
  · rw [if_pos hname, ← hname, h, Option.getD_some]
  · rw [if_neg hname, h]

theorem class?_register_of_none {s : Structure} {c : StructureClass} (h : s.class? c.name = none) :
    (s.register c).class? c.name = some c := by
  rw [class?_register, if_pos rfl, h, Option.getD_none]

theorem resolves_register (s : Structure) (c : StructureClass) :
    (s.register c).resolves c.name = true := by
  rw [resolves_iff, class?_register, if_pos rfl]
  exact ⟨_, rfl⟩

theorem covers_register (s : Structure) (c : StructureClass) : Covers s (s.register c) := by
  intro name h
  by_cases hname : name = c.name
  · rw [hname]
    exact s.resolves_register c
  · rw [resolves_iff, class?_register, if_neg hname, ← resolves_iff]
    exact h

/-- A class without builders adds none. -/
theorem functionAt?_register {s : Structure} {c : StructureClass} (hc : c.functions = ∅)
    (name key : String) : (s.register c).functionAt? name key = s.functionAt? name key := by
  unfold functionAt?
  rw [class?_register]
  by_cases hname : name = c.name
  · rw [if_pos hname, hname, Option.bind_some]
    cases s.class? c.name with
    | none => rw [Option.getD_none, hc, Option.bind_none, Dict.get?_empty]
    | some mine => rw [Option.getD_some, Option.bind_some]
  · rw [if_neg hname]

/-- Classes without builders may go: no builder goes with them. -/
theorem functionAt?_erase {s : Structure} {names : List String}
    (h : ∀ n ∈ names, (s.class? n).any (·.functions.isEmpty) = true) (runtime name key : String) :
    functionAt? ⟨runtime, names.foldl Dict.erase s.classes⟩ name key = s.functionAt? name key := by
  unfold functionAt? class?
  rw [Dict.get?_foldl_erase]
  split
  · next hname =>
    have hempty := h name hname
    unfold class? at hempty
    cases hc : s.classes.get? name with
    | none => rfl
    | some c =>
      rw [hc, Option.any_some, Dict.isEmpty, List.isEmpty_iff] at hempty
      rw [Option.bind_none, Option.bind_some, Dict.get?, hempty, List.lookup_nil]
  · rfl

/-! ## Declaring -/

/-- Declaring a builder changes nothing about a class but its builders. -/
theorem map_class?_addFunction {β : Type} {f : StructureClass → β}
    (hf : ∀ c functions, f { c with functions } = f c) {s s' : Structure}
    {name tag builder package : String} {attrs : List AttributeDescriptor} {produced : String}
    (h : s.addFunction name tag builder package attrs produced = .ok s') (n : String) :
    (s'.class? n).map f = (s.class? n).map f := by
  unfold addFunction at h
  split at h
  · cases h
  · next c hc =>
    split at h
    · cases h
    · obtain rfl := Except.ok.inj h
      show ((s.classes.insert name _).get? n).map f = _
      rw [Dict.get?_insert]
      by_cases hn : n = name
      · rw [if_pos hn, hn, hc, Option.map_some, Option.map_some, hf]
      · rw [if_neg hn]
        rfl

/-- Declaring a builder leaves the other classes. -/
theorem class?_addFunction_of_ne {s s' : Structure} {name tag builder package : String}
    {attrs : List AttributeDescriptor} {produced : String}
    (h : s.addFunction name tag builder package attrs produced = .ok s') {n : String} (hn : n ≠ name) :
    s'.class? n = s.class? n := by
  unfold addFunction at h
  split at h
  · cases h
  · split at h
    · cases h
    · obtain rfl := Except.ok.inj h
      exact Dict.get?_insert_of_ne _ _ hn

theorem functionAt?_addFunction_of_ne {s s' : Structure} {name tag builder package : String}
    {attrs : List AttributeDescriptor} {produced : String}
    (h : s.addFunction name tag builder package attrs produced = .ok s') {n : String} (hn : n ≠ name)
    (key : String) : s'.functionAt? n key = s.functionAt? n key := by
  rw [functionAt?, class?_addFunction_of_ne h hn, functionAt?]

/-- Declaring a builder on a known class that has none for the tag puts it there and nowhere
else. -/
theorem addFunction_of_new {s : Structure} {name tag : String} (hclass : s.resolves name = true)
    (hnew : s.containsFunction name tag = false) (builder package : String)
    (attrs : List AttributeDescriptor) (produced : String) :
    ∃ s', s.addFunction name tag builder package attrs produced = .ok s' ∧ Covers s s' ∧
      ∀ n k, s'.functionAt? n k =
        if n = name ∧ k = lowercase tag then
          some ⟨tag, builder, package, some (attributeTable attrs), produced⟩
        else s.functionAt? n k := by
  obtain ⟨c, hc⟩ := (s.resolves_iff name).1 hclass
  have htag : c.containsFunction tag = false := by
    rw [containsFunction, function?, hc] at hnew
    exact hnew
  refine ⟨_, by rw [addFunction, hc]; exact if_neg (by rw [htag]; exact Bool.false_ne_true), ?_, ?_⟩
  · intro n h
    obtain ⟨c', hc'⟩ := (s.resolves_iff n).1 h
    rw [resolves_iff]
    show ∃ c, (s.classes.insert name _).get? n = some c
    rw [Dict.get?_insert]
    by_cases hn : n = name
    · rw [if_pos hn]; exact ⟨_, rfl⟩
    · rw [if_neg hn]; exact ⟨c', hc'⟩
  · intro n k
    show ((s.classes.insert name _).get? n).bind _ = _
    rw [Dict.get?_insert]
    by_cases hn : n = name
    · have hold : s.functionAt? n k = c.functions.get? k := by
        rw [functionAt?, hn, hc, Option.bind_some]
      rw [if_pos hn, Option.bind_some, hold, Dict.get?_insert]
      by_cases hk : k = lowercase tag
      · rw [if_pos hk, if_pos ⟨hn, hk⟩]
      · rw [if_neg hk, if_neg fun h => hk h.2]
    · rw [if_neg hn, if_neg fun h => hn h.1]
      rfl

/-- Builders are declared on known classes that have none for the tag. -/
theorem of_addFunction {s s' : Structure} {name tag builder package : String}
    {attrs : List AttributeDescriptor} {produced : String}
    (h : s.addFunction name tag builder package attrs produced = .ok s') :
    s.resolves name = true ∧ s.containsFunction name tag = false := by
  unfold addFunction at h
  split at h
  · cases h
  · next c hc =>
    split at h
    · cases h
    · next hnew =>
      refine ⟨(s.resolves_iff name).2 ⟨c, hc⟩, ?_⟩
      rw [containsFunction, function?, hc]
      exact Bool.eq_false_iff.2 hnew

/-- Declaring a builder leaves the others. -/
theorem functionAt?_addFunction {s s' : Structure} {name tag builder package : String}
    {attrs : List AttributeDescriptor} {produced : String}
    (h : s.addFunction name tag builder package attrs produced = .ok s') {n k : String}
    {f : BuilderFunction} (hf : s.functionAt? n k = some f) : s'.functionAt? n k = some f := by
  obtain ⟨hclass, hnew⟩ := of_addFunction h
  obtain ⟨s'', hs'', _, hat⟩ := addFunction_of_new hclass hnew builder package attrs produced
  obtain rfl := Except.ok.inj (h.symm.trans hs'')
  rw [hat, if_neg, hf]
  rintro ⟨rfl, rfl⟩
  rw [containsFunction_eq_false_iff, hf] at hnew
  cases hnew

end Structure

end TaskBuilders
