import TaskBuilders.Proofs.Naming.Identifier
import TaskBuilders.Proofs.Source.Package
import TaskBuilders.Proofs.Source.Reading

/-!
# The names of fields

Every attribute asks for a field name: its own name in camel case, or a placeholder with its index
where nothing is left of that. A name that an earlier field has gets a number. All these names share
one row, so that a number or a placeholder can take what a later attribute asks for.

* `getElem?_fieldNames` — a field is named after those before it
* `capital_preferredField` — what an attribute asks for is an identifier
* `taken_of_first` — who takes the name of the first attribute that asks for it
* `fields_well_named` — fields have different names, which are identifiers
-/

namespace TaskBuilders.Emitter

open Naming Source Text

variable {attrs : List AttributeDescriptor} {a : AttributeDescriptor} {i : Nat}

/-! ## One field -/

/-- A field is named after those before it. -/
theorem getElem?_fieldNames (attrs : List AttributeDescriptor) (used : List String)
    (index i : Nat) :
    (fieldNames used index attrs)[i]? = attrs[i]?.map fun a =>
      firstFree (used ++ (fieldNames used index attrs).take i)
        (preferredField (index + i) a.name) := by
  induction attrs generalizing used index i with
  | nil => rfl
  | cons a attrs ih =>
    rw [fieldNames]
    cases i with
    | zero => simp
    | succ i =>
      rw [List.getElem?_cons_succ, List.getElem?_cons_succ, ih, List.take_succ_cons]
      simp [Nat.add_assoc, Nat.add_comm 1 i]

/-- An attribute asks for its name, or for a placeholder where nothing is left of it. -/
theorem preferredField_cases (index : Nat) (name : String) :
    exported (camelCase name) = "" ∧ preferredField index name = "Attr" ++ toString index ∨
      exported (camelCase name) ≠ "" ∧ preferredField index name = exported (camelCase name) := by
  by_cases hempty : exported (camelCase name) = ""
  · exact Or.inl ⟨hempty, by simp [preferredField, hempty]⟩
  · have hunderscore := (capital_exported_camelCase hempty).ne_underscore
    exact Or.inr ⟨hempty, by simp [preferredField, hempty, hunderscore]⟩

/-- What an attribute asks for is an identifier. -/
theorem capital_preferredField (index : Nat) (name : String) :
    Capital (preferredField index name) := by
  rcases preferredField_cases index name with ⟨_, h⟩ | ⟨hne, h⟩
  · have hattr : Capital "Attr" :=
      ⟨'A', ['t', 't', 'r'], rfl, by decide, by decide, by decide, List.all_eq_true.1 (by decide)⟩
    rw [h]
    exact hattr.append (isIdentPart_toString index)
  · rw [h]
    exact capital_exported_camelCase hne

theorem capital_fieldNames {name : String} (h : name ∈ fieldNames [] 0 attrs) : Capital name := by
  obtain ⟨i, hi⟩ := List.mem_iff_getElem?.1 h
  rw [getElem?_fieldNames] at hi
  obtain ⟨a, _, rfl⟩ := Option.map_eq_some_iff.1 hi
  exact (capital_preferredField _ _).firstFree _

/-! ## The row of fields -/

/-- The name of a field is the first free one of those that its attribute asks for. -/
theorem isFirstFree_of_getElem? {name : String} (ha : attrs[i]? = some a)
    (hname : (fieldNames [] 0 attrs)[i]? = some name) :
    IsFirstFree ((fieldNames [] 0 attrs).take i) (preferredField i a.name) name := by
  rw [getElem?_fieldNames, ha, Option.map_some, List.nil_append, Nat.zero_add] at hname
  obtain rfl := Option.some.inj hname
  exact firstFree_isFirstFree _ _

/-- The first attribute that asks for a name gets it, unless a number or a placeholder made it the
name of an earlier field. -/
theorem taken_of_first {name : String} (ha : attrs[i]? = some a)
    (hname : (fieldNames [] 0 attrs)[i]? = some name) (hne : exported (camelCase a.name) ≠ "")
    (hfirst : ∀ j < i, ∀ a', attrs[j]? = some a' →
      exported (camelCase a'.name) ≠ exported (camelCase a.name)) :
    name = exported (camelCase a.name) ∨ ∃ j < i, ∃ a', attrs[j]? = some a' ∧
      (fieldNames [] 0 attrs)[j]? = some (exported (camelCase a.name)) ∧
      (exported (camelCase a'.name) = "" ∨
        ∃ n, 2 ≤ n ∧ exported (camelCase a.name) = exported (camelCase a'.name) ++ toString n) := by
  have hprefer : preferredField i a.name = exported (camelCase a.name) :=
    ((preferredField_cases i a.name).resolve_left fun h => hne h.1).2
  have hchosen := isFirstFree_of_getElem? ha hname
  rw [hprefer] at hchosen
  generalize exported (camelCase a.name) = ident at hchosen hfirst
  cases hchosen with
  | unnumbered => exact Or.inl rfl
  | numbered n _ htaken =>
    -- the name is that of an earlier field, and the attribute of that field asks for another one
    obtain ⟨j, hget⟩ := List.mem_iff_getElem?.1 htaken
    rw [List.getElem?_take] at hget
    split at hget
    · next hj =>
      have hattr := hget
      rw [getElem?_fieldNames] at hattr
      obtain ⟨a', ha', _⟩ := Option.map_eq_some_iff.1 hattr
      refine Or.inr ⟨j, hj, a', ha', hget, ?_⟩
      rcases preferredField_cases j a'.name with ⟨hempty, _⟩ | ⟨_, hprefer'⟩
      · exact Or.inl hempty
      · have hchosen' := isFirstFree_of_getElem? ha' hget
        rw [hprefer'] at hchosen'
        have hother := hfirst j hj a' ha'
        generalize exported (camelCase a'.name) = ident' at hchosen' hother
        cases hchosen' with
        | unnumbered => exact absurd rfl hother
        | numbered n hn => exact Or.inr ⟨n, hn, rfl⟩
    · cases hget

/-! ## All fields -/

theorem map_name_fields (e : Emitter) (attrs : List AttributeDescriptor) (t : ImportTable) :
    (e.fields attrs t).1.map (·.name) = fieldNames [] 0 attrs :=
  (yieldsIn_fields t.self e attrs t rfl).1

theorem map_attr_fields (e : Emitter) (attrs : List AttributeDescriptor) (t : ImportTable) :
    (e.fields attrs t).1.map (·.attr) = attrs.map (·.name) := by
  rw [e.reads_fields attrs t []]
  show (e.fieldsIn _ attrs).map (·.attr) = _
  rw [fieldsIn, List.map_map]
  conv_rhs => rw [← map_snd_zip_fieldNames attrs, List.map_map]
  rfl

theorem nodup_setters {fs : List Field} (h : (fs.map (·.name)).Nodup) :
    (fs.map (·.setter)).Nodup := by
  have hsetters : fs.map (·.setter) = (fs.map (·.name)).map ("Set" ++ ·) := by
    rw [List.map_map]
    rfl
  rw [hsetters]
  refine h.map fun name name' heq => ?_
  simpa using heq

/-- **Fields are well named.** Every attribute has a field, in the same order and with the
attribute's own name. The names of the fields, and so their setters, are different, and they are
identifiers. Each is the first free one of what its attribute asks for; the first attribute that
asks for a name in camel case gets it, unless a number or a placeholder made it the name of an
earlier field. -/
theorem fields_well_named (e : Emitter) (attrs : List AttributeDescriptor) (t : ImportTable) :
    let fs := (e.fields attrs t).1
    fs.map (·.attr) = attrs.map (·.name) ∧
    (fs.map (·.name)).Nodup ∧ (fs.map (·.setter)).Nodup ∧
    (∀ f ∈ fs, isIdentifier f.name = true ∧ f.name ≠ "_") ∧
    ∀ i a f, attrs[i]? = some a → fs[i]? = some f →
      IsFirstFree ((fs.take i).map (·.name)) (preferredField i a.name) f.name ∧
      (exported (camelCase a.name) ≠ "" →
        (∀ j < i, ∀ a', attrs[j]? = some a' →
          exported (camelCase a'.name) ≠ exported (camelCase a.name)) →
        f.name = exported (camelCase a.name) ∨
          ∃ j < i, ∃ a' f', attrs[j]? = some a' ∧ fs[j]? = some f' ∧
            f'.name = exported (camelCase a.name) ∧
            (exported (camelCase a'.name) = "" ∨
              ∃ n, 2 ≤ n ∧ f'.name = exported (camelCase a'.name) ++ toString n)) := by
  intro fs
  have hnames : fs.map (·.name) = fieldNames [] 0 attrs := e.map_name_fields attrs t
  have hnodup : (fs.map (·.name)).Nodup := hnames ▸ (nodup_fieldNames attrs [] 0).1
  have hname {i : Nat} {f : Field} (hf : fs[i]? = some f) :
      (fieldNames [] 0 attrs)[i]? = some f.name := by
    rw [← hnames, List.getElem?_map, hf, Option.map_some]
  refine ⟨e.map_attr_fields attrs t, hnodup, nodup_setters hnodup, fun f hf => ?_,
    fun i a f ha hf => ⟨?_, fun hne hfirst => ?_⟩⟩
  · have hcapital : Capital f.name := capital_fieldNames (hnames ▸ List.mem_map_of_mem hf)
    exact ⟨hcapital.isIdentifier, hcapital.ne_underscore⟩
  · rw [List.map_take, hnames]
    exact isFirstFree_of_getElem? ha (hname hf)
  · refine (taken_of_first ha (hname hf) hne hfirst).imp_right ?_
    rintro ⟨j, hj, a', ha', hget, htaken⟩
    rw [← hnames, List.getElem?_map] at hget
    obtain ⟨f', hf', hf'name⟩ := Option.map_eq_some_iff.1 hget
    rw [← hf'name] at htaken
    exact ⟨j, hj, a', f', ha', hf', hf'name, htaken⟩

/-- The number of the second attribute takes what the third one asks for, and the placeholder of the
fourth one what the last one does. -/
example : fieldNames [] 0
    (["count", "Count", "count2", "--", "attr3"].map (⟨·, .string, "string"⟩)) =
      ["Count", "Count2", "Count22", "Attr3", "Attr32"] := by decide +kernel

end TaskBuilders.Emitter
