import TaskBuilders.Definition.Provider
import TaskBuilders.Definition.Registry
import TaskBuilders.Proofs.Dict.Lookup

/-!
# Kinds of providers

What a run may rely on: a faithful provider answers with definitions of the identifiers it is asked
for, a stateless one answers alike every time, and a listed one knows no identifiers beyond the
list it comes with. Making a provider safe changes none of that, and a fixed set of definitions is
all three, like a registry.
-/

namespace TaskBuilders

namespace Provider

/-- The provider answers with definitions of the identifiers that it is asked for. -/
def Faithful (p : Provider) : Prop := ∀ id m d, (p.ask id m).1 = .found d → d.id = id

/-- The provider gives the same answer every time. -/
def Stateless (p : Provider) : Prop := ∀ id m m', (p.ask id m).1 = (p.ask id m').1

/-- Only identifiers of the list have a definition. -/
def Listed (p : Provider) : Prop := ∀ id m d, (p.ask id m).1 = .found d → id ∈ p.known

/-- The provider has a definition for an identifier when it is asked first. -/
def Knows (p : Provider) (id : String) : Prop := ∃ d, (p.ask id []).1 = .found d

/-- A safe provider finds what the provider finds. -/
theorem found_safe_iff (p : Provider) (id : String) (m : Memory) (d : TaskDefinition) :
    (p.safe.ask id m).1 = .found d ↔ (p.ask id m).1 = .found d := by
  show safeAnswer id (p.ask id m).1 = .found d ↔ _
  cases (p.ask id m).1 with
  | found d' => exact Iff.rfl
  | nothing => simp [safeAnswer]
  | failed f =>
    rw [safeAnswer]
    split <;> simp
  | crashed message => simp [safeAnswer]

theorem Faithful.safe {p : Provider} (h : p.Faithful) : p.safe.Faithful :=
  fun id m d hd => h id m d ((p.found_safe_iff id m d).1 hd)

theorem Listed.safe {p : Provider} (h : p.Listed) : p.safe.Listed :=
  fun id m d hd => h id m d ((p.found_safe_iff id m d).1 hd)

theorem Stateless.safe {p : Provider} (h : p.Stateless) : p.safe.Stateless := by
  intro id m m'
  show safeAnswer id (p.ask id m).1 = safeAnswer id (p.ask id m').1
  rw [h id m m']

theorem knows_safe_iff (p : Provider) (id : String) : p.safe.Knows id ↔ p.Knows id :=
  exists_congr fun d => p.found_safe_iff id [] d

/-- A stateless provider knows what it finds at any time. -/
theorem Stateless.knows_iff {p : Provider} (h : p.Stateless) (id : String) (m : Memory) :
    p.Knows id ↔ ∃ d, (p.ask id m).1 = .found d := by
  rw [Knows, h id [] m]

/-- The definition that a provider answers with when it is asked first. -/
def definition? (p : Provider) (id : String) : Option TaskDefinition :=
  match (p.ask id []).1 with
  | .found d => some d
  | _ => none

theorem definition?_eq_some_iff {p : Provider} {id : String} {d : TaskDefinition} :
    p.definition? id = some d ↔ (p.ask id []).1 = .found d := by
  unfold definition?
  cases (p.ask id []).1 <;> simp

theorem definition?_safe (p : Provider) (id : String) : p.safe.definition? id = p.definition? id := by
  ext d
  rw [definition?_eq_some_iff, definition?_eq_some_iff, found_safe_iff]

/-- Whether the provider has a definition for an identifier. -/
def defines (p : Provider) (id : String) : Bool := (p.definition? id).isSome

theorem defines_safe (p : Provider) : p.safe.defines = p.defines := by
  funext id
  rw [defines, definition?_safe, defines]

theorem defines_eq_false_iff {p : Provider} {id : String} :
    p.defines id = false ↔ p.definition? id = none := by
  rw [defines, Option.isSome_eq_false_iff, Option.isNone_iff_eq_none]

/-- A stateless provider answers with one definition at any time. -/
theorem Stateless.found_iff {p : Provider} (h : p.Stateless) {id : String} {m : Memory}
    {d : TaskDefinition} : (p.ask id m).1 = .found d ↔ p.definition? id = some d := by
  rw [definition?_eq_some_iff, h id m []]

/-- The provider answers with a definition of another identifier. -/
def Foreign (p : Provider) (id : String) : Prop := ∃ d, p.definition? id = some d ∧ d.id ≠ id

theorem Foreign.id_ne {p : Provider} {id : String} (h : p.Foreign id) {d : TaskDefinition}
    (hd : p.definition? id = some d) : d.id ≠ id := by
  obtain ⟨d', hd', hne⟩ := h
  rw [hd] at hd'
  obtain rfl := Option.some.inj hd'
  exact hne

theorem Stateless.faithful_of_not_foreign {p : Provider} (h : p.Stateless)
    (hforeign : ∀ id, ¬ p.Foreign id) : p.Faithful := by
  intro id m d hd
  by_cases hid : d.id = id
  · exact hid
  · exact absurd ⟨d, h.found_iff.1 hd, hid⟩ (hforeign id)

theorem foreign_safe_iff (p : Provider) (id : String) : p.safe.Foreign id ↔ p.Foreign id := by
  rw [Foreign, definition?_safe, Foreign]

/-! ## Fixed sets of definitions -/

/-- What a table finds is one of its entries. -/
theorem get?_of_table {entries : Dict (Option TaskDefinition)} {id : String} {m : Memory}
    {d : TaskDefinition} (h : ((table entries).ask id m).1 = .found d) :
    entries.get? id = some (some d) := by
  unfold table stateless at h
  dsimp only at h
  cases hentry : entries.get? id with
  | none =>
    rw [hentry] at h
    cases h
  | some entry =>
    rw [hentry] at h
    cases entry with
    | none => cases h
    | some d' => rw [Answer.found.inj h]

/-- What a fixed set finds is one of its definitions, under its identifier. -/
theorem mem_of_static {defs : List TaskDefinition} {id : String} {m : Memory} {d : TaskDefinition}
    (h : ((static defs).ask id m).1 = .found d) : d ∈ defs ∧ d.id = id := by
  obtain ⟨d', hmem, he⟩ := List.mem_map.1 (Dict.mem_of_get?_ofList (get?_of_table h))
  obtain ⟨hid, hd⟩ := Prod.mk.inj he
  obtain rfl := Option.some.inj hd
  exact ⟨hmem, hid⟩

theorem faithful_static (defs : List TaskDefinition) : (static defs).Faithful :=
  fun _ _ _ h => (mem_of_static h).2

theorem stateless_static (defs : List TaskDefinition) : (static defs).Stateless :=
  fun _ _ _ => rfl

theorem listed_table (entries : Dict (Option TaskDefinition)) : (table entries).Listed :=
  fun id _ d h => (Dict.mem_keys_iff _ id).2 ⟨some d, get?_of_table h⟩

theorem listed_static (defs : List TaskDefinition) : (static defs).Listed := listed_table _

end Provider

/-! ## Registries -/

namespace Registry

variable {r r' : Registry}

/-- All types stand in the order of registration. -/
def Ordered (r : Registry) : Prop := ∀ id, r.types.contains id = true → id ∈ r.order

theorem ordered_empty : Ordered {} := by
  intro id h
  rw [Dict.contains_iff, Dict.get?_empty] at h
  obtain ⟨_, h⟩ := h
  cases h

theorem Ordered.provide (h : Ordered r) (t : TypeDescription) : Ordered (r.provide t) := by
  intro id hid
  have hkeep : id ∈ r.order → id ∈ (r.provide t).order := by
    intro hmem
    unfold Registry.provide
    dsimp only
    split
    · exact hmem
    · exact List.mem_append_left _ hmem
  obtain ⟨u, hu⟩ := (Dict.contains_iff _ _).1 hid
  rcases Dict.get?_insert_cases hu with ⟨rfl, _⟩ | hu
  · cases hnew : r.types.contains t.behindPointers.typeId with
    | true => exact hkeep (h _ hnew)
    | false => simp [Registry.provide, hnew]
  · exact hkeep (h id ((Dict.contains_iff _ _).2 ⟨u, hu⟩))

theorem Ordered.addCapability (h : Ordered r) {t : TypeDescription}
    (hadd : r.addCapability t = .ok r') : Ordered r' := by
  unfold Registry.addCapability at hadd
  split at hadd
  · obtain rfl := Except.ok.inj hadd
    exact h
  · cases hadd

/-- What a registry finds is a registered type, under its identifier. -/
theorem found_toProvider {id : String} {m : Memory} {d : TaskDefinition}
    (h : (r.toProvider.ask id m).1 = .found d) : d.id = id ∧ r.types.contains id = true := by
  have h : r.introspect id = .found d := h
  unfold introspect at h
  cases ht : r.types.get? id with
  | none =>
    rw [ht] at h
    cases h
  | some t =>
    rw [ht] at h
    dsimp only at h
    split at h
    · obtain rfl := Answer.found.inj h
      exact ⟨rfl, (Dict.contains_iff _ _).2 ⟨t, ht⟩⟩
    · cases h

/-- **A registry is faithful, stateless and listed**, looking into a type that is no struct included. -/
theorem toProvider_sound (h : Ordered r) :
    r.toProvider.Faithful ∧ r.toProvider.Stateless ∧ r.toProvider.Listed :=
  ⟨fun _ _ _ hd => (found_toProvider hd).1, fun _ _ _ => rfl,
    fun id _ _ hd => h id (found_toProvider hd).2⟩

end Registry

end TaskBuilders
