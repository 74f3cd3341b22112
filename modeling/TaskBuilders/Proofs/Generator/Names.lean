import TaskBuilders.Proofs.Generator.Request
import TaskBuilders.Proofs.Naming.Namer
import TaskBuilders.Proofs.Naming.Qualified

/-!
# Names of a run

Classes and containers are called what the namer calls them, and the namer keeps the names of
different keys apart. So no two types share a class name, and a type shares one with a container only
when the type is called like the container's key.

* `Named` — the tables of a run follow its namer
* `Named.eq_of_className`, `Named.eq_containerKey` — names tell types and containers apart
-/

namespace TaskBuilders

open Naming

namespace Generator

/-- The tables of a run follow its namer. -/
structure Named (g : Generator) : Prop where
  package : g.namer.package = g.options.importPath
  owned : g.namer.Owned
  types : ∀ id t, g.resolved.get? id = some t → ∃ ident,
    g.namer.names.get? id = some ident ∧ t.className = qualify g.options.importPath ident
  containers : ∀ c name, g.containerNames.get? c = some name → ∃ ident,
    g.namer.names.get? (containerKey c) = some ident ∧ name = qualify g.options.importPath ident

variable {g g' : Generator}

/-! ## Names tell types and containers apart -/

/-- Two types with one class name are the same type. -/
theorem Named.eq_of_className (h : Named g) {i j : String} {t u : Target}
    (hi : g.resolved.get? i = some t) (hj : g.resolved.get? j = some u)
    (he : t.className = u.className) : i = j := by
  obtain ⟨a, ha, hta⟩ := h.types i t hi
  obtain ⟨b, hb, hub⟩ := h.types j u hj
  rw [hta, hub, qualify_inj] at he
  exact h.owned.eq_of_names ha (he ▸ hb)

/-- A type that is called like a container has its key for an identifier. -/
theorem Named.eq_containerKey (h : Named g) {i c : String} {t : Target}
    (hi : g.resolved.get? i = some t) (hc : g.containerNames.get? c = some t.className) :
    i = containerKey c := by
  obtain ⟨a, ha, hta⟩ := h.types i t hi
  obtain ⟨b, hb, hnb⟩ := h.containers c t.className hc
  have hab : a = b := qualify_inj.1 (hta.symm.trans hnb)
  exact h.owned.eq_of_names ha (hab ▸ hb)

/-! ## Moves keep to the namer -/

theorem Named.of_same (h : Named g) (hoptions : g'.options = g.options)
    (hnamer : g'.namer = g.namer) (hresolved : g'.resolved = g.resolved)
    (hnames : g'.containerNames = g.containerNames) : Named g' where
  package := by rw [hnamer, hoptions, h.package]
  owned := hnamer ▸ h.owned
  types := by rw [hresolved, hnamer, hoptions]; exact h.types
  containers := by rw [hnames, hnamer, hoptions]; exact h.containers

/-- A name for a key more keeps the tables in step. -/
theorem Named.mint (h : Named g) (key preferred source : String) :
    Named { g with namer := (g.namer.mint key preferred source).2 } where
  package := (Namer.package_mint _ _ _ _).trans h.package
  owned := h.owned.mint key preferred source
  types := by
    intro id t ht
    obtain ⟨ident, hident, hclass⟩ := h.types id t ht
    exact ⟨ident, Namer.get?_names_mint_of_some key preferred source hident, hclass⟩
  containers := by
    intro c name hc
    obtain ⟨ident, hident, hname⟩ := h.containers c name hc
    exact ⟨ident, Namer.get?_names_mint_of_some key preferred source hident, hname⟩

/-- A container that is named gets the name of its key. -/
theorem Named.insertContainer (h : Named g) {c ident : String}
    (hident : g.namer.names.get? (containerKey c) = some ident) :
    Named { g with
      containerNames := g.containerNames.insert c (qualify g.options.importPath ident) } where
  package := h.package
  owned := h.owned
  types := h.types
  containers := by
    intro e name he
    rcases Dict.get?_insert_cases he with ⟨rfl, rfl⟩ | he
    · exact ⟨ident, hident, rfl⟩
    · exact h.containers e name he

theorem Named.containerName (h : Named g) (id : String) : Named (g.containerName id).2 := by
  cases hid : g.containerNames.get? id with
  | some name => rw [containerName_of_some hid]; exact h
  | none =>
    rw [containerName_of_none hid]
    unfold Namer.containerName
    dsimp only
    rw [h.package]
    exact (h.mint _ _ _).insertContainer (Namer.get?_names_mint_self _ _ _ _)

theorem names_containerName_of_some {key ident : String} (id : String)
    (h : g.namer.names.get? key = some ident) :
    (g.containerName id).2.namer.names.get? key = some ident := by
  cases hid : g.containerNames.get? id with
  | some name => rw [containerName_of_some hid]; exact h
  | none =>
    rw [containerName_of_none hid]
    exact Namer.get?_names_mint_of_some _ _ _ h

/-- A target that is named has its name from the namer. -/
theorem Named.nameTarget (h : Named g) (d : TaskDefinition) :
    Named (g.nameTarget d).2.2 ∧ ∃ ident,
      (g.nameTarget d).2.2.namer.names.get? d.id = some ident ∧
      (g.nameTarget d).1 = qualify g.options.importPath ident := by
  let ident := (g.namer.mint d.id (marker ++ simpleName d.id) d.id).1
  have hkeep : Named (g.nameTarget d).2.2 ∧
      (g.nameTarget d).2.2.namer.names.get? d.id = some ident :=
    nameTarget_keeps (I := fun g => Named g ∧ g.namer.names.get? d.id = some ident)
      ⟨h.mint _ _ _, Namer.get?_names_mint_self _ _ _ _⟩
      fun _ id hg => ⟨hg.1.containerName id, names_containerName_of_some id hg.2⟩
  refine ⟨hkeep.1, ident, hkeep.2, ?_⟩
  rw [nameTarget_fst, Namer.resultName, ← h.package]

/-- An entry under the name of its identifier keeps the tables in step. -/
theorem Named.insertTarget (h : Named g) {id ident : String} {t : Target}
    (hident : g.namer.names.get? id = some ident)
    (hclass : t.className = qualify g.options.importPath ident)
    (hoptions : g'.options = g.options) (hnamer : g'.namer = g.namer)
    (hresolved : g'.resolved = g.resolved.insert id t)
    (hnames : g'.containerNames = g.containerNames) : Named g' where
  package := by rw [hnamer, hoptions, h.package]
  owned := hnamer ▸ h.owned
  types := by
    intro i u hu
    rw [hresolved] at hu
    rw [hnamer, hoptions]
    rcases Dict.get?_insert_cases hu with ⟨rfl, rfl⟩ | hu
    · exact ⟨ident, hident, hclass⟩
    · exact h.types i u hu
  containers := by rw [hnames, hnamer, hoptions]; exact h.containers

theorem Named.enterTarget (h : Named g) {d : TaskDefinition} {ident : String}
    (hident : g.namer.names.get? d.id = some ident) (containers : List String) :
    Named (g.enterTarget d (qualify g.options.importPath ident) containers).2 :=
  h.insertTarget hident rfl rfl rfl rfl rfl

/-- Every move keeps the tables of a run in step with its namer. -/
theorem Named.move (h : Named g) (hm : Move g g') : Named g' := by
  cases hm with
  | note memory log => exact h.of_same rfl rfl rfl rfl
  | miss memory log _ => exact h.of_same rfl rfl rfl rfl
  | nameContainer id => exact h.containerName id
  | openContainer _ _ _ => exact h.of_same rfl rfl rfl rfl
  | @openTarget d _ _ =>
    obtain ⟨hnamed, ident, hident, hname⟩ := h.nameTarget d
    rw [openTarget_eq, hname, ← (sameBeyondNames_nameTarget g d).options]
    exact hnamed.enterTarget hident _
  | @define id t d hresolved _ _ =>
    obtain ⟨ident, hident, hclass⟩ := h.types id t hresolved
    exact h.insertTarget (t := { t with definition := some d }) hident hclass rfl rfl rfl rfl
  | @place id t hresolved =>
    obtain ⟨ident, hident, hclass⟩ := h.types id t hresolved
    exact h.insertTarget (t := { t with file := some (g.targetPath t) }) hident hclass rfl rfl rfl
      rfl
  | @build path parent tag _ t d _ _ _ _ _ _ =>
    have hs := sameBeyondBuilders_build g path parent tag d t.className
    exact h.of_same hs.options hs.namer hs.resolved hs.containerNames

theorem Named.fresh {p : Provider} (h : Fresh p g) : Named g where
  package := by rw [h.namer]; rfl
  owned := h.namer ▸ Namer.owned_new _ _
  types := by
    intro id t ht
    rw [h.resolved] at ht
    cases ht
  containers := by
    intro c name hc
    rw [h.containerNames] at hc
    cases hc

end Generator

end TaskBuilders
