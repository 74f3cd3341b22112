import TaskBuilders.Proofs.Generator.Request
import TaskBuilders.Proofs.Structure.Merge
import TaskBuilders.Proofs.Structure.RoundTrip

/-!
# The order of loading

Loading a structure walks over its classes twice in no particular order: to find a generated class,
whose package decides how the structure is treated, and to merge the structure. All other walks are
by ascending name. The order of merging leaves no trace, but the class that is found first can
depend on the order, and then the whole treatment does.

* `adoptLibrary_eq` — the order of merging leaves no trace
* `preload_order_free_iff` — the orders leave no trace exactly for structures that are not mixed
* `preload_depends_on_order` — the structure of a run that loaded another library is mixed
-/

namespace TaskBuilders.Generator

open Naming

variable {g : Generator} {s : Structure} {l : Loading}

/-! ## Structures of one package -/

/-- All generated classes of a structure belong to the output package, or none does. -/
def Unmixed (g : Generator) (s : Structure) : Prop :=
  ∀ c ∈ s.classes.values, ∀ d ∈ s.classes.values, isGenerated c → isGenerated d →
    packageOf c.name = g.options.importPath → packageOf d.name = g.options.importPath

instance (g : Generator) (s : Structure) : Decidable (g.Unmixed s) :=
  inferInstanceAs (Decidable (∀ c ∈ s.classes.values, ∀ d ∈ s.classes.values, _ → _ → _ → _))

/-- Which generated class comes first does not matter when the structure is not mixed. -/
theorem samePackage_eq (h : g.Unmixed l.library) :
    g.samePackage l = g.samePackage (.byName l.library) := by
  have hmem := fun c => (l.asked_perm.map Prod.snd).mem_iff (a := c)
  unfold samePackage
  cases hfirst : (l.asked.map Prod.snd).find? isGenerated with
  | none =>
    have hnone : (l.library.classes.entries.map Prod.snd).find? isGenerated = none :=
      List.find?_eq_none.2 fun c hc => List.find?_eq_none.1 hfirst c ((hmem c).2 hc)
    rw [Loading.byName, hnone]
  | some c =>
    have hc := (hmem c).1 (List.mem_of_find?_eq_some hfirst)
    cases hsorted : (l.library.classes.entries.map Prod.snd).find? isGenerated with
    | none => exact absurd (List.find?_some hfirst) (List.find?_eq_none.1 hsorted c hc)
    | some d =>
      have hd := List.mem_of_find?_eq_some hsorted
      have hgen := List.find?_some hfirst
      have hgen' := List.find?_some hsorted
      rw [Loading.byName, hsorted, Bool.eq_iff_iff, beq_iff_eq, beq_iff_eq]
      exact ⟨h c hc d hd hgen hgen', h d hd c hc hgen' hgen⟩

/-- The order in which classes are merged leaves no trace. -/
theorem adoptLibrary_eq (g : Generator) (l : Loading) :
    g.adoptLibrary l = g.adoptLibrary (.byName l.library) := by
  rw [adoptLibrary, adoptLibrary, Structure.mergeInOrder_perm l.merged_perm]
  rfl

/-- Any class can be met first. -/
theorem exists_loading_cons {c : StructureClass} (hc : c ∈ s.classes.values) :
    ∃ l : Loading, l.library = s ∧ ∃ key es, l.asked = (key, c) :: es := by
  obtain ⟨⟨key, c'⟩, he, rfl⟩ := List.mem_map.1 hc
  obtain ⟨before, after, hsplit⟩ := List.append_of_mem he
  have hperm : ((key, c') :: (before ++ after)).Perm s.classes.entries := by
    rw [hsplit]
    exact List.perm_middle.symm
  exact ⟨⟨s, _, _, hperm, .refl _⟩, rfl, key, _, rfl⟩

theorem samePackage_of_cons {c : StructureClass} {key : String} {es : List (String × StructureClass)}
    (hasked : l.asked = (key, c) :: es) (hc : isGenerated c) :
    g.samePackage l = (packageOf c.name == g.options.importPath) := by
  unfold samePackage
  rw [hasked, List.map_cons, List.find?_cons_of_pos hc]

/-! ## The two treatments differ -/

@[simp] theorem log_pinName (g : Generator) (c : StructureClass) : (g.pinName c).log = g.log := by
  unfold pinName
  split
  · rfl
  · split <;> rfl

@[simp] theorem log_adoptClass (g : Generator) (c : StructureClass) :
    (g.adoptClass c).log = g.log := by
  unfold adoptClass
  split
  · rfl
  · split <;> rfl

theorem log_foldl {f : Generator → StructureClass → Generator} (hf : ∀ g c, (f g c).log = g.log)
    (cs : List StructureClass) (g : Generator) : (cs.foldl f g).log = g.log := by
  induction cs generalizing g with
  | nil => rfl
  | cons c cs ih => rw [List.foldl_cons, ih, hf]

theorem length_log_settleRuntime (g : Generator) (s : Structure) :
    g.log.length ≤ (g.settleRuntime s).log.length := by
  unfold settleRuntime
  split
  · exact Nat.le_refl _
  · split
    · rw [logging, List.length_append]
      exact Nat.le_add_right _ _
    · exact Nat.le_refl _

/-- Only a structure of another package is logged. -/
theorem adoptLibrary_ne_pinned (g : Generator) (l : Loading) (cs : List StructureClass) :
    g.adoptLibrary l ≠ cs.foldl pinName g := by
  intro he
  have hlog := congrArg (·.log.length) he
  simp only [adoptLibrary, logging, List.length_append, log_foldl log_pinName,
    log_foldl log_adoptClass, List.length_singleton] at hlog
  have hle := length_log_settleRuntime g l.library
  omega

/-! ## When the order leaves no trace -/

/-- **The order in which classes are met leaves no trace exactly when the structure is not mixed**:
its generated classes belong to the output package all together or not at all. -/
theorem preload_order_free_iff (g : Generator) (s : Structure) :
    (∀ l : Loading, l.library = s → g.load l = g.preload s) ↔ g.Unmixed s := by
  constructor
  · intro h c hc d hd hgen hgen' hpackage
    refine Decidable.byContradiction fun hother => ?_
    -- let one class come first, and then the other
    obtain ⟨l, hl, key, es, hasked⟩ := exists_loading_cons hc
    obtain ⟨l', hl', key', es', hasked'⟩ := exists_loading_cons hd
    have hpinned := h l hl
    have hadopted := h l' hl'
    rw [load, samePackage_of_cons hasked hgen, if_pos (beq_iff_eq.2 hpackage)] at hpinned
    rw [load, samePackage_of_cons hasked' hgen', if_neg (mt beq_iff_eq.1 hother)] at hadopted
    exact adoptLibrary_ne_pinned g l' _ (hadopted.trans hpinned.symm)
  · rintro h l rfl
    rw [preload, load, load, samePackage_eq h, adoptLibrary_eq]
    rfl

/-! ## Structures of several packages -/

/-- A structure whose classes are met in the opposite order of their names. -/
def Loading.descending (s : Structure) : Loading where
  library := s
  asked := s.classes.entries.reverse
  merged := s.classes.entries.reverse
  asked_perm := List.reverse_perm _
  merged_perm := List.reverse_perm _

/-- Two types, one for each of two libraries that build on each other. -/
def layeredTypes : List TaskDefinition := [{ id := "x.Bar" }, { id := "x.Foo" }]

/-- The order shows for the structure of a run that loaded another library: a later run into the
package either pins the names of its own type or takes over both types, and then never writes the
wrapper of its own type. -/
theorem preload_depends_on_order :
    ∃ base own s,
      Generator.new (.static layeredTypes) { importPath := "m/lib", runtimePath := "m/rt" }
        = .ok base ∧
      Generator.new (.static layeredTypes) { importPath := "m/out", runtimePath := "m/rt" }
        = .ok own ∧
      s = ((own.preload (base.serve (.resolve "x.Bar")).library).serve (.resolve "x.Foo")).library ∧
      Structure.decode s.encode = .ok s ∧
      ((own.preload s).serve (.resolve "x.Foo")).wrappers.map (·.ident) = [] ∧
      ((own.load (.descending s)).serve (.resolve "x.Foo")).wrappers.map (·.ident) = ["DSLFoo"] := by
  refine ⟨_, _, _, rfl, rfl, rfl, Structure.decode_encode_of_keyed ?_, ?_, ?_⟩
  · decide +kernel
  · decide +kernel
  · decide +kernel

end TaskBuilders.Generator
