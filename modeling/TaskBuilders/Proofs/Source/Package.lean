import TaskBuilders.Proofs.Naming.ImportTable
import TaskBuilders.Proofs.Source.Emission

/-!
# Blocks in a file of a package

A file belongs to a package, and it stays there while blocks are made and imports are recorded. Names of
that package need no import, so a method on one of its types has the type's identifier in its receiver.

* `YieldsIn` — what a computation yields in a file of a package
* `nodup_fieldNames` — the fields of a wrapper have different names
* `Makes.yields` — what all blocks have in common
-/

namespace TaskBuilders

open Naming Source Text

namespace Emitter

/-! ## Computations in a file of a package -/

/-- In a file of the package `self`, what a computation yields satisfies `P`, and the file stays in the
package. -/
def YieldsIn {α : Type} (self : String) (x : StateM ImportTable α) (P : α → Prop) : Prop :=
  ∀ t, t.self = self → P (x t).1 ∧ (x t).2.self = self

variable {α β : Type} {self : String} {P : β → Prop} {Q : α → Prop}

theorem YieldsIn.bind {x : StateM ImportTable α} {f : α → StateM ImportTable β}
    (hx : YieldsIn self x Q) (hf : ∀ a, Q a → YieldsIn self (f a) P) : YieldsIn self (x >>= f) P := by
  intro t ht
  obtain ⟨hq, hself⟩ := hx t ht
  exact hf (x t).1 hq (x t).2 hself

theorem YieldsIn.map {x : StateM ImportTable α} {f : α → β} (hx : YieldsIn self x Q)
    (hf : ∀ a, Q a → P (f a)) : YieldsIn self (f <$> x) P := by
  intro t ht
  obtain ⟨hq, hself⟩ := hx t ht
  exact ⟨hf _ hq, hself⟩

theorem YieldsIn.imp {x : StateM ImportTable α} {R : α → Prop} (hx : YieldsIn self x Q)
    (h : ∀ a, Q a → R a) : YieldsIn self x R :=
  fun t ht => ⟨h _ (hx t ht).1, (hx t ht).2⟩

theorem yieldsIn_pure {a : α} (h : Q a) : YieldsIn self (pure a : StateM ImportTable α) Q :=
  fun _ ht => ⟨h, ht⟩

/-- Shortening a name leaves a file in its package. -/
theorem keeps_self (self q : String) : Keeps (fun t => t.self = self) (short q) :=
  fun t ht => (t.self_shorten q).trans ht

theorem Keeps.yieldsIn {x : StateM ImportTable α} (h : Keeps (fun t => t.self = self) x) :
    YieldsIn self x fun _ => True := fun t ht => ⟨trivial, h t ht⟩

/-- A name of the package is shortened to its identifier. -/
theorem yieldsIn_short (self q : String) :
    YieldsIn self (short q) fun s => ¬ ImportTable.Foreign self q → s = identOf q := by
  intro t ht
  refine ⟨fun hq => ?_, (t.self_shorten q).trans ht⟩
  rw [short, ImportTable.shorten_of_not_foreign (ht ▸ hq)]

/-- What is yielded for all elements of a list, seen through `h`. -/
theorem yieldsIn_mapM {γ : Type} {f : α → StateM ImportTable β} {h : β → γ} {k : α → γ}
    (hf : ∀ a, YieldsIn self (f a) fun b => h b = k a) (xs : List α) :
    YieldsIn self (xs.mapM f) fun ys => ys.map h = xs.map k := by
  induction xs with
  | nil => exact yieldsIn_pure rfl
  | cons x xs ih =>
    rw [List.mapM_cons]
    refine (hf x).bind fun y hy => ih.bind fun ys hys => yieldsIn_pure ?_
    rw [List.map_cons, List.map_cons, hy, hys]

/-! ## Wrappers -/

/-- Names that are chosen one after the other are different. -/
theorem nodup_fieldNames (attrs : List AttributeDescriptor) : ∀ (used : List String) (index : Nat),
    (fieldNames used index attrs).Nodup ∧ ∀ name ∈ fieldNames used index attrs, name ∉ used := by
  induction attrs with
  | nil => exact fun _ _ => ⟨.nil, nofun⟩
  | cons a rest ih =>
    intro used index
    obtain ⟨hnodup, hfresh⟩ :=
      ih (used ++ [firstFree used (preferredField index a.name)]) (index + 1)
    unfold fieldNames
    refine ⟨List.nodup_cons.2 ⟨fun hmem => hfresh _ hmem (by simp), hnodup⟩, fun name hname => ?_⟩
    rcases List.mem_cons.1 hname with rfl | hname
    · exact firstFree_not_mem _ _
    · exact fun hused => hfresh name hname (List.mem_append_left _ hused)

theorem yieldsIn_fields (self : String) (e : Emitter) (attrs : List AttributeDescriptor) :
    YieldsIn self (e.fields attrs) fun fs => fs.map (·.name) = fieldNames [] 0 attrs := by
  have hfirst : ((fieldNames [] 0 attrs).zip attrs).map Prod.fst = fieldNames [] 0 attrs :=
    List.map_fst_zip (Nat.le_of_eq (length_fieldNames attrs [] 0))
  rw [← hfirst]
  refine yieldsIn_mapM (fun x => ?_) _
  exact (keeps_attributeType (keeps_self self) e x.2).yieldsIn.bind fun _ _ => yieldsIn_pure rfl

/-- The fields of a wrapper have different names. -/
theorem yieldsIn_wrapperBlock (self : String) (e : Emitter) (w : Wrapper) :
    YieldsIn self (e.wrapperBlock w) fun b => (b.fields.map (·.name)).Nodup := by
  unfold wrapperBlock
  refine (yieldsIn_short self _).bind fun _ _ => (yieldsIn_short self _).bind fun _ _ => ?_
  refine (yieldsIn_short self _).bind fun _ _ => ?_
  refine (yieldsIn_fields self e w.attributes).bind fun fs hfs => ?_
  refine (keeps_shortRuntimeIf (keeps_self self) e _ _).yieldsIn.bind fun _ _ => ?_
  refine (keeps_shortRuntimeIf (keeps_self self) e _ _).yieldsIn.bind fun _ _ => yieldsIn_pure ?_
  show (fs.map (·.name)).Nodup
  rw [hfs]
  exact (nodup_fieldNames w.attributes [] 0).1

/-! ## Builders -/

/-- How the receiver of a builder is made in a file of the package `self`: a type of the package goes by
its identifier. -/
def ReceiverIn (self : String) (b : BuilderBlock) : Prop :=
  ∃ parentType, b.receiver = receiver b.decl parentType ∧
    (¬ ImportTable.Foreign self b.decl.parent.type → parentType = identOf b.decl.parent.type)

theorem yieldsIn_builderBlock (self : String) (e : Emitter) (d : BuilderDecl) :
    YieldsIn self (e.builderBlock d) (ReceiverIn self) := by
  have hsteps := fun create block => yieldsIn_mapM (h := fun _ => ()) (k := fun _ => ())
    (fun s => (keeps_stepLines (keeps_self self) e d create block s).yieldsIn.imp fun _ _ => rfl)
    d.steps
  unfold builderBlock
  refine (yieldsIn_short self _).bind fun elem _ => (yieldsIn_short self _).bind fun create _ => ?_
  refine (yieldsIn_short self _).bind fun parentType hparent => ?_
  refine (keeps_attributeParams (keeps_self self) d).yieldsIn.bind fun _ _ => ?_
  refine (keeps_blockType (keeps_self self) d elem).yieldsIn.bind fun block _ => ?_
  refine (keeps_resultType (keeps_self self) e d elem).yieldsIn.bind fun _ _ => ?_
  exact (hsteps create block).bind fun _ _ => yieldsIn_pure ⟨parentType, rfl, hparent⟩

/-! ## Blocks -/

/-- The fields of a wrapper have different names, and a type of the package goes by its identifier in
receivers. -/
def WellMade (self : String) : Block → Prop
  | .wrapper w => (w.fields.map (·.name)).Nodup
  | .builder b => ReceiverIn self b
  | .container _ => True
  | .text _ => True

/-- **Every block that is made in a file of a package is well made.** -/
theorem Makes.yields {e : Emitter} {make : StateM ImportTable Block} (h : e.Makes make)
    (self : String) : YieldsIn self make (WellMade self) := by
  cases h with
  | wrapper w => exact (yieldsIn_wrapperBlock self e w).map fun _ hw => hw
  | container name capability =>
    refine YieldsIn.map (Q := fun _ => True) ?_ fun _ _ => trivial
    exact (yieldsIn_short self _).bind fun _ _ => yieldsIn_pure trivial
  | builder d => exact (yieldsIn_builderBlock self e d).map fun _ hb => hb

end Emitter

end TaskBuilders
