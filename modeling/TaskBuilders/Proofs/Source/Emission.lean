import TaskBuilders.Source.Emission

/-!
# What emitted blocks say

A block is made while imports are recorded. Which names it shortens depends on the file, but what it
is a block of does not, and to the imports it does nothing but shorten names.
-/

namespace TaskBuilders

open Naming Source

namespace Emitter

/-- What a computation yields satisfies `P`, whatever was imported before. -/
def Yields {α : Type} (x : StateM ImportTable α) (P : α → Prop) : Prop := ∀ t, P (x t).1

theorem Yields.bind {α β : Type} {Q : α → Prop} {P : β → Prop} {x : StateM ImportTable α}
    {f : α → StateM ImportTable β} (hx : Yields x Q) (hf : ∀ a, Q a → Yields (f a) P) :
    Yields (x >>= f) P := fun t => hf (x t).1 (hx t) (x t).2

theorem yields_bind {α β : Type} {P : β → Prop} {x : StateM ImportTable α}
    {f : α → StateM ImportTable β} (hf : ∀ a, Yields (f a) P) : Yields (x >>= f) P :=
  fun t => hf (x t).1 (x t).2

theorem Yields.map {α β : Type} {P : β → Prop} {x : StateM ImportTable α} {f : α → β}
    (hx : Yields x fun a => P (f a)) : Yields (f <$> x) P := fun t => hx t

theorem yields_pure {α : Type} {P : α → Prop} {a : α} (h : P a) :
    Yields (pure a : StateM ImportTable α) P := fun _ => h

/-- The ways to make a block. -/
inductive Makes (e : Emitter) : StateM ImportTable Block → Prop where
  | wrapper (w : Wrapper) : Makes e (.wrapper <$> e.wrapperBlock w)
  | container (name capability : String) : Makes e (.container <$> e.containerBlock name capability)
  | builder (d : BuilderDecl) : Makes e (.builder <$> e.builderBlock d)

/-! ## Wrappers -/

theorem length_fieldNames (attrs : List AttributeDescriptor) :
    ∀ (used : List String) (index : Nat), (fieldNames used index attrs).length = attrs.length := by
  induction attrs with
  | nil => intro used index; rfl
  | cons a rest ih =>
    intro used index
    rw [fieldNames, List.length_cons, List.length_cons, ih]

theorem yields_mapM_length {α β : Type} (f : α → StateM ImportTable β) (xs : List α) :
    Yields (xs.mapM f) (·.length = xs.length) := by
  induction xs with
  | nil => exact yields_pure rfl
  | cons x rest ih =>
    rw [List.mapM_cons]
    refine yields_bind fun y => Yields.bind ih fun ys hys => ?_
    exact yields_pure (by rw [List.length_cons, List.length_cons, hys])

/-- An attribute makes a field. -/
theorem yields_fields (e : Emitter) (attrs : List AttributeDescriptor) :
    Yields (e.fields attrs) (·.length = attrs.length) := by
  have hlength : ((fieldNames [] 0 attrs).zip attrs).length = attrs.length := by
    rw [List.length_zip, length_fieldNames, Nat.min_self]
  rw [← hlength]
  exact yields_mapM_length _ _

/-- The block of a wrapper names its type and the identifier behind it, and has a field for each
attribute and a marker for each container. -/
theorem yields_wrapperBlock (e : Emitter) (w : Wrapper) :
    Yields (e.wrapperBlock w) fun b =>
      b.source = w.source ∧ b.ident = identOf w.type ∧ b.fields.length = w.attributes.length ∧
        b.markers = w.containers.map identOf := by
  unfold wrapperBlock
  refine yields_bind fun node => yields_bind fun task => yields_bind fun newNode => ?_
  refine Yields.bind (e.yields_fields w.attributes) fun fs hfs => ?_
  refine yields_bind fun textInterface => yields_bind fun conditionInterface => ?_
  exact yields_pure ⟨rfl, rfl, hfs, rfl⟩

/-! ## Containers -/

theorem yields_containerBlock (e : Emitter) (name capability : String) :
    Yields (e.containerBlock name capability) fun b =>
      b.source = capability ∧ b.ident = identOf name :=
  yields_bind fun _ => yields_pure ⟨rfl, rfl⟩

/-! ## Builders -/

theorem isNone_receiver (d : BuilderDecl) (parentType : String) :
    (receiver d parentType).isNone = true ↔ d.parent.kind ≠ .owner := by
  unfold receiver
  split
  · next h => simp [h]
  · next h => simp [h]

/-- The block of a builder knows what it declares, and only the builders of nested elements are
methods. -/
theorem yields_builderBlock (e : Emitter) (d : BuilderDecl) :
    Yields (e.builderBlock d) fun b =>
      b.decl = d ∧ (b.receiver.isNone = true ↔ d.parent.kind ≠ .owner) := by
  unfold builderBlock
  refine yields_bind fun elem => yields_bind fun create => yields_bind fun parentType => ?_
  refine yields_bind fun attrs => yields_bind fun block => yields_bind fun result => ?_
  refine yields_bind fun body => ?_
  exact yields_pure ⟨rfl, isNone_receiver d parentType⟩

/-! ## What shortening names keeps -/

/-- A computation keeps a property of the imports. -/
def Keeps {α : Type} (I : ImportTable → Prop) (x : StateM ImportTable α) : Prop :=
  ∀ t, I t → I (x t).2

section Keeps

variable {I : ImportTable → Prop} {α β : Type}

theorem Keeps.bind {x : StateM ImportTable α} {f : α → StateM ImportTable β} (hx : Keeps I x)
    (hf : ∀ a, Keeps I (f a)) : Keeps I (x >>= f) := fun t ht => hf (x t).1 (x t).2 (hx t ht)

theorem Keeps.map {x : StateM ImportTable α} (hx : Keeps I x) (f : α → β) : Keeps I (f <$> x) :=
  fun t ht => hx t ht

theorem keeps_pure (a : α) : Keeps I (pure a : StateM ImportTable α) := fun _ ht => ht

theorem keeps_mapM {f : α → StateM ImportTable β} (hf : ∀ a, Keeps I (f a)) (xs : List α) :
    Keeps I (xs.mapM f) := by
  induction xs with
  | nil => exact keeps_pure []
  | cons x xs ih =>
    rw [List.mapM_cons]
    exact (hf x).bind fun _ => ih.bind fun _ => keeps_pure _

variable (hshort : ∀ q, Keeps I (short q)) (e : Emitter)

include hshort

theorem keeps_attributeType (a : AttributeDescriptor) : Keeps I (e.attributeType a) := by
  unfold attributeType
  split
  · exact keeps_pure _
  · split
    · exact (hshort _).bind fun _ => (hshort _).bind fun _ => keeps_pure _
    · exact keeps_pure _

theorem keeps_fields (attrs : List AttributeDescriptor) : Keeps I (e.fields attrs) := by
  refine keeps_mapM (fun x => ?_) _
  exact (keeps_attributeType hshort e x.2).bind fun _ => keeps_pure _

theorem keeps_shortRuntimeIf (needed : Bool) (name : String) :
    Keeps I (e.shortRuntimeIf needed name) := by
  unfold shortRuntimeIf
  split
  · exact (hshort _).map some
  · exact keeps_pure _

theorem keeps_wrapperBlock (w : Wrapper) : Keeps I (e.wrapperBlock w) := by
  unfold wrapperBlock
  refine (hshort _).bind fun _ => (hshort _).bind fun _ => (hshort _).bind fun _ => ?_
  refine (keeps_fields hshort e _).bind fun _ => (keeps_shortRuntimeIf hshort e _ _).bind fun _ => ?_
  exact (keeps_shortRuntimeIf hshort e _ _).bind fun _ => keeps_pure _

theorem keeps_attributeParams (d : BuilderDecl) : Keeps I (attributeParams d) := by
  unfold attributeParams
  split
  · exact keeps_pure _
  · exact (hshort _).bind fun _ => keeps_pure _

theorem keeps_blockType (d : BuilderDecl) (elem : String) : Keeps I (blockType d elem) := by
  unfold blockType
  split
  · exact (hshort _).bind fun _ => keeps_pure _
  · exact keeps_pure _

theorem keeps_resultType (d : BuilderDecl) (elem : String) : Keeps I (e.resultType d elem) := by
  unfold resultType
  split
  · exact keeps_pure _
  · exact keeps_pure _
  · exact (hshort _).bind fun _ => keeps_pure _

theorem keeps_stepLines (d : BuilderDecl) (create block : String) (step : BuilderStep) :
    Keeps I (e.stepLines d create block step) := by
  cases step with
  | obtainReference => exact (hshort _).bind fun _ => keeps_pure _
  | runContainer => exact (hshort _).bind fun _ => keeps_pure _
  | _ => exact keeps_pure _

theorem keeps_builderBlock (d : BuilderDecl) : Keeps I (e.builderBlock d) := by
  unfold builderBlock
  refine (hshort _).bind fun elem => (hshort _).bind fun create => (hshort _).bind fun _ => ?_
  refine (keeps_attributeParams hshort d).bind fun _ => ?_
  refine (keeps_blockType hshort d elem).bind fun block => ?_
  refine (keeps_resultType hshort e d elem).bind fun _ => ?_
  exact (keeps_mapM (keeps_stepLines hshort e d create block) d.steps).bind fun _ => keeps_pure _

/-- **What shortening a name keeps, making a block keeps.** -/
theorem Makes.keeps {e : Emitter} {make : StateM ImportTable Block} (h : e.Makes make) :
    Keeps I make := by
  cases h with
  | wrapper w => exact (keeps_wrapperBlock hshort e w).map _
  | container name capability =>
    exact Keeps.map ((hshort _).bind fun _ => keeps_pure _) _
  | builder d => exact (keeps_builderBlock hshort e d).map _

end Keeps

end Emitter

end TaskBuilders
