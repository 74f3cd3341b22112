import TaskBuilders.Proofs.Naming.ImportTable
import TaskBuilders.Proofs.Source.Emission
import TaskBuilders.Proofs.Text.Line

/-!
# Blocks as functions of the imports

Names are shortened one after the other while a block is made, and each may bring in an import. Since a
package keeps its alias, nothing depends on the moment: the names that a block needs are known before it
is made, and with the imports that the file has in the end the same block is made again.

* `ImportTable.reference` — how a name is written in a file
* `Emitter.Reads` — a computation records certain names and depends on nothing but their aliases
* `Emission` — what an emitter is asked for
* `Emission.reads_make` — a block is a function of the imports
* `SourceFile.Holds` — a file holds the blocks of some calls
-/

namespace TaskBuilders

open Naming Source Text

namespace Naming.ImportTable

variable {t : ImportTable} {q a : String}

/-- How a name is written in a file with these imports. -/
def reference (t : ImportTable) (qualified : String) : String :=
  if Foreign t.self qualified then
    (t.aliasOf? (packageOf qualified)).getD "" ++ "." ++ identOf qualified
  else identOf qualified

theorem reference_of_foreign (h : Foreign t.self q) (ha : t.aliasOf? (packageOf q) = some a) :
    t.reference q = a ++ "." ++ identOf q := by
  rw [reference, if_pos h, ha, Option.getD_some]

theorem reference_of_not_foreign (h : ¬ Foreign t.self q) : t.reference q = identOf q := if_neg h

/-- A name is shortened to what it is written as ever after. -/
theorem shorten_eq_reference (t : ImportTable) (q : String) (later : List String) :
    (t.shorten q).1 = (t.after (q :: later)).reference q := by
  have hself : (t.after (q :: later)).self = t.self := t.self_after _
  by_cases hf : Foreign t.self q
  · obtain ⟨a, ha, href⟩ := shorten_fst hf
    have hlater : (t.after (q :: later)).aliasOf? (packageOf q) = some a := aliasOf?_after ha later
    rw [href, reference_of_foreign (hself.symm ▸ hf) hlater]
  · rw [shorten_of_not_foreign hf, reference_of_not_foreign (hself.symm ▸ hf)]

end Naming.ImportTable

namespace Emitter

/-! ## Computations that read imports -/

section Reads

variable {α β : Type} {names names' : List String} {value : ImportTable → α}

/-- A computation records names in their order, and yields what `value` makes of the imports, then and at
any later time. -/
def Reads (x : StateM ImportTable α) (names : List String) (value : ImportTable → α) : Prop :=
  ∀ t later, x t = (value (t.after (names ++ later)), t.after names)

theorem reads_pure (a : α) : Reads (pure a) [] fun _ => a := fun _ _ => rfl

theorem reads_short (q : String) : Reads (short q) [q] (·.reference q) :=
  fun t later => Prod.ext (t.shorten_eq_reference q later) rfl

theorem Reads.bind {x : StateM ImportTable α} {f : α → StateM ImportTable β}
    {value' : α → ImportTable → β} (hx : Reads x names value)
    (hf : ∀ a, Reads (f a) names' (value' a)) :
    Reads (x >>= f) (names ++ names') fun t => value' (value t) t := by
  intro t later
  have hfirst := hx t (names' ++ later)
  have hthen := hf (value (t.after (names ++ (names' ++ later)))) (t.after names) later
  show f (x t).1 (x t).2 = _
  rw [hfirst, hthen, ← ImportTable.after_append, ← ImportTable.after_append, List.append_assoc]

theorem Reads.map {x : StateM ImportTable α} (hx : Reads x names value) (f : α → β) :
    Reads (f <$> x) names fun t => f (value t) := by
  intro t later
  show (f (x t).1, (x t).2) = _
  rw [hx t later]

theorem reads_mapM {f : α → StateM ImportTable β} {names : α → List String}
    {value : α → ImportTable → β} (hf : ∀ a, Reads (f a) (names a) (value a)) (xs : List α) :
    Reads (xs.mapM f) (xs.flatMap names) fun t => xs.map (value · t) := by
  induction xs with
  | nil => exact reads_pure []
  | cons x xs ih =>
    have hcons := (hf x).bind fun y => ih.bind fun ys => reads_pure (y :: ys)
    rw [List.append_nil] at hcons
    rw [List.mapM_cons, List.flatMap_cons]
    exact hcons

end Reads

/-! ## Wrappers -/

/-- The names that the type of an attribute needs. -/
def attributeNames (e : Emitter) (a : AttributeDescriptor) : List String :=
  if a.kind = .primitive then []
  else if a.kind = .ownerRef || a.kind = .pathRef then [e.runtimeName "Reference", a.type]
  else []

/-- References need a name of the runtime package and the type that they refer to. -/
theorem mem_attributeNames {e : Emitter} {a : AttributeDescriptor} {q : String} :
    q ∈ e.attributeNames a ↔
      (a.kind = .ownerRef ∨ a.kind = .pathRef) ∧ (q = e.runtimeName "Reference" ∨ q = a.type) := by
  unfold attributeNames
  split
  · next h =>
    have hne : AttributeKind.primitive ≠ .ownerRef ∧ AttributeKind.primitive ≠ .pathRef := by decide
    simp [h, hne]
  · split
    · next h => simp_all
    · next h => simp_all

/-- The type of an attribute, in a file with these imports. -/
def attributeTypeIn (e : Emitter) (t : ImportTable) (a : AttributeDescriptor) : String :=
  if a.kind = .primitive then a.type
  else if a.kind = .ownerRef || a.kind = .pathRef then
    "*" ++ t.reference (e.runtimeName "Reference") ++ "[*" ++ t.reference a.type ++ "]"
  else "string"

theorem reads_attributeType (e : Emitter) (a : AttributeDescriptor) :
    Reads (e.attributeType a) (e.attributeNames a) (e.attributeTypeIn · a) := by
  unfold attributeType attributeNames attributeTypeIn
  split
  · exact reads_pure _
  · split
    · exact (reads_short _).bind fun _ => (reads_short _).bind fun _ => reads_pure _
    · exact reads_pure _

theorem map_snd_zip_fieldNames (attrs : List AttributeDescriptor) :
    ((fieldNames [] 0 attrs).zip attrs).map Prod.snd = attrs :=
  List.map_snd_zip (Nat.le_of_eq (length_fieldNames attrs [] 0).symm)

/-- The fields of a wrapper, in a file with these imports. -/
def fieldsIn (e : Emitter) (t : ImportTable) (attrs : List AttributeDescriptor) : List Field :=
  ((fieldNames [] 0 attrs).zip attrs).map fun (name, a) =>
    ⟨name, a.name, e.attributeTypeIn t a, a.kind = .primitive || a.kind = .string⟩

theorem reads_fields (e : Emitter) (attrs : List AttributeDescriptor) :
    Reads (e.fields attrs) (attrs.flatMap e.attributeNames) (e.fieldsIn · attrs) := by
  have hnames : ((fieldNames [] 0 attrs).zip attrs).flatMap (fun x => e.attributeNames x.2) =
      attrs.flatMap e.attributeNames := by
    conv_rhs => rw [← map_snd_zip_fieldNames attrs, List.flatMap_map]
  rw [← hnames]
  refine reads_mapM (fun x => ?_) _
  have hfield := (e.reads_attributeType x.2).bind fun type =>
    reads_pure (⟨x.1, x.2.name, type, x.2.kind = .primitive || x.2.kind = .string⟩ : Field)
  rwa [List.append_nil] at hfield

theorem legible_fieldNames (attrs : List AttributeDescriptor) : ∀ (used : List String) (index : Nat),
    ∀ name ∈ fieldNames used index attrs, Legible name := by
  induction attrs with
  | nil => exact fun _ _ => nofun
  | cons a rest ih =>
    intro used index name hname
    have hpreferred : Legible (preferredField index a.name) := by
      unfold preferredField
      dsimp only
      split
      · exact Legible.append (by decide) (legible_toString index)
      · exact (legible_camelCase a.name).exported
    rcases List.mem_cons.1 hname with rfl | hname
    · exact hpreferred.firstFree used
    · exact ih _ _ name hname

/-- Fields have legible names, whatever their attributes are called. -/
theorem legible_fieldsIn (e : Emitter) (t : ImportTable) (attrs : List AttributeDescriptor) :
    ∀ f ∈ e.fieldsIn t attrs, Legible f.name := by
  intro f hf
  obtain ⟨⟨name, a⟩, hx, rfl⟩ := List.mem_map.1 hf
  exact legible_fieldNames attrs [] 0 name (List.of_mem_zip hx).1

/-- Every attribute has a field. -/
theorem exists_field (e : Emitter) (t : ImportTable) {attrs : List AttributeDescriptor}
    {a : AttributeDescriptor} (h : a ∈ attrs) : ∃ name, (⟨name, a.name, e.attributeTypeIn t a,
      a.kind = .primitive || a.kind = .string⟩ : Field) ∈ e.fieldsIn t attrs := by
  rw [← map_snd_zip_fieldNames attrs] at h
  obtain ⟨⟨name, _⟩, hx, rfl⟩ := List.mem_map.1 h
  exact ⟨name, List.mem_map.2 ⟨_, hx, rfl⟩⟩

/-- A name that is needed under a condition. -/
def namesIf (needed : Bool) (q : String) : List String := if needed then [q] else []

theorem mem_namesIf {needed : Bool} {q q' : String} : q' ∈ namesIf needed q ↔ needed = true ∧ q' = q := by
  unfold namesIf
  split
  · next h => simp [h]
  · next h => simp [h]

/-- How a name that is needed under a condition is written. -/
def referenceIf (needed : Bool) (q : String) (t : ImportTable) : Option String :=
  if needed then some (t.reference q) else none

theorem reads_shortRuntimeIf (e : Emitter) (needed : Bool) (name : String) :
    Reads (e.shortRuntimeIf needed name) (namesIf needed (e.runtimeName name))
      (referenceIf needed (e.runtimeName name)) := by
  unfold shortRuntimeIf namesIf referenceIf
  split
  · exact (reads_short _).map some
  · exact reads_pure _

/-- The names that a wrapper needs. -/
def wrapperNames (e : Emitter) (w : Wrapper) : List String :=
  [e.runtimeName "Node", e.runtimeName "Task", e.runtimeName "NewNode"] ++
    (w.attributes.flatMap e.attributeNames ++
      (namesIf w.textContainer (e.runtimeName "TextContainer") ++
        namesIf w.condition (e.runtimeName "Condition")))

/-- A wrapper, in a file with these imports. -/
def wrapperIn (e : Emitter) (w : Wrapper) (t : ImportTable) : WrapperBlock where
  ident := identOf w.type
  source := w.source
  node := t.reference (e.runtimeName "Node")
  task := t.reference (e.runtimeName "Task")
  newNode := t.reference (e.runtimeName "NewNode")
  fields := e.fieldsIn t w.attributes
  textInterface := referenceIf w.textContainer (e.runtimeName "TextContainer") t
  conditionInterface := referenceIf w.condition (e.runtimeName "Condition") t
  markers := w.containers.map identOf

theorem reads_wrapperBlock (e : Emitter) (w : Wrapper) :
    Reads (e.wrapperBlock w) (e.wrapperNames w) (e.wrapperIn w) := by
  have hblock := (reads_short (e.runtimeName "Node")).bind fun node =>
    (reads_short (e.runtimeName "Task")).bind fun task =>
    (reads_short (e.runtimeName "NewNode")).bind fun newNode =>
    (e.reads_fields w.attributes).bind fun fields =>
    (e.reads_shortRuntimeIf w.textContainer "TextContainer").bind fun text =>
    (e.reads_shortRuntimeIf w.condition "Condition").bind fun condition =>
    reads_pure (⟨identOf w.type, w.source, node, task, newNode, fields, text, condition,
      w.containers.map identOf⟩ : WrapperBlock)
  rw [List.append_nil] at hblock
  exact hblock

/-! ## Builders -/

/-- The qualified constructor of what a builder makes. -/
def createName (d : BuilderDecl) : String := qualify (packageOf d.element) ("New" ++ identOf d.element)

/-- The qualified attribute record of what a builder makes. -/
def recordName (d : BuilderDecl) : String := qualify (packageOf d.element) (identOf d.element ++ "Attrs")

/-- The parameter that takes the attributes, in a file with these imports. -/
def attributeParamsIn (d : BuilderDecl) (t : ImportTable) : List String :=
  if d.params.isEmpty then [] else ["attrs " ++ t.reference (recordName d)]

theorem reads_attributeParams (d : BuilderDecl) :
    Reads (attributeParams d) (namesIf (!d.params.isEmpty) (recordName d)) (attributeParamsIn d) := by
  unfold attributeParams namesIf attributeParamsIn
  cases d.params.isEmpty with
  | true => exact reads_pure _
  | false =>
    have hparam := (reads_short (recordName d)).bind fun record => reads_pure ["attrs " ++ record]
    exact hparam

/-- The type of the block that runs on the node, in a file with these imports. -/
def blockTypeIn (d : BuilderDecl) (elem : String) (t : ImportTable) : String :=
  if d.container then "func(" ++ t.reference d.initReceiver ++ ")" else "func(*" ++ elem ++ ")"

theorem reads_blockType (d : BuilderDecl) (elem : String) :
    Reads (blockType d elem) (namesIf d.container d.initReceiver) (blockTypeIn d elem) := by
  unfold blockType namesIf blockTypeIn
  split
  · have htype := (reads_short d.initReceiver).bind fun receiver =>
      reads_pure ("func(" ++ receiver ++ ")")
    exact htype
  · exact reads_pure _

/-- The type that a builder returns, in a file with these imports. -/
def resultTypeIn (e : Emitter) (d : BuilderDecl) (elem : String) (t : ImportTable) : Option String :=
  match d.returns with
  | .nothing => none
  | .bool => some "bool"
  | .reference => some ("*" ++ t.reference (e.runtimeName "Reference") ++ "[*" ++ elem ++ "]")

theorem reads_resultType (e : Emitter) (d : BuilderDecl) (elem : String) :
    Reads (e.resultType d elem) (namesIf (d.returns = .reference) (e.runtimeName "Reference"))
      (e.resultTypeIn d elem) := by
  unfold resultType namesIf resultTypeIn
  cases d.returns with
  | nothing => exact reads_pure _
  | bool => exact reads_pure _
  | reference =>
    have hresult := (reads_short (e.runtimeName "Reference")).bind fun reference =>
      reads_pure (some ("*" ++ reference ++ "[*" ++ elem ++ "]"))
    exact hresult

/-- The names that a step needs. -/
def stepNames (e : Emitter) : BuilderStep → List String
  | .obtainReference => [e.runtimeName "NewReference"]
  | .runContainer => [e.runtimeName "RunContainer"]
  | _ => []

/-- The lines of a step, in a file with these imports. -/
def stepLinesIn (e : Emitter) (d : BuilderDecl) (create block : String) (t : ImportTable) :
    BuilderStep → List String
  | .construct =>
    ["obj := " ++ create ++ "(" ++ (if d.parent.kind = .owner then "o" else "parent") ++ ", "
      ++ quote d.tag ++ ", " ++ (if d.parent.outermost then "true" else "false") ++ ")"]
  | .assignAttributes => ["obj.ApplyDSLAttrs(attrs)"]
  | .runInit => ["if body != nil \x7b", "\tbody(obj)", "\x7d"]
  | .obtainReference => ["ref := " ++ t.reference (e.runtimeName "NewReference") ++ "(obj)"]
  | .configure => ["obj.DSLNode().Configure()"]
  | .runContainer => [t.reference (e.runtimeName "RunContainer") ++ "(obj, body)"]
  | .execute => ["obj.DSLNode().Execute()"]
  | .return => [if d.returns = .bool then "return obj.DSLNode().Eval()" else "return ref"]
  | .forward => [forwardCall d block]

theorem reads_stepLines (e : Emitter) (d : BuilderDecl) (create block : String) (s : BuilderStep) :
    Reads (e.stepLines d create block s) (e.stepNames s) (e.stepLinesIn d create block · s) := by
  cases s with
  | obtainReference =>
    have hstep := (reads_short (e.runtimeName "NewReference")).bind fun newReference =>
      reads_pure ["ref := " ++ newReference ++ "(obj)"]
    exact hstep
  | runContainer =>
    have hstep := (reads_short (e.runtimeName "RunContainer")).bind fun runContainer =>
      reads_pure [runContainer ++ "(obj, body)"]
    exact hstep
  | _ => exact reads_pure _

/-- The names that a builder needs. -/
def builderNames (e : Emitter) (d : BuilderDecl) : List String :=
  [d.element, createName d, d.parent.type] ++
    (namesIf (!d.params.isEmpty) (recordName d) ++
      (namesIf d.container d.initReceiver ++
        (namesIf (d.returns = .reference) (e.runtimeName "Reference") ++ d.steps.flatMap e.stepNames)))

/-- A builder, in a file with these imports. -/
def builderIn (e : Emitter) (d : BuilderDecl) (t : ImportTable) : BuilderBlock :=
  let elem := t.reference d.element
  let block := blockTypeIn d elem t
  { decl := d
    receiver := receiver d (t.reference d.parent.type)
    params := params d (t.reference d.parent.type) block (attributeParamsIn d t)
    result := e.resultTypeIn d elem t
    body := (d.steps.map (e.stepLinesIn d (t.reference (createName d)) block t)).flatten }

theorem reads_builderBlock (e : Emitter) (d : BuilderDecl) :
    Reads (e.builderBlock d) (e.builderNames d) (e.builderIn d) := by
  have hblock := (reads_short d.element).bind fun elem =>
    (reads_short (createName d)).bind fun create =>
    (reads_short d.parent.type).bind fun parentType =>
    (reads_attributeParams d).bind fun attrs =>
    (reads_blockType d elem).bind fun block =>
    (e.reads_resultType d elem).bind fun result =>
    (reads_mapM (e.reads_stepLines d create block) d.steps).bind fun body =>
    reads_pure (⟨d, receiver d parentType, params d parentType block attrs, result, body.flatten⟩ :
      BuilderBlock)
  rw [List.append_nil] at hblock
  exact hblock

end Emitter

/-! ## Calls of an emitter -/

/-- What an emitter is asked for. -/
inductive Emission where
  | wrapper (w : Emitter.Wrapper)
  | container (name capability : String)
  | builder (d : BuilderDecl)

namespace Emission

/-- Makes the block. -/
def make (e : Emitter) : Emission → StateM ImportTable Block
  | .wrapper w => .wrapper <$> e.wrapperBlock w
  | .container name capability => .container <$> e.containerBlock name capability
  | .builder d => .builder <$> e.builderBlock d

/-- The names that the block needs. -/
def names (e : Emitter) : Emission → List String
  | .wrapper w => e.wrapperNames w
  | .container _ _ => [e.runtimeName "Task"]
  | .builder d => e.builderNames d

/-- The block, in a file with these imports. -/
def blockIn (e : Emitter) (m : Emission) (t : ImportTable) : Block :=
  match m with
  | .wrapper w => .wrapper (e.wrapperIn w t)
  | .container name capability =>
    .container ⟨identOf name, capability, t.reference (e.runtimeName "Task")⟩
  | .builder d => .builder (e.builderIn d t)

/-- The lines of the block, in a file with these imports. -/
def linesIn (e : Emitter) (m : Emission) (t : ImportTable) : List String :=
  match m with
  | .wrapper w => (e.wrapperIn w t).lines
  | .container name capability =>
    ContainerBlock.lines ⟨identOf name, capability, t.reference (e.runtimeName "Task")⟩
  | .builder d => (e.builderIn d t).lines

theorem render_blockIn (e : Emitter) (m : Emission) (t : ImportTable) :
    (m.blockIn e t).render = unlines (m.linesIn e t) := by
  cases m <;> rfl

/-- **A block is a function of the imports.** -/
theorem reads_make (e : Emitter) (m : Emission) :
    Emitter.Reads (m.make e) (m.names e) (m.blockIn e) := by
  cases m with
  | wrapper w => exact (e.reads_wrapperBlock w).map Block.wrapper
  | container name capability =>
    have hblock := (Emitter.reads_short (e.runtimeName "Task")).bind fun task =>
      Emitter.reads_pure (⟨identOf name, capability, task⟩ : ContainerBlock)
    exact hblock.map Block.container
  | builder d => exact (e.reads_builderBlock d).map Block.builder

end Emission

/-- A call of an emitter. -/
structure Call where
  emitter : Emitter
  emission : Emission

namespace Call

/-- The names that the call shortens. -/
def names (c : Call) : List String := c.emission.names c.emitter

/-- The block that the call writes, in a file with these imports. -/
def blockIn (c : Call) (t : ImportTable) : Block := c.emission.blockIn c.emitter t

/-- The lines that the call writes, in a file with these imports. -/
def linesIn (c : Call) (t : ImportTable) : List String := c.emission.linesIn c.emitter t

end Call

/-! ## Files -/

namespace SourceFile

variable {f : SourceFile} {calls : List Call}

/-- The file holds the blocks of some calls, and imports what they need. Imports that come later make no
difference. -/
structure Holds (f : SourceFile) (calls : List Call) : Prop where
  imports : f.imports = (ImportTable.empty f.importPath).after (calls.flatMap Call.names)
  blocks : ∀ later, f.blocks = calls.map (·.blockIn (f.imports.after later))

theorem holds_new (path package importPath source : String) :
    (SourceFile.new path package importPath source).Holds [] := ⟨rfl, fun _ => rfl⟩

theorem Holds.emit (h : f.Holds calls) (c : Call) :
    (f.emit (c.emission.make c.emitter)).Holds (calls ++ [c]) := by
  have himports : (f.emit (c.emission.make c.emitter)).imports = f.imports.after c.names :=
    congrArg Prod.snd (c.emission.reads_make c.emitter f.imports [])
  constructor
  · have hnames : (calls ++ [c]).flatMap Call.names = calls.flatMap Call.names ++ c.names := by simp
    rw [himports, h.imports, ← ImportTable.after_append, hnames]
    rfl
  · intro later
    have hlast : (c.emission.make c.emitter f.imports).1 =
        c.blockIn (f.imports.after (c.names ++ later)) :=
      congrArg Prod.fst (c.emission.reads_make c.emitter f.imports later)
    show f.blocks ++ [(c.emission.make c.emitter f.imports).1] = _
    rw [himports, ← ImportTable.after_append, List.map_append, ← h.blocks, hlast]
    rfl

/-- The body of a file is what its calls wrote. -/
theorem Holds.body (h : f.Holds calls) : f.body = unlines (calls.flatMap (·.linesIn f.imports)) := by
  have hjoin : ∀ calls : List Call, String.join (calls.map fun c => unlines (c.linesIn f.imports)) =
      unlines (calls.flatMap (·.linesIn f.imports)) := by
    intro calls
    induction calls with
    | nil => rfl
    | cons c calls ih =>
      rw [List.map_cons, String.join_cons, ih, List.flatMap_cons, unlines_append]
  have hblocks : f.blocks = calls.map (·.blockIn f.imports) := h.blocks []
  rw [SourceFile.body, hblocks, List.map_map, ← hjoin]
  congr 2
  funext c
  exact c.emission.render_blockIn c.emitter f.imports

end SourceFile

end TaskBuilders
