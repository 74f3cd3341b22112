import Mathlib.Algebra.Ring.Nat
import TaskBuilders.Proofs.Source.Reading

/-!
# Lines of emitted source

Type identifiers, tags and the names of attributes come from elsewhere and reach the source in four
ways: as identifiers, which are made of letters and digits; between quotes; in comments; and as the
identifiers that fields and builders go by. Comments hold them as they are. So calls that agree in
everything else differ in their number of lines exactly by the line breaks in their comments.

* `Emission.Alike` — calls that differ in type identifiers, tags and names of attributes only
* `Emission.comments` — the texts that stand in comments as they are
* `Emission.breaks_alike` — what the lines of alike calls differ by
* `Emission.lineCount_alike` — when alike calls write as many lines
* `Emission.comment_breaks_out` — calls that do not
-/

namespace TaskBuilders

open Naming Source Text

/-! ## Counting lines of source -/

namespace Source

theorem breaks_unlines_cons (l : String) (ls : List String) :
    breaks (unlines (l :: ls)) = breaks l + 1 + breaks (unlines ls) := by
  rw [unlines_cons, breaks_append, breaks_append]
  rfl

theorem breaks_unlines_append (ls ls' : List String) :
    breaks (unlines (ls ++ ls')) = breaks (unlines ls) + breaks (unlines ls') := by
  rw [unlines_append, breaks_append]

/-- What the lines of two lists of parts differ by is the sum of what their parts differ by. -/
theorem breaks_unlines_flatMap {α β : Type} {f : α → List String} {g : β → List String} {k : α → β}
    {n : α → Nat} (xs : List α)
    (h : ∀ x ∈ xs, breaks (unlines (f x)) = breaks (unlines (g (k x))) + n x) :
    breaks (unlines (xs.flatMap f)) = breaks (unlines ((xs.map k).flatMap g)) + (xs.map n).sum := by
  induction xs with
  | nil => rfl
  | cons x xs ih =>
    obtain ⟨hx, hxs⟩ := List.forall_mem_cons.1 h
    rw [List.flatMap_cons, List.map_cons, List.flatMap_cons, breaks_unlines_append,
      breaks_unlines_append, hx, ih hxs, List.map_cons, List.sum_cons]
    omega

/-- Tabs in front of lines break none of them. -/
theorem breaks_unlines_indent (ls : List String) :
    breaks (unlines (ls.map ("\t" ++ ·))) = breaks (unlines ls) := by
  induction ls with
  | nil => rfl
  | cons l ls ih =>
    have htab : breaks "\t" = 0 := rfl
    rw [List.map_cons, breaks_unlines_cons, breaks_unlines_cons, breaks_append, htab, ih]
    omega

/-! ## Wrappers -/

/-- A field without its name and the name of its attribute. -/
def Field.blank (f : Field) : Field := { f with name := "", attr := "" }

namespace WrapperBlock

/-- A wrapper without the identifier of its type and without names of attributes. -/
def blank (w : WrapperBlock) : WrapperBlock := { w with source := "", fields := w.fields.map Field.blank }

theorem breaks_headLines (w : WrapperBlock) :
    breaks (unlines w.headLines) = breaks (unlines w.blank.headLines) + 2 * breaks w.source := by
  have hquote := (unbroken_quote w.source).breaks
  have hblank := (unbroken_quote "").breaks
  have hempty : breaks "" = 0 := rfl
  simp only [headLines, blank, receiver, constructor, breaks_unlines_cons, breaks_append]
  omega

theorem breaks_setterLines (w : WrapperBlock) {f : Field} (hname : Unbroken f.name) :
    breaks (unlines (w.setterLines f)) =
      breaks (unlines (w.blank.setterLines f.blank)) + breaks f.attr := by
  have hquote := (unbroken_quote f.attr).breaks
  have hblank := (unbroken_quote "").breaks
  have hempty : breaks "" = 0 := rfl
  have hname := hname.breaks
  simp only [setterLines, blank, Field.blank, Field.setter, receiver, breaks_unlines_cons,
    breaks_append]
  omega

theorem breaks_assignLines {f : Field} (hname : Unbroken f.name) :
    breaks (unlines (assignLines f)) = breaks (unlines (assignLines f.blank)) + 0 := by
  have hempty : breaks "" = 0 := rfl
  have hname := hname.breaks
  have hpointer : f.blank.pointer = f.pointer := rfl
  simp only [assignLines, Field.setter, breaks_unlines_cons, breaks_append, hpointer]
  simp only [Field.blank]
  omega

/-- The line of a field in the attribute record. -/
def fieldLine (f : Field) : String := "\t" ++ f.name ++ " " ++ f.recordType

theorem breaks_fieldLine {f : Field} (hname : Unbroken f.name) :
    breaks (unlines [fieldLine f]) = breaks (unlines [fieldLine f.blank]) + 0 := by
  have hempty : breaks f.blank.name = 0 := rfl
  have hname := hname.breaks
  have htype : f.blank.recordType = f.recordType := rfl
  simp only [fieldLine, breaks_unlines_cons, breaks_append, htype]
  omega

/-- Names of fields break no lines, so the attribute record owes nothing to them. -/
theorem breaks_recordLines (w : WrapperBlock) (hnames : ∀ f ∈ w.fields, Unbroken f.name) :
    breaks (unlines w.recordLines) = breaks (unlines w.blank.recordLines) := by
  have hfields := breaks_unlines_flatMap (f := fun f => [fieldLine f]) (g := fun f => [fieldLine f])
    (k := Field.blank) (n := fun _ => 0) w.fields fun f hf => breaks_fieldLine (hnames f hf)
  have hassign := breaks_unlines_flatMap (f := assignLines) (g := assignLines)
    (k := Field.blank) (n := fun _ => 0) w.fields fun f hf => breaks_assignLines (hnames f hf)
  have hnone : (w.fields.map fun _ => 0).sum = 0 := by simp
  rw [hnone, Nat.add_zero] at hfields hassign
  rw [← List.map_eq_flatMap, ← List.map_eq_flatMap] at hfields
  unfold recordLines
  split
  · next h => rw [if_pos (by simpa [blank] using h)]
  · next h =>
    rw [if_neg (by simpa [blank] using h)]
    show breaks (unlines (_ ++ w.fields.map fieldLine ++ _ ++ w.fields.flatMap assignLines ++ _)) =
      breaks (unlines (_ ++ (w.fields.map Field.blank).map fieldLine ++ _ ++
        (w.fields.map Field.blank).flatMap assignLines ++ _))
    simp only [breaks_unlines_append, hfields, hassign]
    rfl

/-- What the lines of a wrapper owe to the texts in its comments. -/
theorem breaks_lines (w : WrapperBlock) (hnames : ∀ f ∈ w.fields, Unbroken f.name) :
    breaks (unlines w.lines) = breaks (unlines w.blank.lines) +
      (2 * breaks w.source + (w.fields.map fun f => breaks f.attr).sum) := by
  have hhead := w.breaks_headLines
  have hrecord := w.breaks_recordLines hnames
  have hsetters := breaks_unlines_flatMap (f := w.setterLines) (g := w.blank.setterLines)
    (k := Field.blank) w.fields fun f hf => w.breaks_setterLines (hnames f hf)
  simp only [lines, breaks_unlines_append]
  have htext : w.blank.textLines = w.textLines := rfl
  have hcondition : w.blank.conditionLines = w.conditionLines := rfl
  have hmarkers : w.blank.markers.flatMap w.blank.markerLines = w.markers.flatMap w.markerLines := rfl
  have hfields : w.blank.fields = w.fields.map Field.blank := rfl
  rw [htext, hcondition, hmarkers, hfields]
  omega

end WrapperBlock

end Source

/-- An attribute without its name. -/
def AttributeDescriptor.blank (a : AttributeDescriptor) : AttributeDescriptor := { a with name := "" }

namespace Emitter

/-- A wrapper without the identifier of its type and without names of attributes. -/
def Wrapper.blank (w : Wrapper) : Wrapper :=
  { w with source := "", attributes := w.attributes.map .blank }

theorem wrapperNames_blank (e : Emitter) (w : Wrapper) : e.wrapperNames w.blank = e.wrapperNames w := by
  simp only [wrapperNames, Wrapper.blank, List.flatMap_map]
  rfl

theorem map_fieldsIn {β : Type} (e : Emitter) (t : ImportTable) (attrs : List AttributeDescriptor)
    (f : Field → β) (g : AttributeDescriptor → β)
    (h : ∀ name a, f ⟨name, a.name, e.attributeTypeIn t a, a.kind = .primitive || a.kind = .string⟩ = g a) :
    (e.fieldsIn t attrs).map f = attrs.map g := by
  rw [fieldsIn, List.map_map]
  conv_rhs => rw [← map_snd_zip_fieldNames attrs, List.map_map]
  exact List.map_congr_left fun x _ => h x.1 x.2

/-- Blocks of wrappers differ by names only where the wrappers do. -/
theorem blank_wrapperIn (e : Emitter) (w : Wrapper) (t : ImportTable) :
    (e.wrapperIn w.blank t).blank = (e.wrapperIn w t).blank := by
  have hblank : ∀ attrs, (e.fieldsIn t attrs).map Field.blank = attrs.map fun a =>
      ⟨"", "", e.attributeTypeIn t a, a.kind = .primitive || a.kind = .string⟩ :=
    fun attrs => e.map_fieldsIn t attrs _ _ fun _ _ => rfl
  have hfields : (e.fieldsIn t w.blank.attributes).map Field.blank =
      (e.fieldsIn t w.attributes).map Field.blank := by
    rw [hblank, hblank, Wrapper.blank, List.map_map]
    rfl
  simp only [wrapperIn, WrapperBlock.blank, hfields]
  rfl

theorem breaks_wrapperIn (e : Emitter) (w : Wrapper) (t : ImportTable) :
    breaks (unlines (e.wrapperIn w t).lines) = breaks (unlines (e.wrapperIn w t).blank.lines) +
      (2 * breaks w.source + (w.attributes.map fun a => breaks a.name).sum) := by
  have hlines := (e.wrapperIn w t).breaks_lines fun f hf => (e.legible_fieldsIn t w.attributes f hf).1
  have hattrs : ((e.wrapperIn w t).fields.map fun f => breaks f.attr) =
      w.attributes.map fun a => breaks a.name := e.map_fieldsIn t _ _ _ fun _ _ => rfl
  rw [hattrs] at hlines
  exact hlines

end Emitter

/-! ## Builders -/

/-- A builder without its tag, its name, the identifier of its type and names of attributes. -/
def BuilderDecl.blank (d : BuilderDecl) : BuilderDecl :=
  { d with tag := "", name := "", source := "", params := d.params.map .blank }

namespace Emitter

theorem builderNames_blank (e : Emitter) (d : BuilderDecl) : e.builderNames d.blank = e.builderNames d := by
  have hparams : d.blank.params.isEmpty = d.params.isEmpty := by simp [BuilderDecl.blank]
  unfold builderNames
  rw [hparams]
  rfl

/-- The line breaks that the name of a builder brings with it: it stands in the comment, in the head and
wherever the immediate form is called. -/
def nameBreaks (d : BuilderDecl) : Nat :=
  2 * breaks d.name + (d.steps.map fun s => if s = .forward then breaks d.name else 0).sum

theorem breaks_forwardCall (d : BuilderDecl) (block : String) :
    breaks (forwardCall d block) = breaks (forwardCall d.blank block) + breaks d.name := by
  have hempty : breaks "" = 0 := rfl
  have hparams : d.blank.params.isEmpty = d.params.isEmpty := by simp [BuilderDecl.blank]
  have hparent : d.blank.parent = d.parent := rfl
  have hreturns : d.blank.returns = d.returns := rfl
  have hname : breaks d.blank.name = 0 := rfl
  unfold forwardCall immediateName
  rw [hparams, hparent, hreturns]
  dsimp only
  split <;> split <;> simp only [breaks_append] <;> omega

theorem breaks_stepLinesIn (e : Emitter) (d : BuilderDecl) (create block : String) (t : ImportTable)
    (s : BuilderStep) : breaks (unlines (e.stepLinesIn d create block t s)) =
      breaks (unlines (e.stepLinesIn d.blank create block t s)) +
        if s = .forward then breaks d.name else 0 := by
  cases s with
  | construct =>
    have hquote := (unbroken_quote d.tag).breaks
    have hblank := (unbroken_quote d.blank.tag).breaks
    have hparent : d.blank.parent = d.parent := rfl
    simp only [stepLinesIn, breaks_unlines_cons, breaks_append, hparent, reduceCtorEq, if_false]
    omega
  | forward =>
    simp only [stepLinesIn, breaks_unlines_cons, breaks_forwardCall d block, if_true]
    omega
  | _ =>
    rw [if_neg nofun, Nat.add_zero]
    rfl

theorem breaks_funcName (d : BuilderDecl) : breaks d.funcName = breaks d.blank.funcName + breaks d.name := by
  have hname : breaks d.blank.name = 0 := rfl
  have hform : d.blank.form = d.form := rfl
  unfold BuilderDecl.funcName immediateName
  rw [hform]
  cases d.form with
  | immediate => simp only [breaks_append]; omega
  | deferred => dsimp only; omega

/-- What the lines of a builder owe to its tag and its name. -/
theorem breaks_builderIn (e : Emitter) (d : BuilderDecl) (t : ImportTable) :
    breaks (unlines (e.builderIn d t).lines) = breaks (unlines (e.builderIn d.blank t).lines) +
      (breaks d.tag + nameBreaks d) := by
  have hparams : (e.builderIn d.blank t).params = (e.builderIn d t).params := by
    have hisEmpty : d.blank.params.isEmpty = d.params.isEmpty := by simp [BuilderDecl.blank]
    unfold builderIn attributeParamsIn
    rw [hisEmpty]
    rfl
  have hdoc : breaks (e.builderIn d t).doc = breaks (e.builderIn d.blank t).doc + breaks d.tag := by
    have htag : breaks d.blank.tag = 0 := rfl
    have hparent : d.blank.parent = d.parent := rfl
    have hform : d.blank.form = d.form := rfl
    have hreturns : d.blank.returns = d.returns := rfl
    unfold BuilderBlock.doc builderIn
    dsimp only
    rw [hparent, hform, hreturns]
    simp only [breaks_append]
    omega
  have hname : breaks (e.builderIn d t).name = breaks (e.builderIn d.blank t).name + breaks d.name :=
    breaks_funcName d
  have hbody : breaks (unlines (e.builderIn d t).body) =
      breaks (unlines (e.builderIn d.blank t).body) +
        (d.steps.map fun s => if s = .forward then breaks d.name else 0).sum := by
    have hsteps := breaks_unlines_flatMap (k := id) d.steps fun s _ =>
      e.breaks_stepLinesIn d (t.reference (createName d)) (blockTypeIn d (t.reference d.element) t) t s
    rw [List.map_id, List.flatMap_def, List.flatMap_def] at hsteps
    exact hsteps
  have hreceiver : (e.builderIn d.blank t).receiver = (e.builderIn d t).receiver := rfl
  have hresult : (e.builderIn d.blank t).result = (e.builderIn d t).result := rfl
  simp only [BuilderBlock.lines, breaks_unlines_append, breaks_unlines_cons, breaks_unlines_indent,
    breaks_append, hparams, hreceiver, hresult, nameBreaks]
  omega

end Emitter

theorem breaks_builderName (parent : Parent) (tag tag' : String) :
    breaks (builderName parent tag) = breaks (builderName parent tag') := by
  have hbase := ((legible_camelCase tag).exported).1.breaks
  have hbase' := ((legible_camelCase tag').exported).1.breaks
  unfold builderName
  dsimp only
  split
  · simp only [breaks_append, hbase, hbase']
  · rw [hbase, hbase']

/-! ## Calls -/

namespace Emission

/-- The calls differ in the identifier of a type, in the tag and in names of attributes only. The name of a
builder may follow its tag. -/
inductive Alike : Emission → Emission → Prop where
  | wrapper {w w' : Emitter.Wrapper} (same : w.blank = w'.blank) : Alike (.wrapper w) (.wrapper w')
  | container (name capability capability' : String) :
      Alike (.container name capability) (.container name capability')
  | builder {d d' : BuilderDecl} (same : d.blank = d'.blank)
      (named : d.name = d'.name ∨
        d.name = builderName d.parent d.tag ∧ d'.name = builderName d'.parent d'.tag) :
      Alike (.builder d) (.builder d')

/-- The texts that stand in comments as they are. -/
def comments : Emission → List String
  | .wrapper w => w.source :: w.source :: w.attributes.map (·.name)
  | .container _ capability => [capability]
  | .builder d => [d.tag]

/-- The line breaks in comments. -/
def commentBreaks (m : Emission) : Nat := (m.comments.map breaks).sum

/-- What the call writes to a file with these imports. -/
def textIn (m : Emission) (e : Emitter) (t : ImportTable) : String := (m.make e t).1.render

theorem textIn_eq (m : Emission) (e : Emitter) (t : ImportTable) :
    m.textIn e t = unlines (m.linesIn e (t.after (m.names e))) := by
  have hblock := m.reads_make e t []
  rw [List.append_nil] at hblock
  rw [textIn, hblock, render_blockIn]

theorem Alike.names {m m' : Emission} (h : Alike m m') (e : Emitter) : m.names e = m'.names e := by
  cases h with
  | wrapper same => exact (e.wrapperNames_blank _).symm.trans (same ▸ e.wrapperNames_blank _)
  | container name capability capability' => rfl
  | builder same named => exact (e.builderNames_blank _).symm.trans (same ▸ e.builderNames_blank _)

/-- **The lines of alike calls differ by the line breaks in their comments.** -/
theorem breaks_alike {m m' : Emission} (h : Alike m m') (e : Emitter) (t : ImportTable) :
    breaks (unlines (m.linesIn e t)) + m'.commentBreaks =
      breaks (unlines (m'.linesIn e t)) + m.commentBreaks := by
  cases h with
  | @wrapper w w' same =>
    have hw := e.breaks_wrapperIn w t
    have hw' := e.breaks_wrapperIn w' t
    rw [← e.blank_wrapperIn, same, e.blank_wrapperIn] at hw
    simp only [linesIn, commentBreaks, comments, List.map_cons, List.map_map, List.sum_cons,
      Function.comp_def]
    omega
  | container name capability capability' =>
    simp only [linesIn, ContainerBlock.lines, commentBreaks, comments, breaks_unlines_cons, breaks_append,
      List.map_cons, List.map_nil, List.sum_cons, List.sum_nil]
    omega
  | @builder d d' same named =>
    have hd := e.breaks_builderIn d t
    have hd' := e.breaks_builderIn d' t
    have hparent : d.blank.parent = d'.blank.parent := by rw [same]
    have hsteps : d.blank.steps = d'.blank.steps := by rw [same]
    have hname : breaks d.name = breaks d'.name := by
      rcases named with h | ⟨h, h'⟩
      · rw [h]
      · rw [h, h', breaks_builderName d.parent d.tag d'.tag]
        exact congrArg (fun p => breaks (builderName p d'.tag)) hparent
    have hnames : Emitter.nameBreaks d = Emitter.nameBreaks d' := by
      unfold Emitter.nameBreaks
      rw [hname, show d.steps = d'.steps from hsteps]
    rw [same] at hd
    simp only [linesIn, commentBreaks, comments, List.map_cons, List.map_nil, List.sum_cons,
      List.sum_nil]
    omega

theorem lineCount_textIn {m m' : Emission} (h : Alike m m') (e : Emitter) (t : ImportTable) :
    lineCount (m.textIn e t) + m'.commentBreaks = lineCount (m'.textIn e t) + m.commentBreaks := by
  have hbreaks := breaks_alike h e (t.after (m.names e))
  rw [lineCount_eq, lineCount_eq, textIn_eq, textIn_eq, ← h.names e]
  omega

theorem commentBreaks_of_unbroken {m : Emission} (h : ∀ s ∈ m.comments, Unbroken s) :
    m.commentBreaks = 0 := by
  have hnone : ∀ n ∈ m.comments.map breaks, n = 0 := by
    intro n hn
    obtain ⟨s, hs, rfl⟩ := List.mem_map.1 hn
    exact (h s hs).breaks
  exact List.sum_eq_zero_iff_forall_eq_nat.2 hnone

/-- **Alike calls write as many lines exactly when as many line breaks stand in their comments**, so they
do where identifiers, tags and names of attributes have none. -/
theorem lineCount_alike {m m' : Emission} (h : Alike m m') (e : Emitter) (t : ImportTable) :
    (lineCount (m.textIn e t) = lineCount (m'.textIn e t) ↔ m.commentBreaks = m'.commentBreaks) ∧
    ((∀ s ∈ m.comments, Unbroken s) → (∀ s ∈ m'.comments, Unbroken s) →
      lineCount (m.textIn e t) = lineCount (m'.textIn e t)) := by
  have hlines := lineCount_textIn h e t
  constructor
  · omega
  · intro hm hm'
    have hnone := commentBreaks_of_unbroken hm
    have hnone' := commentBreaks_of_unbroken hm'
    omega

/-- The wrapper of a type with one attribute. -/
def sawWrapper (source attr : String) : Emission :=
  .wrapper ⟨"m.DSLSaw", source, [⟨attr, .string, "string"⟩], false, false, []⟩

theorem alike_sawWrapper (source attr source' attr' : String) :
    Alike (sawWrapper source attr) (sawWrapper source' attr') := .wrapper rfl

/-- Quotes and comment marks in the names of a type and an attribute change no lines. -/
theorem lineCount_alike_sawWrapper :
    lineCount ((sawWrapper "x.Saw" "teeth").textIn ⟨"m/rt"⟩ (.empty "m")) =
      lineCount ((sawWrapper "x.\"Saw\\" "*/").textIn ⟨"m/rt"⟩ (.empty "m")) :=
  (lineCount_alike (alike_sawWrapper "x.Saw" "teeth" "x.\"Saw\\" "*/") ⟨"m/rt"⟩ (.empty "m")).2
    (by decide) (by decide)

/-- What follows a line break in the identifier of a type stands outside of both comments that name it. -/
theorem comment_breaks_out :
    Alike (sawWrapper "x.Saw" "teeth") (sawWrapper "x.Saw\nvar X = 1" "teeth") ∧
    lineCount ((sawWrapper "x.Saw\nvar X = 1" "teeth").textIn ⟨"m/rt"⟩ (.empty "m")) =
      lineCount ((sawWrapper "x.Saw" "teeth").textIn ⟨"m/rt"⟩ (.empty "m")) + 2 := by
  have halike := alike_sawWrapper "x.Saw" "teeth" "x.Saw\nvar X = 1" "teeth"
  have hlines := lineCount_textIn halike ⟨"m/rt"⟩ (.empty "m")
  have hplain : (sawWrapper "x.Saw" "teeth").commentBreaks = 0 := by decide
  have hbroken : (sawWrapper "x.Saw\nvar X = 1" "teeth").commentBreaks = 2 := by decide
  exact ⟨halike, by omega⟩

end Emission

end TaskBuilders
