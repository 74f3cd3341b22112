import TaskBuilders.Proofs.Source.Reading
import TaskBuilders.Text.Blank

/-!
# Where packages show in source

A block that needs a name of another package has a line of code in which the alias of the package stands
with a dot behind it. The beginning of the line decides: up to the alias it holds nothing but identifiers
and what all blocks of its kind have in common, so that nothing breaks the line before the alias.

* `Text.Shows` — a text occurs in a line that is no comment
* `ImportTable.Readable` — aliases are legible
* `Call.Exhibits` — the lines of a call show the alias of a package
* `Call.shownBy_wrapper`, `Call.shownBy_container`, `Call.shownBy_immediate`, `Call.ShownBy.deferred` —
  blocks show the packages that they need, the deferred form of a builder beside its immediate form
* `SourceFile.Displays` — every package that a file needs shows in it
* `SourceFile.Holds.imports_iff` — when the import block is what the file needs
-/

namespace TaskBuilders

open Naming QualifiedName Source Text

/-! ## Lines of code -/

namespace Text

/-- Whether a line is a comment: two slashes, behind white space. -/
def isCommentLine (line : String) : Bool := "//".toList.isPrefixOf (line.toList.dropWhile isBlank)

/-- A text occurs in a line that is no comment. -/
def Shows (body text : String) : Prop :=
  ∃ line ∈ splitAtChar '\n' body, isCommentLine line = false ∧ containsText text line = true

/-- What begins without slashes and is not blank begins no comment. -/
theorem isCommentLine_append {a : String} (hslash : '/' ∉ a.toList)
    (hcode : ∃ c ∈ a.toList, isBlank c = false) (b : String) : isCommentLine (a ++ b) = false := by
  have hfirst : ∀ cs : List Char, '/' ∉ cs → (∃ c ∈ cs, isBlank c = false) →
      ∃ c rest, c ≠ '/' ∧ (cs ++ b.toList).dropWhile isBlank = c :: rest := by
    intro cs
    induction cs with
    | nil => simp
    | cons d cs ih =>
      intro hslash hcode
      cases hd : isBlank d with
      | true =>
        simp only [List.mem_cons, not_or] at hslash
        obtain ⟨c, rest, hc, hrest⟩ := ih hslash.2 (by simpa [hd] using hcode)
        exact ⟨c, rest, hc, by simpa [hd] using hrest⟩
      | false =>
        have hne : d ≠ '/' := by
          rintro rfl
          simp at hslash
        exact ⟨d, cs ++ b.toList, hne, by simp [hd]⟩
  obtain ⟨c, rest, hc, hrest⟩ := hfirst a.toList hslash hcode
  rw [isCommentLine, String.toList_append, hrest]
  simp [List.isPrefixOf, Ne.symm hc]

theorem occursIn_append (part : List Char) : ∀ a b : List Char, occursIn part (a ++ (part ++ b)) = true
  | [], b => by
    cases h : part ++ b with
    | nil => simp_all [occursIn]
    | cons c cs =>
      have hleading : part.isPrefixOf (c :: cs) = true := by simp [← h]
      simp [occursIn, hleading]
  | c :: a, b => by simp [occursIn, occursIn_append part a b]

theorem containsText_between (a part b : String) : containsText part (a ++ part ++ b) = true := by
  rw [containsText, String.toList_append, String.toList_append, List.append_assoc]
  exact occursIn_append part.toList a.toList b.toList

/-- The beginning of a line of code in which an alias stands with a dot behind it. -/
structure Lead (a lead : String) : Prop where
  unbroken : Unbroken lead
  code : ∀ more, isCommentLine (lead ++ more) = false
  holds : ∀ more, containsText (a ++ ".") (lead ++ more) = true

theorem lead_append {start middle a : String} (hstart : Unbroken start) (hslash : '/' ∉ start.toList)
    (hcode : ∃ c ∈ start.toList, isBlank c = false) (hmiddle : Unbroken middle) (ha : Legible a) :
    Lead a (start ++ middle ++ (a ++ ".")) where
  unbroken := (hstart.append hmiddle).append (ha.1.append (by decide))
  code more := by
    rw [String.append_assoc, String.append_assoc]
    exact isCommentLine_append hslash hcode _
  holds more := containsText_between (start ++ middle) (a ++ ".") more

theorem lead_start {start a : String} (hstart : Unbroken start) (hslash : '/' ∉ start.toList)
    (hcode : ∃ c ∈ start.toList, isBlank c = false) (ha : Legible a) : Lead a (start ++ (a ++ ".")) := by
  have hlead := lead_append hstart hslash hcode (by decide : Unbroken "") ha
  rwa [String.append_empty] at hlead

theorem Legible.slash_not_mem {a : String} (h : Legible a) : '/' ∉ a.toList := by
  intro hc
  have hdivider := h.2 '/' hc
  cases hdivider

/-- An alias may begin its line. -/
theorem lead_tab {a : String} (ha : Legible a) : Lead a ("\t" ++ (a ++ ".")) where
  unbroken := Unbroken.append (by decide) (ha.1.append (by decide))
  code more := by
    refine isCommentLine_append ?_ ⟨'.', by simp, by decide⟩ more
    simp [ha.slash_not_mem]
  holds more := containsText_between "\t" (a ++ ".") more

end Text

/-! ## Aliases -/

namespace Naming.ImportTable

variable {t : ImportTable} {q : String}

/-- All aliases are legible. -/
def Readable (t : ImportTable) : Prop := ∀ e ∈ t.used, Legible e.shortName

theorem legible_join : ∀ {parts : List String}, (∀ s ∈ parts, Legible s) → Legible (join "_" parts)
  | [], _ => by decide
  | [s], h => by simpa [join] using h s
  | s :: s' :: parts, h => by
    have hrest : Legible (join "_" (s' :: parts)) := legible_join fun r hr => h r (List.mem_cons_of_mem s hr)
    have hjoin : join "_" (s :: s' :: parts) = s ++ "_" ++ join "_" (s' :: parts) := by
      simp [join]
    rw [hjoin]
    exact ((h s List.mem_cons_self).append (by decide)).append hrest

theorem legible_freshAlias (t : ImportTable) (path : String) : Legible (t.freshAlias path) := by
  have hpath : Legible (pathIdent path) := by
    unfold pathIdent
    refine legible_join fun s hs => ?_
    obtain ⟨part, _, rfl⟩ := List.mem_map.1 hs
    exact (legible_camelCase _).lowercase
  have hpackage : Legible (packageIdent path) := by
    unfold packageIdent
    dsimp only
    split
    · decide
    · exact (legible_camelCase _).lowercase
  unfold freshAlias
  split
  · exact hpath.firstFree _
  · exact hpackage

theorem readable_empty (self : String) : Readable (empty self) := nofun

theorem Readable.shorten (h : Readable t) (q : String) : Readable (t.shorten q).2 := by
  rcases t.shorten_state q with he | ⟨_, _, he⟩
  · rwa [he]
  · rw [he]
    intro e hmem
    rcases List.mem_append.1 hmem with hmem | hmem
    · exact h e hmem
    · obtain rfl := List.mem_singleton.1 hmem
      exact t.legible_freshAlias _

/-- **Aliases are legible in every file.** -/
theorem Readable.after (h : Readable t) (names : List String) : Readable (t.after names) := by
  induction names generalizing t with
  | nil => exact h
  | cons q names ih => exact ih (h.shorten q)

theorem Readable.legible (h : Readable t) {path a : String} (ha : t.aliasOf? path = some a) : Legible a :=
  h _ (mem_used_of_aliasOf? ha)

/-- A name with an unbroken identifier is written in one line. -/
theorem Readable.unbroken_reference (h : Readable t) (hident : Unbroken (identOf q)) :
    Unbroken (t.reference q) := by
  unfold reference
  split
  · cases ha : t.aliasOf? (packageOf q) with
    | none => exact Unbroken.append (by decide) hident
    | some a => exact ((h.legible ha).1.append (by decide)).append hident
  · exact hident

end Naming.ImportTable

/-! ## Packages of names -/

theorem packageOf_qualify_of_whole {name : String} (h : Whole name) (package : String) :
    packageOf (qualify package name) = package := by
  by_cases hp : package = ""
  · have hundivided : Undivided name := by simp [Undivided, lastDivider?_eq_none_iff.2 h]
    have hqualify : qualify package name = name := by simp [qualify, QualifiedName.render, hp]
    rw [hqualify, packageOf, parse_of_undivided hundivided, hp]
  · rw [qualify_of_ne hp, packageOf, parse_append_dot h]

/-- Whole texts around the identifier of a name do not change its package. -/
theorem packageOf_qualify_between {a b : String} (ha : Whole a) (hb : Whole b) (q : String) :
    packageOf (qualify (packageOf q) (a ++ identOf q ++ b)) = packageOf q := by
  by_cases hq : Undivided q
  · have hparse := parse_of_undivided hq
    have hboth := parse_of_undivided (hq.between ha hb)
    simp [packageOf, identOf, hparse, qualify, QualifiedName.render, hboth]
  · obtain ⟨package, name, hname, rfl⟩ := exists_of_not_undivided hq
    have hparse := parse_append_dot hname package
    have hident : identOf (package ++ "." ++ name) = name := by rw [identOf, hparse]
    rw [hident, packageOf_qualify_of_whole ((ha.append hname).append hb)]

namespace Emitter

open ImportTable

/-- The runtime package has to be imported by files of the package `self`. -/
def Imported (e : Emitter) (self : String) : Prop := e.runtime ≠ "" ∧ e.runtime ≠ self

theorem packageOf_runtimeName (e : Emitter) {name : String} (h : Whole name) :
    packageOf (e.runtimeName name) = e.runtime := packageOf_qualify_of_whole h e.runtime

theorem foreign_runtimeName_iff (e : Emitter) (self : String) {name : String} (h : Whole name) :
    Foreign self (e.runtimeName name) ↔ e.Imported self := by
  rw [Foreign, e.packageOf_runtimeName h, Imported]

theorem reference_runtimeName {e : Emitter} {t : ImportTable} {a name : String} (h : Whole name)
    (himported : e.Imported t.self) (ha : t.aliasOf? e.runtime = some a) :
    t.reference (e.runtimeName name) = a ++ "." ++ name := by
  rw [reference_of_foreign ((e.foreign_runtimeName_iff _ h).2 himported)
    ((e.packageOf_runtimeName h).symm ▸ ha), runtimeName, identOf_qualify_of_whole h]

/-- The constructor of a type is in the package of the type. -/
theorem packageOf_createName (b : BuilderDecl) : packageOf (createName b) = packageOf b.element := by
  simpa [createName] using packageOf_qualify_between (by decide : Whole "New") (by decide : Whole "")
    b.element

/-- The attribute record of a type is in the package of the type. -/
theorem packageOf_recordName (b : BuilderDecl) : packageOf (recordName b) = packageOf b.element := by
  simpa [recordName] using packageOf_qualify_between (by decide : Whole "") (by decide : Whole "Attrs")
    b.element

end Emitter

theorem Source.WrapperBlock.fieldLine_mem {w : WrapperBlock} {f : Field} (h : f ∈ w.fields) :
    "\t" ++ f.name ++ " " ++ f.recordType ∈ w.lines := by
  have hsome : w.fields.isEmpty = false := by
    cases hfields : w.fields with
    | nil => rw [hfields] at h; cases h
    | cons _ _ => rfl
  have hline : "\t" ++ f.name ++ " " ++ f.recordType ∈
      w.fields.map fun f => "\t" ++ f.name ++ " " ++ f.recordType := List.mem_map_of_mem h
  simp [WrapperBlock.lines, WrapperBlock.recordLines, hsome, hline]

/-! ## What calls show -/

namespace Call

open ImportTable

variable {self : String} {e : Emitter}

/-- In every file of the package `self`, the lines of a call show the alias of a package. -/
def Exhibits (self : String) (c : Call) (package : String) : Prop :=
  ∀ (t : ImportTable) (a : String), t.self = self → t.Readable → t.aliasOf? package = some a →
    ∃ lead rest, lead ++ rest ∈ c.linesIn t ∧ Lead a lead

/-- All packages that a call needs in a file of the package `self` show in some calls. -/
def ShownBy (self : String) (c : Call) (calls : List Call) : Prop :=
  ∀ q ∈ c.names, Foreign self q → ∃ c' ∈ calls, c'.Exhibits self (packageOf q)

/-! ### Wrappers -/

/-- The runtime package shows where the type is declared. -/
theorem exhibits_wrapper_runtime {w : Emitter.Wrapper} (hident : Unbroken (identOf w.type))
    (himported : e.Imported self) : Exhibits self ⟨e, .wrapper w⟩ e.runtime := by
  rintro t a rfl hreadable ha
  have hnode : (e.wrapperIn w t).node = a ++ "." ++ "Node" :=
    Emitter.reference_runtimeName (by decide) himported ha
  refine ⟨"type " ++ (identOf w.type ++ " struct\x7b n *") ++ (a ++ "."), "Node" ++ " \x7d", ?_, ?_⟩
  · have hlead : "type " ++ (identOf w.type ++ " struct\x7b n *") ++ (a ++ ".") ++ ("Node" ++ " \x7d") =
        "type " ++ (e.wrapperIn w t).ident ++ " struct\x7b n *" ++ (e.wrapperIn w t).node ++ " \x7d" := by
      rw [hnode]
      simp only [Emitter.wrapperIn, String.append_assoc]
    have hline : "type " ++ (e.wrapperIn w t).ident ++ " struct\x7b n *" ++ (e.wrapperIn w t).node ++ " \x7d" ∈
        (e.wrapperIn w t).headLines := by
      simp only [WrapperBlock.headLines, List.mem_cons, true_or, or_true]
    rw [hlead]
    simp [linesIn, Emission.linesIn, WrapperBlock.lines, hline]
  · exact lead_append (by decide) (by decide) ⟨'t', by decide, by decide⟩ (hident.append (by decide))
      (hreadable.legible ha)

/-- The package of a type that an attribute refers to shows in the attribute record. -/
theorem exhibits_wrapper_attribute {w : Emitter.Wrapper} {a : AttributeDescriptor}
    (hmem : a ∈ w.attributes) (hkind : a.kind = .ownerRef ∨ a.kind = .pathRef)
    (hforeign : Foreign self a.type) : Exhibits self ⟨e, .wrapper w⟩ (packageOf a.type) := by
  rintro t x rfl hreadable hx
  obtain ⟨name, hfield⟩ := e.exists_field t hmem
  have htype : e.attributeTypeIn t a =
      "*" ++ t.reference (e.runtimeName "Reference") ++ "[*" ++ (x ++ "." ++ identOf a.type) ++ "]" := by
    have hne : a.kind ≠ .primitive := by
      rcases hkind with h | h <;> rw [h] <;> decide
    rw [← reference_of_foreign hforeign hx]
    simp [Emitter.attributeTypeIn, hne, hkind]
  have hpointer : (decide (a.kind = .primitive) || decide (a.kind = .string)) = false := by
    rcases hkind with h | h <;> rw [h] <;> decide
  rw [htype, hpointer] at hfield
  have hreference : Unbroken (t.reference (e.runtimeName "Reference")) := by
    refine hreadable.unbroken_reference ?_
    rw [Emitter.runtimeName, identOf_qualify_of_whole (by decide)]
    decide
  have hname := e.legible_fieldsIn t _ _ hfield
  refine ⟨("\t" ++ name ++ " *") ++ (t.reference (e.runtimeName "Reference") ++ "[*") ++ (x ++ "."),
    identOf a.type ++ "]", ?_, ?_⟩
  · have hline := WrapperBlock.fieldLine_mem (w := e.wrapperIn w t) hfield
    simp only [Field.recordType, String.append_assoc] at hline ⊢
    exact hline
  · refine lead_append ?_ ?_ ⟨'*', by simp, by decide⟩ (hreference.append (by decide))
      (hreadable.legible hx)
    · exact (Unbroken.append (by decide) hname.1).append (by decide)
    · simp [hname.slash_not_mem]

/-- **A wrapper shows all packages that it needs**, if its name breaks no line. -/
theorem shownBy_wrapper {w : Emitter.Wrapper} (hident : Unbroken (identOf w.type)) {calls : List Call}
    (hmem : ⟨e, .wrapper w⟩ ∈ calls) : ShownBy self ⟨e, .wrapper w⟩ calls := by
  have hruntime : ∀ name, Whole name → Foreign self (e.runtimeName name) →
      ∃ c ∈ calls, c.Exhibits self (packageOf (e.runtimeName name)) := by
    intro name hname hforeign
    rw [e.packageOf_runtimeName hname]
    exact ⟨_, hmem, exhibits_wrapper_runtime hident ((e.foreign_runtimeName_iff self hname).1 hforeign)⟩
  intro q hq hforeign
  have hq : q ∈ e.wrapperNames w := hq
  simp only [Emitter.wrapperNames, List.mem_append, List.mem_cons, List.not_mem_nil, or_false,
    List.mem_flatMap, Emitter.mem_namesIf] at hq
  rcases hq with (rfl | rfl | rfl) | ⟨a, ha, hq⟩ | ⟨_, rfl⟩ | ⟨_, rfl⟩
  · exact hruntime _ (by decide) hforeign
  · exact hruntime _ (by decide) hforeign
  · exact hruntime _ (by decide) hforeign
  · obtain ⟨hkind, hq⟩ := Emitter.mem_attributeNames.1 hq
    rcases hq with rfl | rfl
    · exact hruntime _ (by decide) hforeign
    · exact ⟨_, hmem, exhibits_wrapper_attribute ha hkind hforeign⟩
  · exact hruntime _ (by decide) hforeign
  · exact hruntime _ (by decide) hforeign

/-! ### Containers -/

/-- **A container shows the runtime package.** -/
theorem shownBy_container {name capability : String} {calls : List Call}
    (hmem : ⟨e, .container name capability⟩ ∈ calls) :
    ShownBy self ⟨e, .container name capability⟩ calls := by
  intro q hq hforeign
  obtain rfl : q = e.runtimeName "Task" := List.mem_singleton.1 hq
  refine ⟨_, hmem, ?_⟩
  rw [e.packageOf_runtimeName (by decide)]
  rintro t a rfl hreadable ha
  have htask : t.reference (e.runtimeName "Task") = a ++ "." ++ "Task" :=
    Emitter.reference_runtimeName (by decide) ((e.foreign_runtimeName_iff _ (by decide)).1 hforeign) ha
  refine ⟨"\t" ++ (a ++ "."), "Task", ?_, lead_tab (hreadable.legible ha)⟩
  have hlead : "\t" ++ (a ++ ".") ++ "Task" = "\t" ++ t.reference (e.runtimeName "Task") := by
    rw [htask, String.append_assoc]
  rw [hlead]
  simp only [linesIn, Emission.linesIn, ContainerBlock.lines, List.mem_cons, true_or, or_true]

/-! ### Builders -/

section Builders

variable {b : BuilderDecl}

theorem stepLine_mem {t : ImportTable} {s : BuilderStep} (hs : s ∈ b.steps) {line : String}
    (hline : line ∈ e.stepLinesIn b (t.reference (Emitter.createName b))
      (Emitter.blockTypeIn b (t.reference b.element) t) t s) :
    "\t" ++ line ∈ linesIn ⟨e, .builder b⟩ t := by
  have hbody : line ∈ (e.builderIn b t).body := by
    simp only [Emitter.builderIn, List.mem_flatten, List.mem_map]
    exact ⟨_, ⟨s, hs, rfl⟩, hline⟩
  have hindented := List.mem_map_of_mem (f := ("\t" ++ ·)) hbody
  simp [linesIn, Emission.linesIn, BuilderBlock.lines, hindented]

/-- The package of a name shows in the line of a step, if nothing but code stands before the name. -/
theorem exhibits_step {s : BuilderStep} (hs : s ∈ b.steps) {q : String} (start rest : String)
    (hline : ∀ t, start ++ t.reference q ++ rest ∈ e.stepLinesIn b (t.reference (Emitter.createName b))
      (Emitter.blockTypeIn b (t.reference b.element) t) t s)
    (hlead : ∀ a, Legible a → Lead a ("\t" ++ start ++ (a ++ "."))) (hforeign : Foreign self q) :
    Exhibits self ⟨e, .builder b⟩ (packageOf q) := by
  rintro t a rfl hreadable ha
  have hmem := stepLine_mem hs (hline t)
  rw [reference_of_foreign hforeign ha] at hmem
  refine ⟨"\t" ++ start ++ (a ++ "."), identOf q ++ rest, ?_, hlead a (hreadable.legible ha)⟩
  simp only [String.append_assoc] at hmem ⊢
  exact hmem

/-- The package of what is built shows where it is constructed. -/
theorem exhibits_element (hstep : .construct ∈ b.steps) (hforeign : Foreign self b.element) :
    Exhibits self ⟨e, .builder b⟩ (packageOf b.element) := by
  have hpackage := Emitter.packageOf_createName b
  rw [Foreign, ← hpackage] at hforeign
  rw [← hpackage]
  refine exhibits_step hstep "obj := " ("(" ++
    (if b.parent.kind = .owner then "o" else "parent") ++ ", " ++ quote b.tag ++ ", " ++
    (if b.parent.outermost then "true" else "false") ++ ")") (fun t => ?_) (fun a ha => ?_) hforeign
  · simp [Emitter.stepLinesIn, String.append_assoc]
  · exact lead_start (by decide) (by decide) ⟨'o', by decide, by decide⟩ ha

/-- The runtime package shows where a reference is obtained. -/
theorem exhibits_obtainReference (hstep : .obtainReference ∈ b.steps) (himported : e.Imported self) :
    Exhibits self ⟨e, .builder b⟩ e.runtime := by
  rw [← e.packageOf_runtimeName (by decide : Whole "NewReference")]
  refine exhibits_step hstep "ref := " "(obj)" (fun t => ?_) (fun a ha => ?_)
    ((e.foreign_runtimeName_iff self (by decide)).2 himported)
  · simp [Emitter.stepLinesIn]
  · exact lead_start (by decide) (by decide) ⟨'r', by decide, by decide⟩ ha

/-- The runtime package shows where a container runs. -/
theorem exhibits_runContainer (hstep : .runContainer ∈ b.steps) (himported : e.Imported self) :
    Exhibits self ⟨e, .builder b⟩ e.runtime := by
  rw [← e.packageOf_runtimeName (by decide : Whole "RunContainer")]
  refine exhibits_step hstep "" "(obj, body)" (fun t => ?_) (fun a ha => ?_)
    ((e.foreign_runtimeName_iff self (by decide)).2 himported)
  · simp [Emitter.stepLinesIn]
  · exact lead_tab ha

theorem exists_join_cons (sep x : String) (xs : List String) : ∃ rest, join sep (x :: xs) = x ++ rest := by
  cases xs with
  | nil => exact ⟨"", by simp [join]⟩
  | cons y ys => exact ⟨sep ++ join sep (y :: ys), by simp [join, String.append_assoc]⟩

/-- The head of a builder begins with the receiver, or else with its name and its parameters. -/
theorem exists_head_mem (block : BuilderBlock) :
    (∀ r, block.receiver = some r → ∃ rest, "func " ++ ("(" ++ (r ++ rest)) ∈ block.lines) ∧
    (block.receiver = none → ∃ rest,
      "func " ++ (block.name ++ ("(" ++ (join ", " block.params ++ rest))) ∈ block.lines) := by
  have hmem : ∀ line, block.lines[2]? = some line → line ∈ block.lines :=
    fun _ h => List.mem_of_getElem? h
  constructor
  · intro r hr
    refine ⟨?rest, hmem _ ?head⟩
    case head =>
      simp only [BuilderBlock.lines, hr, String.append_assoc]
      rfl
  · intro hnone
    refine ⟨?rest', hmem _ ?head'⟩
    case head' =>
      simp only [BuilderBlock.lines, hnone, String.append_assoc, String.empty_append]
      rfl

/-- The package of the parent shows in the head of the builder: in the receiver of a method, and else in
the first parameter, if the name of the builder breaks no line. -/
theorem exhibits_parent (hname : b.parent.kind ≠ .owner → Unbroken b.funcName)
    (hforeign : Foreign self b.parent.type) :
    Exhibits self ⟨e, .builder b⟩ (packageOf b.parent.type) := by
  rintro t a rfl hreadable ha
  have hparent := reference_of_foreign hforeign ha
  obtain ⟨hmethod, hfunction⟩ := exists_head_mem (e.builderIn b t)
  by_cases hkind : b.parent.kind = .owner
  · have hreceiver : (e.builderIn b t).receiver = some ("o *" ++ t.reference b.parent.type) := if_pos hkind
    obtain ⟨rest, hline⟩ := hmethod _ hreceiver
    rw [hparent] at hline
    refine ⟨"func " ++ ("(" ++ "o *") ++ (a ++ "."), identOf b.parent.type ++ rest, ?_, ?_⟩
    · simp only [String.append_assoc] at hline ⊢
      exact hline
    · exact lead_append (by decide) (by decide) ⟨'f', by decide, by decide⟩ (by decide)
        (hreadable.legible ha)
  · have hreceiver : (e.builderIn b t).receiver = none := if_neg hkind
    have hparams : ∃ xs, (e.builderIn b t).params = ("parent " ++ t.reference b.parent.type) :: xs := by
      simp [Emitter.builderIn, Emitter.params, hkind]
    obtain ⟨xs, hparams⟩ := hparams
    obtain ⟨more, hjoin⟩ := exists_join_cons ", " ("parent " ++ t.reference b.parent.type) xs
    obtain ⟨rest, hline⟩ := hfunction hreceiver
    rw [hparams, hjoin, hparent] at hline
    refine ⟨"func " ++ (b.funcName ++ ("(" ++ "parent ")) ++ (a ++ "."),
      identOf b.parent.type ++ (more ++ rest), ?_, ?_⟩
    · simp only [String.append_assoc] at hline ⊢
      exact hline
    · exact lead_append (by decide) (by decide) ⟨'f', by decide, by decide⟩
        ((hname hkind).append (by decide)) (hreadable.legible ha)

end Builders

section Planned

variable {d : TaskDefinition} {parent : Parent} {tag element : String}
  {params : List AttributeDescriptor}

/-- The name of a planned builder breaks no line, if that of its container breaks none. -/
theorem unbroken_funcName {root : String} (hcontainer : parent.kind = .container → Unbroken parent.type) :
    Unbroken (planImmediate d parent tag element root params).funcName := by
  have hbase := (legible_camelCase tag).exported.1
  show Unbroken (builderName parent tag ++ "With")
  refine Unbroken.append ?_ (by decide)
  unfold builderName
  dsimp only
  split
  · next hkind =>
    exact (hbase.append (by decide)).append
      (((hcontainer hkind).identOf.dropLeading _).dropTrailing _)
  · exact hbase

/-- **The immediate form of a builder shows all packages that it needs.** -/
theorem shownBy_immediate
    (hparent : parent.kind = .container → Foreign self parent.type → Unbroken parent.type)
    {calls : List Call}
    (hmem : ⟨e, .builder (planImmediate d parent tag element e.taskContainerType params)⟩ ∈ calls) :
    ShownBy self ⟨e, .builder (planImmediate d parent tag element e.taskContainerType params)⟩ calls := by
  have helement : ∀ q, packageOf q = packageOf element → Foreign self q →
      ∃ c ∈ calls, c.Exhibits self (packageOf q) := by
    intro q hpackage hforeign
    rw [Foreign, hpackage] at hforeign
    rw [hpackage]
    exact ⟨_, hmem, exhibits_element (by simp [planImmediate, immediateSteps]) hforeign⟩
  have hruntime : ∀ name, Whole name → d.container = true ∨ d.returnPolicy = .reference →
      Foreign self (e.runtimeName name) →
      ∃ c ∈ calls, c.Exhibits self (packageOf (e.runtimeName name)) := by
    intro name hname hneeded hforeign
    have himported := (e.foreign_runtimeName_iff self hname).1 hforeign
    rw [e.packageOf_runtimeName hname]
    refine ⟨_, hmem, ?_⟩
    rcases hneeded with h | h
    · exact exhibits_runContainer (by simp [planImmediate, immediateSteps, h]) himported
    · exact exhibits_obtainReference (by simp [planImmediate, immediateSteps, h]) himported
  intro q hq hforeign
  have hq : q ∈ e.builderNames (planImmediate d parent tag element e.taskContainerType params) := hq
  simp only [Emitter.builderNames, List.mem_append, List.mem_cons, List.not_mem_nil, or_false,
    List.mem_flatMap, Emitter.mem_namesIf, decide_eq_true_eq] at hq
  rcases hq with (rfl | rfl | rfl) | ⟨_, rfl⟩ | ⟨hcontainer, rfl⟩ | ⟨hreturns, rfl⟩ | ⟨s, hs, hq⟩
  · exact helement _ rfl hforeign
  · exact helement _ (Emitter.packageOf_createName _) hforeign
  · refine ⟨_, hmem, exhibits_parent (fun _ => unbroken_funcName fun hkind => ?_) hforeign⟩
    exact hparent hkind hforeign
  · exact helement _ (Emitter.packageOf_recordName _) hforeign
  · have hroot : (planImmediate d parent tag element e.taskContainerType params).initReceiver =
        e.runtimeName "TaskContainer" := if_pos hcontainer
    rw [hroot] at hforeign ⊢
    exact hruntime _ (by decide) (Or.inl hcontainer) hforeign
  · exact hruntime _ (by decide) (Or.inr hreturns) hforeign
  · have hs : s ∈ immediateSteps d parent params := hs
    cases s with
    | obtainReference =>
      obtain rfl := List.mem_singleton.1 hq
      have hreturns : d.returnPolicy = .reference := by simpa [immediateSteps] using hs
      exact hruntime _ (by decide) (Or.inr hreturns) hforeign
    | runContainer =>
      obtain rfl := List.mem_singleton.1 hq
      have hcontainer : d.container = true := by simpa [immediateSteps] using hs
      exact hruntime _ (by decide) (Or.inl hcontainer) hforeign
    | _ => cases hq

/-- **The deferred form needs no other packages than the immediate one.** -/
theorem ShownBy.deferred {b : BuilderDecl} {calls : List Call} (h : ShownBy self ⟨e, .builder b⟩ calls) :
    ShownBy self ⟨e, .builder b.toDeferred⟩ calls := by
  intro q hq
  refine h q ?_
  have hq : q ∈ e.builderNames b.toDeferred := hq
  show q ∈ e.builderNames b
  simp only [Emitter.builderNames, BuilderDecl.toDeferred, List.flatMap_cons, Emitter.stepNames,
    List.flatMap_nil, List.append_nil, List.mem_append] at hq ⊢
  tauto

end Planned

end Call

/-! ## Files -/

namespace Naming.ImportTable

variable {t : ImportTable}

/-- A package that is recorded goes by its alias. -/
theorem Tidy.aliasOf?_eq (h : Tidy t) {e : ImportAlias} (he : e ∈ t.used) :
    t.aliasOf? e.path = some e.shortName := by
  cases ha : t.aliasOf? e.path with
  | none => exact absurd rfl (aliasOf?_eq_none_iff.1 ha e he)
  | some a =>
    have hsame := List.inj_on_of_nodup_map h.paths (mem_used_of_aliasOf? ha) he rfl
    rw [← hsame]

/-- Names of other packages leave aliases of their packages behind. -/
theorem exists_alias_of_mem {names : List String} {q : String} (h : q ∈ names)
    (hforeign : Foreign t.self q) : ∃ a, (t.after names).aliasOf? (packageOf q) = some a := by
  obtain ⟨earlier, later, rfl⟩ := List.append_of_mem h
  have hforeign : Foreign (t.after earlier).self q := by rwa [self_after]
  obtain ⟨a, ha, _⟩ := shorten_fst hforeign
  rw [after_append]
  exact ⟨a, aliasOf?_after ha later⟩

end Naming.ImportTable

namespace SourceFile

open ImportTable

variable {f : SourceFile} {calls l : List Call}

/-- Writes the block of a call. -/
def write (f : SourceFile) (c : Call) : SourceFile := f.emit (c.emission.make c.emitter)

theorem emitBuilder_eq_write (f : SourceFile) (e : Emitter) (b : BuilderDecl) :
    f.emitBuilder e b = f.write ⟨e, .builder b⟩ := rfl

theorem importPath_foldl_write : ∀ (l : List Call) (f : SourceFile),
    (l.foldl write f).importPath = f.importPath
  | [], _ => rfl
  | c :: l, f => importPath_foldl_write l (f.write c)

theorem Holds.foldl_write (h : f.Holds calls) : (l.foldl write f).Holds (calls ++ l) := by
  induction l generalizing f calls with
  | nil => simpa using h
  | cons c l ih =>
    have hrest := ih (h.emit c)
    rw [List.append_assoc, List.singleton_append] at hrest
    exact hrest

/-- The file is one of the package `self`, and holds the blocks of calls whose packages all show in it. -/
def Displays (f : SourceFile) (self : String) : Prop :=
  f.importPath = self ∧ ∃ calls, f.Holds calls ∧ ∀ c ∈ calls, c.ShownBy self calls

theorem displays_new (path package importPath source : String) :
    (SourceFile.new path package importPath source).Displays importPath :=
  ⟨rfl, [], holds_new _ _ _ _, by simp⟩

/-- Calls whose packages show in themselves can be written. -/
theorem Displays.foldl_write {self : String} (h : f.Displays self)
    (hl : ∀ calls, l ⊆ calls → ∀ c ∈ l, c.ShownBy self calls) : (l.foldl write f).Displays self := by
  obtain ⟨hself, calls, hholds, hshown⟩ := h
  refine ⟨(importPath_foldl_write l f).trans hself, calls ++ l, hholds.foldl_write, fun c hc => ?_⟩
  rcases List.mem_append.1 hc with hc | hc
  · intro q hq hforeign
    obtain ⟨c', hc', hexhibits⟩ := hshown c hc q hq hforeign
    exact ⟨c', List.mem_append_left _ hc', hexhibits⟩
  · exact hl _ (List.subset_append_right _ _) c hc

/-- A call whose packages show in itself can be written. -/
theorem Displays.write {self : String} (h : f.Displays self) {c : Call}
    (hc : ∀ calls, c ∈ calls → c.ShownBy self calls) : (f.write c).Displays self := by
  refine h.foldl_write (l := [c]) fun calls hl c' hc' => ?_
  obtain rfl := List.mem_singleton.1 hc'
  exact hc calls (hl List.mem_cons_self)

theorem Displays.emitWrapper {self : String} (h : f.Displays self) (e : Emitter) {w : Emitter.Wrapper}
    (hident : Unbroken (identOf w.type)) : (f.emitWrapper e w).Displays self :=
  h.write (c := ⟨e, .wrapper w⟩) fun _ hmem => Call.shownBy_wrapper hident hmem

theorem Displays.emitContainer {self : String} (h : f.Displays self) (e : Emitter)
    (name capability : String) : (f.emitContainer e name capability).Displays self :=
  h.write (c := ⟨e, .container name capability⟩) fun _ hmem => Call.shownBy_container hmem

/-- Both forms of a builder go to one file, where the deferred form finds shown what it needs. -/
theorem Displays.emitForms {self : String} (h : f.Displays self) {e : Emitter} {b : BuilderDecl}
    (hb : ∀ calls, ⟨e, .builder b⟩ ∈ calls → Call.ShownBy self ⟨e, .builder b⟩ calls) :
    ((f.emitBuilder e b).emitBuilder e b.toDeferred).Displays self := by
  have hforms := h.foldl_write (l := [⟨e, .builder b⟩, ⟨e, .builder b.toDeferred⟩])
    fun calls hl c hc => by
      have hshown := hb calls (hl List.mem_cons_self)
      rcases List.mem_cons.1 hc with rfl | hc
      · exact hshown
      · obtain rfl := List.mem_singleton.1 hc
        exact hshown.deferred
  rwa [List.foldl_cons, List.foldl_cons, List.foldl_nil, ← emitBuilder_eq_write,
    ← emitBuilder_eq_write] at hforms

variable (h : f.Holds calls)

include h

theorem Holds.tidy : f.imports.Tidy := h.imports ▸ (tidy_empty _).after _

theorem Holds.self : f.imports.self = f.importPath := by rw [h.imports, self_after]; rfl

/-- A package is recorded because a call needs it. -/
theorem Holds.origin {e : ImportAlias} (he : e ∈ f.imports.used) :
    ∃ c ∈ calls, ∃ q ∈ c.names, Foreign f.importPath q ∧ packageOf q = e.path := by
  rw [h.imports] at he
  rcases ImportTable.origin he with hnone | ⟨earlier, q, later, hnames, hforeign, hpath, _⟩
  · cases hnone
  · have hq : q ∈ calls.flatMap Call.names := by simp [hnames]
    obtain ⟨c, hc, hq⟩ := List.mem_flatMap.1 hq
    exact ⟨c, hc, q, hq, hforeign, hpath⟩

/-- **Every package that is recorded shows under its alias.** -/
theorem Holds.shows (hshown : ∀ c ∈ calls, c.ShownBy f.importPath calls) {e : ImportAlias}
    (he : e ∈ f.imports.used) : Shows f.body (e.shortName ++ ".") := by
  obtain ⟨c, hc, q, hq, hforeign, hpath⟩ := h.origin he
  obtain ⟨c', hc', hexhibits⟩ := hshown c hc q hq hforeign
  have hreadable : f.imports.Readable := h.imports ▸ (readable_empty _).after _
  have ha : f.imports.aliasOf? (packageOf q) = some e.shortName := hpath ▸ h.tidy.aliasOf?_eq he
  obtain ⟨lead, rest, hline, hlead⟩ := hexhibits f.imports e.shortName h.self hreadable ha
  obtain ⟨more, hmore⟩ := exists_line_of_mem hlead.unbroken
    (List.mem_flatMap.2 ⟨c', hc', hline⟩ : lead ++ rest ∈ calls.flatMap (·.linesIn f.imports))
  refine ⟨lead ++ more, ?_, hlead.code more, hlead.holds more⟩
  rw [h.body]
  exact hmore

/-- **The import block accounts for all references exactly when no package is without alias.** -/
theorem Holds.resolves_iff :
    (∀ c ∈ calls, ∀ q ∈ c.names, Foreign f.importPath q →
      f.imports.Resolves (f.imports.reference q) q) ↔ "" ∉ f.imports.aliases := by
  constructor
  · intro hresolves hempty
    obtain ⟨e, he, hnone⟩ := List.mem_map.1 hempty
    obtain ⟨c, hc, q, hq, hforeign, hpath⟩ := h.origin he
    obtain ⟨a, href, hbrings⟩ := hresolves c hc q hq hforeign
    have ha : f.imports.aliasOf? (packageOf q) = some "" := by
      rw [hpath, h.tidy.aliasOf?_eq he, hnone]
    rw [reference_of_foreign (h.self.symm ▸ hforeign) ha, String.append_left_inj,
      String.append_left_inj] at href
    exact not_brings_empty _ _ (href ▸ hbrings)
  · intro hempty c hc q hq hforeign
    have hnames : q ∈ calls.flatMap Call.names := List.mem_flatMap.2 ⟨c, hc, hq⟩
    obtain ⟨a, ha⟩ := exists_alias_of_mem (t := empty f.importPath) hnames hforeign
    rw [← h.imports] at ha
    refine ⟨a, reference_of_foreign (h.self.symm ▸ hforeign) ha, ?_⟩
    exact h.tidy.brings hempty (mem_used_of_aliasOf? ha)

/-- **Imports are used and references are accounted for exactly when no package is without alias.** -/
theorem Holds.imports_iff (hshown : ∀ c ∈ calls, c.ShownBy f.importPath calls) :
    ((∀ s ∈ f.imports.specs, Shows f.body (s.ident ++ ".")) ∧
      ∀ c ∈ calls, ∀ q ∈ c.names, Foreign f.importPath q →
        f.imports.Resolves (f.imports.reference q) q) ↔ "" ∉ f.imports.aliases := by
  rw [h.resolves_iff]
  refine ⟨fun hboth => hboth.2, fun hempty => ⟨fun s hs => ?_, hempty⟩⟩
  obtain ⟨e, he, rfl⟩ := mem_specs.1 hs
  rw [ImportAlias.ident_spec fun hnone => hempty (hnone ▸ List.mem_map_of_mem he)]
  exact h.shows hshown he

end SourceFile

end TaskBuilders
