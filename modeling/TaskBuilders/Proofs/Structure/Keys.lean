import TaskBuilders.Proofs.Structure.Growth
import TaskBuilders.Proofs.Text.Case
import TaskBuilders.Structure.Codec

/-!
# The keys of builders

Builders are looked up and declared under lower-cased tags. Classes that are registered with builders
of their own, or read from a document, keep the keys that they come with. What a structure then holds
under a key in upper case is found by no tag, and the same builder may be declared again.

* `Built` — the structures that operations lead to, with the classes that they were given
* `functionAt?_cases` — a key is in lower case, or it was given
* `caseBlind_iff` — builders are found in any case if and only if all given keys are in lower case
* `decode_keeps_case` — a document that leads to two builders for one tag
-/

namespace TaskBuilders.Structure

open Text

/-! ## Structures with what they were given -/

/-- The structures that operations lead to. The list holds the classes from outside that were taken in:
those registered under new names, and those of documents. -/
inductive Built : List StructureClass → Structure → Prop where
  | empty : Built [] .empty
  | register {given : List StructureClass} {s : Structure} (h : Built given s) (c : StructureClass) :
      Built (if s.resolves c.name then given else c :: given) (s.register c)
  | addFunction {given : List StructureClass} {s s' : Structure} (h : Built given s)
      {name tag builder package : String} {attrs : List AttributeDescriptor} {produced : String}
      (added : s.addFunction name tag builder package attrs produced = .ok s') : Built given s'
  | merge {given given' : List StructureClass} {s other : Structure} (h : Built given s)
      (h' : Built given' other) : Built (given ++ given') (s.merge other)
  | decode {text : String} {s : Structure} (read : decode text = .ok s) : Built s.classes.values s

variable {given : List StructureClass} {s : Structure} {name key : String} {f : BuilderFunction}

theorem exists_class_of_functionAt? (h : s.functionAt? name key = some f) :
    ∃ c, s.class? name = some c ∧ key ∈ c.functions.keys := by
  obtain ⟨c, hc, hf⟩ := Option.bind_eq_some_iff.1 h
  exact ⟨c, hc, (c.functions.mem_keys_iff key).2 ⟨f, hf⟩⟩

theorem exists_functionAt?_of_class {c : StructureClass} (hc : s.class? name = some c)
    (hkey : key ∈ c.functions.keys) : ∃ f, s.functionAt? name key = some f := by
  obtain ⟨f, hf⟩ := (c.functions.mem_keys_iff key).1 hkey
  exact ⟨f, by rw [functionAt?, hc, Option.bind_some, hf]⟩

theorem resolves_eq_false_iff : s.resolves name = false ↔ s.class? name = none := by
  rw [← Bool.not_eq_true, resolves_iff, Option.eq_none_iff_forall_not_mem, not_exists]
  rfl

/-- A name that is taken keeps its class. -/
theorem register_of_resolves {c : StructureClass} (h : s.resolves c.name = true) :
    s.register c = s := by
  obtain ⟨mine, hmine⟩ := (s.resolves_iff c.name).1 h
  simp [register, Dict.insertNew_of_some c hmine]

/-- **A key is in lower case, or it was given.** -/
theorem functionAt?_cases (h : Built given s) : ∀ {name key : String} {f : BuilderFunction},
    s.functionAt? name key = some f → lowercase key = key ∨ ∃ c ∈ given, key ∈ c.functions.keys := by
  induction h with
  | empty => intro name key f hf; cases hf
  | @register given s h c ih =>
    intro name key f hf
    cases hc : s.resolves c.name with
    | true =>
      rw [register_of_resolves hc] at hf
      simpa using ih hf
    | false =>
      obtain ⟨c', hc', hkey⟩ := exists_class_of_functionAt? hf
      rcases class?_register_cases hc' with ⟨_, rfl⟩ | hold
      · exact Or.inr ⟨c', by simp, hkey⟩
      · obtain ⟨f', hf'⟩ := exists_functionAt?_of_class hold hkey
        exact (ih hf').imp_right fun ⟨c'', hc'', hk⟩ => ⟨c'', by simp [hc''], hk⟩
  | @addFunction given s s' h n tag builder package attrs produced added ih =>
    intro name key f hf
    obtain ⟨hclass, hnew⟩ := of_addFunction added
    obtain ⟨s'', hs'', _, hat⟩ := addFunction_of_new hclass hnew builder package attrs produced
    obtain rfl := Except.ok.inj (added.symm.trans hs'')
    rw [hat] at hf
    split at hf
    · next hkey => exact Or.inl (by simp [hkey.2])
    · exact ih hf
  | merge h h' ih ih' =>
    intro name key f hf
    rw [functionAt?_merge, Option.or_eq_some_iff] at hf
    rcases hf with hf | ⟨_, hf⟩
    · exact (ih hf).imp_right fun ⟨c, hc, hk⟩ => ⟨c, List.mem_append_left _ hc, hk⟩
    · exact (ih' hf).imp_right fun ⟨c, hc, hk⟩ => ⟨c, List.mem_append_right _ hc, hk⟩
  | @decode text s read =>
    intro name key f hf
    obtain ⟨c, hc, hkey⟩ := exists_class_of_functionAt? hf
    exact Or.inr ⟨c, (s.classes.mem_values_iff c).2 ⟨name, hc⟩, hkey⟩

/-- What was given is there, under the key that it was given with. -/
theorem exists_functionAt?_of_given (h : Built given s) : ∀ {c : StructureClass} {key : String},
    c ∈ given → key ∈ c.functions.keys → ∃ name f, s.functionAt? name key = some f := by
  induction h with
  | empty => intro c key hc; cases hc
  | @register given s h c ih =>
    intro c' key hc' hkey
    have hold : c' ∈ given → ∃ name f, (s.register c).functionAt? name key = some f := fun hmem =>
      let ⟨name, f, hf⟩ := ih hmem hkey
      ⟨name, f, (grows_register s c).functionAt? hf⟩
    split at hc'
    · exact hold hc'
    · next hnew =>
      rcases List.mem_cons.1 hc' with rfl | hmem
      · have hclass := class?_register_of_none (resolves_eq_false_iff.1 (Bool.eq_false_iff.2 hnew))
        exact ⟨c'.name, exists_functionAt?_of_class hclass hkey⟩
      · exact hold hmem
  | addFunction h added ih =>
    intro c key hc hkey
    obtain ⟨name, f, hf⟩ := ih hc hkey
    exact ⟨name, f, functionAt?_addFunction added hf⟩
  | @merge given given' s other h h' ih ih' =>
    intro c key hc hkey
    rcases List.mem_append.1 hc with hc | hc
    · obtain ⟨name, f, hf⟩ := ih hc hkey
      exact ⟨name, f, by simp [functionAt?_merge, hf]⟩
    · -- a builder of the first structure under that key comes before it
      obtain ⟨name, f, hf⟩ := ih' hc hkey
      refine ⟨name, (s.functionAt? name key).getD f, ?_⟩
      rw [functionAt?_merge, hf]
      cases s.functionAt? name key <;> rfl
  | @decode text s read =>
    intro c key hc hkey
    obtain ⟨name, hname⟩ := (s.classes.mem_values_iff c).1 hc
    exact ⟨name, exists_functionAt?_of_class hname hkey⟩

/-! ## Builders in any case -/

/-- Builders are kept under keys in lower case: each is found by its key in any case, and is not declared
again. -/
structure CaseBlind (s : Structure) : Prop where
  lower : ∀ name key f, s.functionAt? name key = some f → lowercase key = key
  unique : ∀ name key key' f f', s.functionAt? name key = some f → s.functionAt? name key' = some f' →
    lowercase key' = lowercase key → key' = key
  found : ∀ name key f tag, s.functionAt? name key = some f → lowercase tag = lowercase key →
    s.function? name tag = some f ∧ s.containsFunction name tag = true
  refused : ∀ name key f tag, s.functionAt? name key = some f → lowercase tag = lowercase key →
    ∀ builder package attrs produced,
      s.addFunction name tag builder package attrs produced = .error (.duplicateFunction name tag)

/-- A builder is declared once for every tag. -/
theorem addFunction_of_containsFunction {tag : String} (h : s.containsFunction name tag = true)
    (builder package : String) (attrs : List AttributeDescriptor) (produced : String) :
    s.addFunction name tag builder package attrs produced = .error (.duplicateFunction name tag) := by
  obtain ⟨f, hf⟩ := Option.isSome_iff_exists.1 h
  obtain ⟨c, hc, hcf⟩ := Option.bind_eq_some_iff.1 hf
  have hcontains : c.containsFunction tag = true := by simp [StructureClass.containsFunction, hcf]
  simp [addFunction, hc, hcontains]

/-- Keys in lower case are all that the rest needs. -/
theorem caseBlind_of_lower
    (h : ∀ name key f, s.functionAt? name key = some f → lowercase key = key) : CaseBlind s := by
  have hfound : ∀ name key f tag, s.functionAt? name key = some f → lowercase tag = lowercase key →
      s.function? name tag = some f := by
    intro name key f tag hf htag
    show s.functionAt? name (lowercase tag) = some f
    rw [htag, h name key f hf, hf]
  refine ⟨h, ?_, ?_, ?_⟩
  · intro name key key' f f' hf hf' hkeys
    rwa [h name key f hf, h name key' f' hf'] at hkeys
  · intro name key f tag hf htag
    have hfunction := hfound name key f tag hf htag
    exact ⟨hfunction, by simp [containsFunction, hfunction]⟩
  · intro name key f tag hf htag builder package attrs produced
    refine addFunction_of_containsFunction ?_ builder package attrs produced
    simp [containsFunction, hfound name key f tag hf htag]

/-- **Builders are found in any case if and only if all given keys are in lower case.** No operation
changes the case of a key, and declaring a builder never makes a key in another one. -/
theorem caseBlind_iff (h : Built given s) :
    CaseBlind s ↔ ∀ c ∈ given, ∀ key ∈ c.functions.keys, lowercase key = key := by
  constructor
  · intro hs c hc key hkey
    obtain ⟨name, f, hf⟩ := exists_functionAt?_of_given h hc hkey
    exact hs.lower name key f hf
  · intro hgiven
    refine caseBlind_of_lower fun name key f hf => ?_
    rcases functionAt?_cases h hf with hlower | ⟨c, hc, hkey⟩
    · exact hlower
    · exact hgiven c hc key hkey

/-- A class that is registered with a builder. -/
def copyClass : StructureClass :=
  { name := "m.C", functions := Dict.ofList [("copy", ⟨"Copy", "Copy", "m", none, "m.DSLCopy"⟩)] }

theorem caseBlind_iff_copyClass :
    Built [copyClass] (register .empty copyClass) ∧ CaseBlind (register .empty copyClass) ∧
      (register .empty copyClass).containsFunction "m.C" "COPY" = true := by
  have hbuilt : Built [copyClass] (register .empty copyClass) := Built.empty.register copyClass
  refine ⟨hbuilt, (caseBlind_iff hbuilt).2 ?_, by decide⟩
  intro c hc
  rw [List.mem_singleton.1 hc]
  decide

/-! ## A document with another case -/

/-- A class of a document with a builder under a key in upper case. -/
def capitalDocument : String :=
  "\x7b\"runtime\":\"m/rt\",\"classes\":\x7b\"m.C\":\x7b\"functions\":\x7b\"Copy\":" ++
    "\x7b\"name\":\"Copy\",\"builder\":\"Copy\",\"package\":\"m\",\"initReceiver\":\"m.DSLCopy\"\x7d" ++
    "\x7d\x7d\x7d\x7d"

/-- A document keeps its keys as they are: the builder under `Copy` is not found, and a second one is
declared for the same tag. -/
theorem decode_keeps_case : ∃ s, decode capitalDocument = .ok s ∧
    (s.functionAt? "m.C" "Copy").isSome = true ∧ lowercase "Copy" ≠ "Copy" ∧
    s.containsFunction "m.C" "Copy" = false ∧ s.containsFunction "m.C" "copy" = false ∧
    ∃ s', s.addFunction "m.C" "copy" "Copy" "m" [] "m.DSLCopy" = .ok s' ∧
      (s'.functionAt? "m.C" "Copy").isSome = true ∧ (s'.functionAt? "m.C" "copy").isSome = true := by
  have hread : (decode capitalDocument).toOption.any (fun s =>
      (s.functionAt? "m.C" "Copy").isSome && !s.containsFunction "m.C" "Copy" &&
        !s.containsFunction "m.C" "copy" && s.resolves "m.C") = true := by decide +kernel
  cases hs : decode capitalDocument with
  | error e => simp [hs, Except.toOption] at hread
  | ok s =>
    simp only [hs, Except.toOption, Option.any_some, Bool.and_eq_true, Bool.not_eq_true'] at hread
    obtain ⟨⟨⟨hstored, hupper⟩, hlower⟩, hclass⟩ := hread
    obtain ⟨s', hs', _, hat⟩ := addFunction_of_new hclass hlower "Copy" "m" [] "m.DSLCopy"
    refine ⟨s, rfl, hstored, by decide, hupper, hlower, s', hs', ?_, ?_⟩
    · rw [hat, if_neg (by decide)]
      exact hstored
    · rw [hat, if_pos (by decide)]
      rfl

end TaskBuilders.Structure
