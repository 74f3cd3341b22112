import TaskBuilders.Proofs.Dict.Lookup
import TaskBuilders.Proofs.Json.RoundTrip
import TaskBuilders.Structure.Codec

/-!
# Stored structures are read back

A structure is stored as a document, the document is read as the same JSON value
(`Json.parseFirst_document`), and the value as the same structure. The second part reads every level
on its own: parameters, builders, classes, and the structure itself.

* `readDraft_toJson` — the value of a structure is read as its draft
* `Keyed` — every class is stored under its own name, which is all that reading back asks for
* `decode_encode_of_keyed` — a structure of that kind is read back
* `reachable_round_trip` — all structures that operations lead to are of that kind
-/

namespace TaskBuilders.Structure

open Json Text

/-! ## Documents of structures -/

theorem reads_optionalMember (key value : String) :
    ∀ e ∈ optionalMember key value, Reads 0 e.2 := by
  unfold optionalMember
  split
  · nofun
  · intro e he
    obtain rfl := List.mem_singleton.1 he
    exact reads_string value

theorem reads_attributeJson (a : AttributeDescriptor) : Reads 1 (attributeJson a) := by
  refine reads_object ?_
  simp only [List.forall_mem_cons, List.not_mem_nil, false_implies, implies_true, and_true]
  exact ⟨reads_string _, reads_string _, reads_string _⟩

/-- A table is read when its values are. -/
theorem reads_table {α : Type} {d : Nat} {write : α → Json} (h : ∀ a, Reads d (write a))
    (t : Dict α) : Reads (d + 1) (.object (t.entries.map fun e => (e.1, write e.2))) := by
  refine reads_object fun e he => ?_
  obtain ⟨x, _, rfl⟩ := List.mem_map.1 he
  exact h x.2

theorem reads_functionJson (f : BuilderFunction) : Reads 3 (functionJson f) := by
  refine reads_object fun e he => ?_
  rw [List.cons_append, List.mem_cons, List.mem_append] at he
  rcases he with rfl | he | he
  · exact (reads_string _).mono (by omega)
  · exact (reads_optionalMember _ _ e he).mono (by omega)
  · simp only [List.mem_cons, List.not_mem_nil, or_false] at he
    rcases he with rfl | rfl | rfl
    · exact (reads_string _).mono (by omega)
    · -- only a table of parameters is nested
      cases f.attributes with
      | none => exact reads_null.mono (by omega)
      | some t => exact reads_table reads_attributeJson t
    · exact (reads_string _).mono (by omega)

theorem reads_classJson (c : StructureClass) : Reads 5 (classJson c) := by
  refine reads_object fun e he => ?_
  rw [List.cons_append, List.cons_append, List.mem_cons, List.mem_append, List.mem_append] at he
  rcases he with rfl | (he | he) | he
  · exact (reads_string _).mono (by omega)
  · exact (reads_optionalMember _ _ e he).mono (by omega)
  · exact (reads_optionalMember _ _ e he).mono (by omega)
  · simp only [List.mem_cons, List.not_mem_nil, or_false] at he
    rcases he with rfl | rfl
    · refine (reads_array fun v hv => ?_ : Reads 1 _).mono (by omega)
      obtain ⟨s, _, rfl⟩ := List.mem_map.1 hv
      exact reads_string s
    · exact reads_table reads_functionJson _

theorem reads_toJson (s : Structure) : Reads 7 s.toJson := by
  refine reads_object fun e he => ?_
  rcases List.mem_append.1 he with he | he
  · exact (reads_optionalMember _ _ e he).mono (by omega)
  · obtain rfl := List.mem_singleton.1 he
    exact reads_table reads_classJson _

theorem parseFirst_encode (s : Structure) : parseFirst s.encode = some (s.toJson, ['\n']) :=
  parseFirst_document (reads_toJson s) (by decide)

/-! ## Values of structures -/

theorem readEntries_eq {α β : Type} {read : Json → Option β} {write : α → Json} {f : α → β}
    (h : ∀ a, read (write a) = some (f a)) : ∀ (es : List (String × α)) (before : Dict β),
    readEntries read before (es.map fun e => (e.1, write e.2)) =
      some ((es.map fun e => (e.1, f e.2)).foldl (fun d e => d.insert e.1 e.2) before)
  | [], _ => rfl
  | e :: es, before => by
    show (read (write e.2)).bind (fun a => readEntries read (before.insert e.1 a) _) = _
    rw [h, Option.bind_some, readEntries_eq h es]
    rfl

/-- A table whose values are read back is read back. -/
theorem readEntries_table {α β : Type} {read : Json → Option β} {write : α → Json} {f : α → β}
    (h : ∀ a, read (write a) = some (f a)) (t : Dict α) :
    readEntries read ∅ (t.entries.map fun e => (e.1, write e.2)) = some (t.map fun _ a => f a) := by
  rw [readEntries_eq h]
  exact congrArg some (Dict.ofList_entries (t.map fun _ a => f a))

/-- Nothing is dropped from a table in which everything is there. -/
theorem presentEntries_map_some {α β : Type} (f : α → β) (t : Dict α) :
    presentEntries (t.map fun _ a => some (f a)) = t.map fun _ a => f a := by
  have hentries : ((t.map fun _ a => some (f a)).entries.filterMap fun e => e.2.map (e.1, ·)) =
      (t.map fun _ a => f a).entries := by
    show (t.entries.map fun e => (e.1, some (f e.2))).filterMap _ = t.entries.map _
    rw [List.filterMap_map]
    show t.entries.filterMap (some ∘ fun e => (e.1, f e.2)) = _
    rw [List.filterMap_eq_map]
  rw [presentEntries, hentries, Dict.ofList_entries]

theorem readAttribute_attributeJson (a : AttributeDescriptor) :
    readAttribute (attributeJson a) = some a := rfl

/-! ### Members -/

section Members

variable {σ : Type} {step : σ → String → Json → Option σ} {c c' : σ}

/-- Reads members in their order. -/
def readMembers (step : σ → String → Json → Option σ) (c : σ) (ms : List (String × Json)) :
    Option σ := ms.foldlM (fun c e => step c e.1 e.2) c

theorem readMembers_cons {k : String} {j : Json} (h : step c k j = some c')
    (ms : List (String × Json)) : readMembers step c ((k, j) :: ms) = readMembers step c' ms := by
  rw [readMembers, List.foldlM_cons, h]
  rfl

theorem readMembers_append {ms : List (String × Json)} (h : readMembers step c ms = some c')
    (ms' : List (String × Json)) : readMembers step c (ms ++ ms') = readMembers step c' ms' := by
  rw [readMembers] at h
  rw [readMembers, List.foldlM_append, h]
  rfl

/-- A member that is left out when it is empty is read as its value over an empty one. -/
theorem readMembers_optional (step : σ → String → Json → Option σ) (key : String)
    (set : String → σ) (h : ∀ v, step (set "") key (.string v) = some (set v)) (value : String) :
    readMembers step (set "") (optionalMember key value) = some (set value) := by
  unfold optionalMember
  split
  · next hv => rw [hv]; rfl
  · exact readMembers_cons (h value) []

end Members

/-! ### Levels -/

/-- A builder is read back, with or without a table of parameters. -/
theorem readFunction_functionJson (f : BuilderFunction) :
    readFunction (functionJson f) = some (some f) := by
  have hname : readFunctionMember ⟨"", "", "", none, ""⟩ "name" (.string f.name) =
      some ⟨f.name, "", "", none, ""⟩ := rfl
  have hbuilder := readMembers_optional readFunctionMember "builder"
    (fun b => ⟨f.name, b, "", none, ""⟩) (fun _ => rfl) f.builder
  have hpackage : readFunctionMember ⟨f.name, f.builder, "", none, ""⟩ "package"
      (.string f.package) = some ⟨f.name, f.builder, f.package, none, ""⟩ := rfl
  have hattributes : readFunctionMember ⟨f.name, f.builder, f.package, none, ""⟩ "attributes"
      (attributesJson f.attributes) = some ⟨f.name, f.builder, f.package, f.attributes, ""⟩ := by
    cases f.attributes with
    | none => rfl
    | some t =>
      show (readEntries readAttribute ∅ _).map _ = _
      rw [readEntries_table readAttribute_attributeJson, Dict.map_id]
      rfl
  have hinit : readFunctionMember ⟨f.name, f.builder, f.package, f.attributes, ""⟩ "initReceiver"
      (.string f.initReceiver) = some f := rfl
  show (readMembers readFunctionMember ⟨"", "", "", none, ""⟩
    (("name", .string f.name) :: optionalMember "builder" f.builder ++ _)).map some = _
  rw [List.cons_append, readMembers_cons hname, readMembers_append hbuilder,
    readMembers_cons hpackage, readMembers_cons hattributes, readMembers_cons hinit]
  rfl

theorem readTexts_map_string (ss : List String) : readTexts [] (ss.map .string) = some ss := by
  induction ss with
  | nil => rfl
  | cons s ss ih =>
    show (readTexts [] (ss.map .string)).bind (fun rest => some (s :: rest)) = _
    rw [ih]
    rfl

/-- The draft that a class is read as. -/
def draftOf (c : StructureClass) : ClassDraft :=
  ⟨c.name, c.source, c.capability, c.traits, c.functions.map fun _ f => some f⟩

/-- A class is read as its draft. -/
theorem readClass_classJson (c : StructureClass) :
    readClass (classJson c) = some (some (draftOf c)) := by
  obtain ⟨name, source, capability, traits, functions⟩ := c
  have hname : readClassMember {} "name" (.string name) = some { name } := rfl
  have hsource := readMembers_optional readClassMember "source"
    (fun s => { name, source := s }) (fun _ => rfl) source
  have hcapability := readMembers_optional readClassMember "capability"
    (fun s => { name, source, capability := s }) (fun _ => rfl) capability
  have htraits : readClassMember { name, source, capability } "traits"
      (.array (traits.map .string)) = some { name, source, capability, traits } := by
    show (readTexts [] (traits.map .string)).map _ = _
    rw [readTexts_map_string]
    rfl
  have hfunctions : readClassMember { name, source, capability, traits } "functions"
      (.object (functions.entries.map fun e => (e.1, functionJson e.2))) =
        some ⟨name, source, capability, traits, functions.map fun _ f => some f⟩ := by
    show (readEntries readFunction ∅ _).map _ = _
    rw [readEntries_table readFunction_functionJson]
    rfl
  show (readMembers readClassMember {} (("name", .string name) :: optionalMember "source" source ++
    optionalMember "capability" capability ++ _)).map some = _
  rw [List.append_assoc, List.cons_append, readMembers_cons hname, readMembers_append hsource,
    readMembers_append hcapability, readMembers_cons htraits, readMembers_cons hfunctions]
  rfl

/-- The value of a structure is read as its draft. -/
theorem readDraft_toJson (s : Structure) :
    readDraft s.toJson = some ⟨s.runtime, s.classes.map fun _ c => some (draftOf c)⟩ := by
  have hruntime := readMembers_optional readMember "runtime" (fun r => { runtime := r })
    (fun _ => rfl) s.runtime
  have hclasses : readMember { runtime := s.runtime } "classes"
      (.object (s.classes.entries.map fun e => (e.1, classJson e.2))) =
        some ⟨s.runtime, s.classes.map fun _ c => some (draftOf c)⟩ := by
    show (readEntries readClass ∅ _).map _ = _
    rw [readEntries_table readClass_classJson]
    rfl
  show readMembers readMember {} (optionalMember "runtime" s.runtime ++ _) = _
  rw [readMembers_append hruntime, readMembers_cons hclasses]
  rfl

/-! ## Structures -/

/-- Every class is stored under its own name. -/
def Keyed (s : Structure) : Prop := ∀ key c, s.classes.get? key = some c → c.name = key

theorem keyed_iff {s : Structure} : Keyed s ↔ ∀ e ∈ s.classes.entries, e.2.name = e.1 :=
  ⟨fun h e he => h e.1 e.2 ((s.classes.mem_entries_iff e.1 e.2).1 he),
    fun h key c hc => h (key, c) ((s.classes.mem_entries_iff key c).2 hc)⟩

instance (s : Structure) : Decidable (Keyed s) := decidable_of_iff _ keyed_iff.symm

/-- Classes that are stored under their names are listed as they are. -/
theorem Keyed.listing_eq {s : Structure} (h : Keyed s) : s.listing = s.classes.values := by
  refine List.map_congr_left ?_
  rintro ⟨name, c⟩ he
  obtain rfl : c.name = name := keyed_iff.1 h _ he
  rfl

theorem toClass_draftOf (c : StructureClass) : (draftOf c).toClass c.name = c := by
  have hfunctions : presentEntries (c.functions.map fun _ f => some f) = c.functions :=
    (presentEntries_map_some (fun f => f) c.functions).trans (Dict.map_id c.functions)
  rw [ClassDraft.toClass, draftOf, hfunctions]

/-- **A structure whose classes are stored under their names is read back.** -/
theorem decode_encode_of_keyed {s : Structure} (h : Keyed s) : decode s.encode = .ok s := by
  have hpresent := presentEntries_map_some draftOf s.classes
  have hfits : ((s.classes.map fun _ c => draftOf c).entries.find? fun e => !e.2.fits e.1) =
      none := by
    refine List.find?_eq_none.2 fun e he => ?_
    -- a draft that has a name fits no other key
    obtain ⟨⟨key, c⟩, hc, rfl⟩ := List.mem_map.1 he
    have hname := h key c ((s.classes.mem_entries_iff key c).1 hc)
    simp [ClassDraft.fits, draftOf, hname]
  have hclasses : (s.classes.map fun _ c => draftOf c).map ClassDraft.toClass = s.classes := by
    refine Dict.ext_get? fun key => ?_
    rw [Dict.get?_map, Dict.get?_map]
    cases hc : s.classes.get? key with
    | none => rfl
    | some c =>
      obtain rfl := h key c hc
      exact congrArg some (toClass_draftOf c)
  rw [decode, parseFirst_encode]
  dsimp only
  rw [readDraft_toJson]
  dsimp only
  rw [ofDraft, hpresent]
  dsimp only
  rw [hfits]
  dsimp only
  rw [hclasses]

/-! ### Operations -/

theorem Keyed.register {s : Structure} (h : Keyed s) (c : StructureClass) :
    Keyed (s.register c) := by
  intro key c' hc'
  have hc' : (s.classes.insertNew c.name c).get? key = some c' := hc'
  rw [Dict.get?_insertNew] at hc'
  by_cases hkey : key = c.name
  · rw [if_pos hkey, Option.some.injEq] at hc'
    -- a class that is there is not replaced
    cases hold : s.classes.get? c.name with
    | none => rw [hold, Option.getD_none] at hc'; rw [← hc', hkey]
    | some mine =>
      rw [hold, Option.getD_some] at hc'
      rw [← hc', hkey, h c.name mine hold]
  · rw [if_neg hkey] at hc'
    exact h key c' hc'

/-- A class under its name keeps all classes under their names. -/
theorem Keyed.insert {s : Structure} (h : Keyed s) {key : String} {c : StructureClass}
    (hc : c.name = key) : Keyed { s with classes := s.classes.insert key c } := by
  intro k c' hc'
  rcases Dict.get?_insert_cases hc' with ⟨rfl, rfl⟩ | hc'
  · exact hc
  · exact h k c' hc'

theorem Keyed.addFunction {s s' : Structure} (h : Keyed s) {name tag builder package : String}
    {attrs : List AttributeDescriptor} {produced : String}
    (hadd : s.addFunction name tag builder package attrs produced = .ok s') : Keyed s' := by
  unfold Structure.addFunction at hadd
  split at hadd
  · cases hadd
  · next c hc =>
    split at hadd
    · cases hadd
    · obtain rfl := Except.ok.inj hadd
      exact h.insert (c := { c with functions := _ }) (h name c hc)

theorem Keyed.adoptClass {s : Structure} (h : Keyed s) {key : String} {theirs : StructureClass}
    (ht : theirs.name = key) : Keyed (s.adoptClass key theirs) := by
  unfold Structure.adoptClass
  split
  · next mine hmine => exact h.insert (c := mergeClass mine theirs) (h key mine hmine)
  · exact h.insert ht

theorem Keyed.foldl_adoptClass : ∀ (es : List (String × StructureClass)) (s : Structure),
    Keyed s → (∀ e ∈ es, e.2.name = e.1) →
    Keyed (es.foldl (fun acc e => acc.adoptClass e.1 e.2) s)
  | [], _, h, _ => h
  | e :: es, _, h, hes =>
    Keyed.foldl_adoptClass es _ (h.adoptClass (hes e List.mem_cons_self))
      fun e' he' => hes e' (List.mem_cons_of_mem e he')

theorem Keyed.merge {s other : Structure} (h : Keyed s) (ho : Keyed other) :
    Keyed (s.merge other) := by
  refine Keyed.foldl_adoptClass other.classes.entries _ ?_ ?_
  · split
    · exact h
    · exact h
  · rintro ⟨key, c⟩ hc
    exact ho key c ((other.classes.mem_entries_iff key c).1 hc)

theorem keyed_of_ofDraft {d : Draft} {s : Structure} (h : ofDraft d = .ok s) : Keyed s := by
  simp only [ofDraft] at h
  split at h
  · cases h
  · obtain rfl := Except.ok.inj h
    intro key c hc
    have hc : ((presentEntries d.classes).map ClassDraft.toClass).get? key = some c := hc
    rw [Dict.get?_map] at hc
    obtain ⟨draft, _, rfl⟩ := Option.map_eq_some_iff.1 hc
    rfl

theorem keyed_of_decode {text : String} {s : Structure} (h : decode text = .ok s) : Keyed s := by
  unfold decode at h
  split at h
  · cases h
  · split at h
    · cases h
    · exact keyed_of_ofDraft h

/-- The structures that operations lead to. -/
inductive Reachable : Structure → Prop where
  | empty : Reachable .empty
  | registerClass {s : Structure} (h : Reachable s) (name source : String)
      (traits : List String) : Reachable (s.register { name, source, traits })
  | registerContainer {s : Structure} (h : Reachable s) (name capability : String) :
      Reachable (s.register { name, capability })
  | addFunction {s s' : Structure} (h : Reachable s) {name tag builder package : String}
      {attrs : List AttributeDescriptor} {produced : String}
      (added : s.addFunction name tag builder package attrs produced = .ok s') : Reachable s'
  | merge {s other : Structure} (h : Reachable s) (ho : Reachable other) :
      Reachable (s.merge other)
  | setRuntime {s : Structure} (h : Reachable s) (runtime : String) :
      Reachable { s with runtime }
  | decode {text : String} {s : Structure} (read : decode text = .ok s) : Reachable s

theorem Reachable.keyed {s : Structure} (h : Reachable s) : Keyed s := by
  induction h with
  | empty => intro key c hc; cases hc
  | registerClass _ name source traits ih => exact ih.register _
  | registerContainer _ name capability ih => exact ih.register _
  | addFunction _ added ih => exact ih.addFunction added
  | merge _ _ ih iho => exact ih.merge iho
  | setRuntime _ runtime ih => exact ih
  | decode read => exact keyed_of_decode read

/-- **Every structure that operations lead to is read back as it was stored**, so that no two of them
are stored alike. -/
theorem reachable_round_trip {s : Structure} (h : Reachable s) :
    decode s.encode = .ok s ∧ ∀ s', Reachable s' → s'.encode = s.encode → s' = s := by
  have hs := decode_encode_of_keyed h.keyed
  refine ⟨hs, fun s' h' he => ?_⟩
  have hs' := decode_encode_of_keyed h'.keyed
  rw [he, hs] at hs'
  exact (Except.ok.inj hs').symm

theorem reachable_round_trip_escapes :
    let s : Structure := { Structure.merge
        (Structure.register .empty { name := "x.\"<\u2028\\", traits := ["", "\n&"] })
        (Structure.register .empty { name := "", capability := "\u212A" }) with runtime := "" }
    Reachable s ∧ decode s.encode = .ok s := by
  have h : Reachable { Structure.merge
      (Structure.register .empty { name := "x.\"<\u2028\\", traits := ["", "\n&"] })
      (Structure.register .empty { name := "", capability := "\u212A" }) with runtime := "" } :=
    .setRuntime (.merge (.registerClass .empty _ _ _) (.registerContainer .empty _ _)) ""
  exact ⟨h, (reachable_round_trip h).1⟩

end TaskBuilders.Structure
