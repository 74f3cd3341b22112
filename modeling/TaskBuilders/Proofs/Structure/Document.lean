import Mathlib.Tactic.SplitIfs
import TaskBuilders.Proofs.Structure.RoundTrip

/-!
# What a document is read as

A document may hold less than a structure does: `null` in place of a class or of a builder, classes
without a name, without a list of traits or without a table of builders. Here is what a text holds,
before anything is filled in, and what is read of it.

* `Document`, `document?` — what a text holds, with everything that may be absent from it
* `decode_of_document?`, `decode_eq_unreadable_iff` — reading a text is reading its document
* `Document.NormalForm` — a structure has what is there in a document, filled in
* `ofDraft_spec` — a misplaced class is refused, and without one a structure is read
-/

namespace TaskBuilders.Structure

open Json

/-! ## Documents -/

/-- A class as a document holds it; the list of traits and the table of builders may be absent. -/
structure StoredClass where
  name : String := ""
  source : String := ""
  capability : String := ""
  traits : Option (List String) := none
  functions : Option (Dict (Option BuilderFunction)) := none

/-- What a document holds; a class may be `null`. -/
structure Document where
  runtime : String := ""
  classes : Dict (Option StoredClass) := ∅

/-- Reads one member of a class; `null` takes away a list or a table. -/
def readStoredMember (c : StoredClass) (k : String) (j : Json) : Option StoredClass :=
  if keyMatches k "name" then (readText c.name j).map ({ c with name := · })
  else if keyMatches k "source" then (readText c.source j).map ({ c with source := · })
  else if keyMatches k "capability" then (readText c.capability j).map ({ c with capability := · })
  else if keyMatches k "traits" then
    match j with
    | .null => some { c with traits := none }
    | .array js => (readTexts (c.traits.getD []) js).map ({ c with traits := some · })
    | _ => none
  else if keyMatches k "functions" then
    match j with
    | .null => some { c with functions := none }
    | .object ms =>
      (readEntries readFunction (c.functions.getD ∅) ms).map ({ c with functions := some · })
    | _ => none
  else some c

/-- Reads a class of a document; `null` stands for none. -/
def readStored : Json → Option (Option StoredClass)
  | .null => some none
  | .object ms => (readMembers readStoredMember {} ms).map some
  | _ => none

/-- Reads one member of a document. -/
def readDocumentMember (d : Document) (k : String) (j : Json) : Option Document :=
  if keyMatches k "runtime" then (readText d.runtime j).map ({ d with runtime := · })
  else if keyMatches k "classes" then
    match j with
    | .null => some { d with classes := ∅ }
    | .object ms => (readEntries readStored d.classes ms).map ({ d with classes := · })
    | _ => none
  else some d

/-- Reads a document; `null` is the one without classes. -/
def readDocument : Json → Option Document
  | .null => some {}
  | .object ms => readMembers readDocumentMember {} ms
  | _ => none

/-- The document that a text begins with, if there is one. -/
def document? (text : String) : Option Document :=
  (parseFirst text).bind fun x => readDocument x.1

/-! ### Drafts of documents -/

/-- The draft of a class, in which what is absent is empty. -/
def StoredClass.draft (c : StoredClass) : ClassDraft :=
  ⟨c.name, c.source, c.capability, c.traits.getD [], c.functions.getD ∅⟩

/-- The draft of a document. -/
def Document.draft (d : Document) : Draft :=
  ⟨d.runtime, d.classes.map fun _ c => c.map StoredClass.draft⟩

section Simulation

variable {σ τ : Type} {f : σ → τ}

/-- Members that are read alike one by one are read alike in a row. -/
theorem map_readMembers {step : σ → String → Json → Option σ} {step' : τ → String → Json → Option τ}
    (h : ∀ c k j, (step c k j).map f = step' (f c) k j) :
    ∀ (ms : List (String × Json)) (c : σ),
      (readMembers step c ms).map f = readMembers step' (f c) ms
  | [], _ => rfl
  | (k, j) :: ms, c => by
    have hk := h c k j
    cases hs : step c k j with
    | none =>
      rw [hs, Option.map_none] at hk
      simp only [readMembers, List.foldlM_cons, hs, ← hk]
      rfl
    | some c' =>
      rw [hs, Option.map_some] at hk
      rw [readMembers_cons hs, readMembers_cons hk.symm, map_readMembers h ms c']

/-- Values that are read alike make tables that are read alike. -/
theorem map_readEntries {read : Json → Option σ} {read' : Json → Option τ}
    (h : ∀ j, (read j).map f = read' j) :
    ∀ (ms : List (String × Json)) (before : Dict σ),
      (readEntries read before ms).map (Dict.map fun _ => f) =
        readEntries read' (before.map fun _ => f) ms
  | [], _ => rfl
  | (k, j) :: ms, before => by
    have hj := h j
    cases hr : read j with
    | none =>
      rw [hr, Option.map_none] at hj
      simp only [readEntries, hr, ← hj]
      rfl
    | some a =>
      rw [hr, Option.map_some] at hj
      simp only [readEntries, hr, ← hj, Option.bind_eq_bind, Option.bind_some]
      rw [map_readEntries h ms, Dict.map_insert]

end Simulation

theorem readStoredMember_draft (c : StoredClass) (k : String) (j : Json) :
    (readStoredMember c k j).map StoredClass.draft = readClassMember c.draft k j := by
  unfold readStoredMember readClassMember
  split_ifs
  · simp only [Option.map_map]; rfl
  · simp only [Option.map_map]; rfl
  · simp only [Option.map_map]; rfl
  · cases j <;> simp only [Option.map_map, Option.map_none] <;> rfl
  · cases j <;> simp only [Option.map_map, Option.map_none] <;> rfl
  · rfl

theorem readStored_draft (j : Json) :
    (readStored j).map (Option.map StoredClass.draft) = readClass j := by
  cases j with
  | object ms =>
    show ((readMembers readStoredMember {} ms).map some).map _ =
      (readMembers readClassMember (StoredClass.draft {}) ms).map some
    rw [← map_readMembers readStoredMember_draft, Option.map_map, Option.map_map]
    rfl
  | _ => rfl

theorem readDocumentMember_draft (d : Document) (k : String) (j : Json) :
    (readDocumentMember d k j).map Document.draft = readMember d.draft k j := by
  unfold readDocumentMember readMember
  split_ifs
  · simp only [Option.map_map]; rfl
  · cases j with
    | object ms =>
      show ((readEntries readStored d.classes ms).map _).map _ =
        (readEntries readClass (d.classes.map fun _ c => c.map StoredClass.draft) ms).map _
      rw [← map_readEntries readStored_draft, Option.map_map, Option.map_map]
      rfl
    | _ => rfl
  · rfl

/-- A value is read as the draft of its document. -/
theorem readDocument_draft (j : Json) : (readDocument j).map Document.draft = readDraft j := by
  cases j with
  | object ms => exact map_readMembers readDocumentMember_draft ms {}
  | _ => rfl

/-- Reading a text is reading its document. -/
theorem decode_of_document? {text : String} {doc : Document} (h : document? text = some doc) :
    decode text = ofDraft doc.draft := by
  obtain ⟨⟨j, rest⟩, hparse, hread⟩ := Option.bind_eq_some_iff.1 h
  have hdraft : readDraft j = some doc.draft := by
    rw [← readDocument_draft, hread, Option.map_some]
  rw [decode, hparse]
  dsimp only
  rw [hdraft]

/-! ## Reading a document -/

/-- A class stands under a key and has another name than the key. -/
def Misplaced (t : Dict (Option StoredClass)) (key name : String) : Prop :=
  ∃ c, t.get? key = some (some c) ∧ c.name = name ∧ name ≠ "" ∧ name ≠ key

/-- What stands under a key of the entries that are there. -/
theorem get?_presentEntries {α : Type} (d : Dict (Option α)) (k : String) :
    (presentEntries d).get? k = (d.get? k).join := by
  have hascending : (d.entries.filterMap fun e => e.2.map (e.1, ·)).Pairwise (·.1 < ·.1) := by
    refine List.Pairwise.filterMap _ (fun e e' he b hb b' hb' => ?_) d.ascending
    obtain ⟨a, _, rfl⟩ := Option.map_eq_some_iff.1 hb
    obtain ⟨a', _, rfl⟩ := Option.map_eq_some_iff.1 hb'
    exact he
  refine Option.ext fun a => ?_
  rw [presentEntries, Dict.ofList, Dict.get?_foldl_insert k _ _ hascending]
  show (List.lookup k _).or none = some a ↔ _
  rw [Option.or_none, ← Dict.mem_iff_lookup hascending, List.mem_filterMap, Option.join_eq_some_iff,
    ← Dict.mem_entries_iff]
  constructor
  · rintro ⟨⟨k', _ | a'⟩, he, ha⟩
    · cases ha
    · cases ha
      exact he
  · intro he
    exact ⟨_, he, rfl⟩

/-- A structure has the classes of a document that are not `null`, each under its key and named
after it, with its traits in order and its builders that are not `null`. -/
structure Document.NormalForm (doc : Document) (s : Structure) : Prop where
  runtime : s.runtime = doc.runtime
  classes : ∀ key c', s.class? key = some c' ↔ ∃ c, doc.classes.get? key = some (some c) ∧
    c'.name = key ∧ c'.source = c.source ∧ c'.capability = c.capability ∧
    c'.traits = c.traits.getD [] ∧
    ∀ tag f, c'.functions.get? tag = some f ↔ (c.functions.getD ∅).get? tag = some (some f)

/-- What drafts of documents lead to. -/
theorem ofDraft_spec (doc : Document) :
    (∃ key name, Misplaced doc.classes key name ∧
      ofDraft doc.draft = .error (.misplacedClass name key)) ∨
    (∀ key name, ¬ Misplaced doc.classes key name) ∧
      ∃ s, ofDraft doc.draft = .ok s ∧ s.runtime = doc.runtime ∧
        ∀ key, s.class? key = (doc.classes.get? key).join.map fun c => c.draft.toClass key := by
  have hget : ∀ key, (presentEntries doc.draft.classes).get? key =
      (doc.classes.get? key).join.map StoredClass.draft := by
    intro key
    rw [get?_presentEntries, Document.draft, Dict.get?_map]
    rcases doc.classes.get? key with _ | _ | c <;> rfl
  simp only [ofDraft]
  split
  · next e he =>
    -- the class that is found stands in the document
    have hmem := (Dict.mem_entries_iff _ e.1 e.2).1 (List.mem_of_find?_eq_some he)
    rw [hget] at hmem
    obtain ⟨c, hc, hdraft⟩ := Option.map_eq_some_iff.1 hmem
    have hfits := List.find?_some he
    rw [Bool.not_eq_true', ClassDraft.fits, Bool.or_eq_false_iff, beq_eq_false_iff_ne,
      beq_eq_false_iff_ne] at hfits
    exact Or.inl ⟨e.1, e.2.name, ⟨c, Option.join_eq_some_iff.1 hc, hdraft ▸ rfl, hfits⟩, rfl⟩
  · next hnone =>
    refine Or.inr ⟨?_, _, rfl, rfl, fun key => ?_⟩
    · rintro key name ⟨c, hc, rfl, hempty, hname⟩
      have hmem : (key, c.draft) ∈ (presentEntries doc.draft.classes).entries := by
        rw [Dict.mem_entries_iff, hget, hc]
        rfl
      have hfits := List.find?_eq_none.1 hnone _ hmem
      refine hfits ?_
      rw [Bool.not_eq_true', ClassDraft.fits, Bool.or_eq_false_iff, beq_eq_false_iff_ne,
        beq_eq_false_iff_ne]
      exact ⟨hempty, hname⟩
    · show ((presentEntries doc.draft.classes).map ClassDraft.toClass).get? key = _
      rw [Dict.get?_map, hget, Option.map_map]
      rfl

/-- Texts that hold no document are the unreadable ones. -/
theorem decode_eq_unreadable_iff (text : String) :
    decode text = .error .unreadable ↔ document? text = none := by
  constructor
  · intro h
    cases hdoc : document? text with
    | none => rfl
    | some doc =>
      rw [decode_of_document? hdoc] at h
      rcases ofDraft_spec doc with ⟨_, _, _, hread⟩ | ⟨_, _, hread, _⟩
      · rw [hread] at h
        cases h
      · rw [hread] at h
        cases h
  · intro h
    rw [document?, Option.bind_eq_none_iff] at h
    rw [decode]
    cases hparse : parseFirst text with
    | none => rfl
    | some x =>
      have hdraft : readDraft x.1 = none := by
        rw [← readDocument_draft, h x hparse, Option.map_none]
      dsimp only
      rw [hdraft]

/-- A structure with the classes of the drafts of a document is its normal form. -/
theorem normalForm_of_class? {doc : Document} {s : Structure} (hruntime : s.runtime = doc.runtime)
    (hclass : ∀ key, s.class? key =
      (doc.classes.get? key).join.map fun c => c.draft.toClass key) : doc.NormalForm s := by
  refine ⟨hruntime, fun key c' => ?_⟩
  rw [hclass, Option.map_eq_some_iff]
  constructor
  · rintro ⟨c, hc, rfl⟩
    refine ⟨c, Option.join_eq_some_iff.1 hc, rfl, rfl, rfl, rfl, fun tag f => ?_⟩
    show (presentEntries (c.functions.getD ∅)).get? tag = some f ↔ _
    rw [get?_presentEntries, Option.join_eq_some_iff]
  · rintro ⟨c, hc, hname, hsource, hcapability, htraits, hfunctions⟩
    refine ⟨c, Option.join_eq_some_iff.2 hc, ?_⟩
    have hpresent : c'.functions = presentEntries (c.functions.getD ∅) := by
      refine Dict.ext_get? fun tag => Option.ext fun f => ?_
      rw [hfunctions, get?_presentEntries, Option.join_eq_some_iff]
    obtain ⟨name, source, capability, traits, functions⟩ := c'
    dsimp only at hname hsource hcapability htraits hpresent
    rw [hname, hsource, hcapability, htraits, hpresent]
    rfl

end TaskBuilders.Structure
