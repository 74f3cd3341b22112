import TaskBuilders.Proofs.Structure.Document

/-!
# Walks over a document

Reading a document walks over its classes in whatever order their table gives them, and changes the
table as it goes: it drops classes and builders that are `null`, fills in what a class lacks, and
stops at the first class that is stored under a name that is not its own. Which class stops it
depends on the order; whether one does, and what is read otherwise, does not.

* `Visits`, `Visits.settle` — a walk over a document, in an order of its classes and builders
* `visitClass_spec`, `visits_spec` — what one visit does, and what visits to some classes lead to
* `exists_visits_of_misplaced` — each misplaced class may be the one that stops a walk
* `decode_accepts_consistent` — reading accepts the documents without misplaced classes, and what it
  reads is their normal form
-/

namespace TaskBuilders.Structure

/-! ## Visits -/

/-- Drops the builders that are `null` from a table, whose tags are met in the order `tags`. -/
def dropMissing (fs : Dict (Option BuilderFunction)) (tags : List String) :
    Dict (Option BuilderFunction) :=
  tags.foldl (fun fs tag => if (fs.get? tag).join.isNone then fs.erase tag else fs) fs

/-- Visits a class: drops it when it is `null`, names it after its key when it has no name, stops
when it has another one, and fills in what it lacks. -/
def visitClass (tags : String → List String) (t : Dict (Option StoredClass)) (key : String) :
    Except StructureError (Dict (Option StoredClass)) :=
  match (t.get? key).join with
  | none => .ok (t.erase key)
  | some c =>
    let c := if c.name = "" then { c with name := key } else c
    if c.name ≠ key then .error (.misplacedClass c.name key)
    else .ok (t.insert key (some { c with
      functions := some (dropMissing (c.functions.getD ∅) (tags key))
      traits := some (c.traits.getD []) }))

/-- An order in which the classes of a document are visited, and the builders of each. -/
structure Visits (doc : Document) where
  keys : List String
  keys_perm : keys.Perm doc.classes.keys
  tags : String → List String
  tags_perm : ∀ key c, doc.classes.get? key = some (some c) →
    (tags key).Perm (c.functions.getD ∅).keys

/-- The order of the keys. -/
instance (doc : Document) : Inhabited (Visits doc) where
  default :=
    { keys := doc.classes.keys
      keys_perm := .refl _
      tags := fun key => ((doc.classes.get? key).join.elim ∅ (·.functions.getD ∅)).keys
      tags_perm := fun key c hc => by rw [hc]; exact .refl _ }

/-- Visits the classes of a document one after the other. -/
def Visits.settle {doc : Document} (v : Visits doc) : Except StructureError Document :=
  (v.keys.foldlM (visitClass v.tags) doc.classes).map ({ doc with classes := · })

/-! ## One class -/

/-- A walk over builders keeps those that are there. -/
theorem get?_dropMissing (tag : String) :
    ∀ (tags : List String) (fs : Dict (Option BuilderFunction)), (dropMissing fs tags).get? tag =
      if tag ∈ tags then (fs.get? tag).join.map some else fs.get? tag
  | [], _ => (if_neg List.not_mem_nil).symm
  | t :: tags, fs => by
    rw [dropMissing, List.foldl_cons]
    refine (get?_dropMissing tag tags _).trans ?_
    by_cases hnone : (fs.get? t).join.isNone
    · rw [if_pos hnone, Dict.get?_erase]
      by_cases htag : tag = t
      · rw [Option.isNone_iff_eq_none] at hnone
        subst htag
        rw [if_pos rfl, if_pos List.mem_cons_self, hnone]
        exact ite_self _
      · simp only [List.mem_cons, htag, false_or, if_false]
    · rw [if_neg hnone]
      by_cases htag : tag = t
      · -- a builder that is there stays, whether its tag is met again or not
        obtain ⟨f, hf⟩ := Option.ne_none_iff_exists'.1 fun h =>
          hnone (Option.isNone_iff_eq_none.2 h)
        subst htag
        rw [if_pos List.mem_cons_self, Option.join_eq_some_iff.1 hf]
        exact ite_self _
      · simp only [List.mem_cons, htag, false_or]

/-- A walk over all builders of a table leaves those that are there. -/
theorem dropMissing_eq {fs : Dict (Option BuilderFunction)} {tags : List String}
    (h : tags.Perm fs.keys) :
    dropMissing fs tags = (presentEntries fs).map fun _ f => some f := by
  refine Dict.ext_get? fun tag => ?_
  rw [get?_dropMissing, Dict.get?_map, get?_presentEntries]
  by_cases htag : tag ∈ tags
  · rw [if_pos htag]
  · have hnone : fs.get? tag = none := by
      rw [Option.eq_none_iff_forall_ne_some]
      exact fun f hf => htag (h.mem_iff.2 ((fs.mem_keys_iff tag).2 ⟨f, hf⟩))
    rw [if_neg htag, hnone]
    rfl

/-- What becomes of a class that is visited under a key. -/
def StoredClass.filled (tags : List String) (key : String) (c : StoredClass) : StoredClass :=
  { c with name := key
           traits := some (c.traits.getD [])
           functions := some (dropMissing (c.functions.getD ∅) tags) }

/-- **What a visit can do**: stop at a misplaced class, or settle what stands under its key. -/
theorem visitClass_spec (tags : String → List String) (t : Dict (Option StoredClass))
    (key : String) :
    (∃ name, Misplaced t key name ∧ visitClass tags t key = .error (.misplacedClass name key)) ∨
    (∀ name, ¬ Misplaced t key name) ∧ ∃ t', visitClass tags t key = .ok t' ∧
      ∀ k, t'.get? k =
        if k = key then (t.get? key).join.map fun c => some (c.filled (tags key) key)
        else t.get? k := by
  unfold visitClass
  cases hc : (t.get? key).join with
  | none =>
    refine Or.inr ⟨?_, _, rfl, Dict.get?_erase t key⟩
    rintro name ⟨c, hget, _⟩
    rw [hget] at hc
    cases hc
  | some c =>
    have hget := Option.join_eq_some_iff.1 hc
    have hmisplaced : ∀ name, Misplaced t key name ↔ c.name = name ∧ name ≠ "" ∧ name ≠ key := by
      intro name
      refine ⟨?_, fun h => ⟨c, hget, h⟩⟩
      rintro ⟨c', hget', h⟩
      rw [hget, Option.some.injEq, Option.some.injEq] at hget'
      rwa [hget']
    simp only [hmisplaced]
    by_cases hempty : c.name = ""
    · rw [if_pos hempty, if_neg (fun h => h rfl)]
      exact Or.inr ⟨fun name h => h.2.1 (h.1.symm.trans hempty), _, rfl,
        fun k => Dict.get?_insert t key k _⟩
    · rw [if_neg hempty]
      by_cases hname : c.name = key
      · rw [if_neg (fun h => h hname)]
        refine Or.inr ⟨fun name h => h.2.2 (h.1.symm.trans hname), _, rfl, fun k => ?_⟩
        rw [Dict.get?_insert, Option.map_some, StoredClass.filled, ← hname]
      · rw [if_pos hname]
        exact Or.inl ⟨c.name, ⟨rfl, hempty, hname⟩, rfl⟩

/-! ## All classes -/

/-- **What a walk leads to**: it stops at one of the misplaced classes among those it visits, or
there are none and all of them are settled. -/
theorem visits_spec (tags : String → List String) :
    ∀ (keys : List String), keys.Nodup → ∀ t : Dict (Option StoredClass),
    (∃ key ∈ keys, ∃ name, Misplaced t key name ∧
      keys.foldlM (visitClass tags) t = .error (.misplacedClass name key)) ∨
    (∀ key ∈ keys, ∀ name, ¬ Misplaced t key name) ∧
      ∃ t', keys.foldlM (visitClass tags) t = .ok t' ∧
        ∀ k, t'.get? k =
          if k ∈ keys then (t.get? k).join.map fun c => some (c.filled (tags k) k)
          else t.get? k
  | [], _, t => Or.inr ⟨nofun, t, rfl, fun _ => (if_neg List.not_mem_nil).symm⟩
  | key :: keys, hnodup, t => by
    obtain ⟨hkey, hnodup⟩ := List.nodup_cons.1 hnodup
    rw [List.foldlM_cons]
    rcases visitClass_spec tags t key with ⟨name, hname, hstop⟩ | ⟨hfits, t₁, hvisit, ht₁⟩
    · rw [hstop]
      exact Or.inl ⟨key, List.mem_cons_self, name, hname, rfl⟩
    · rw [hvisit]
      -- the first visit leaves the classes under the other keys alone
      have hrest : ∀ k ∈ keys, t₁.get? k = t.get? k := fun k hk => by
        rw [ht₁, if_neg fun he : k = key => hkey (he ▸ hk)]
      have hmisplaced : ∀ k ∈ keys, ∀ name, Misplaced t₁ k name ↔ Misplaced t k name := by
        intro k hk name
        rw [Misplaced, Misplaced, hrest k hk]
      rcases visits_spec tags keys hnodup t₁ with
        ⟨k, hk, name, hname, hstop⟩ | ⟨hall, t', hrun, ht'⟩
      · exact Or.inl ⟨k, List.mem_cons_of_mem key hk, name, (hmisplaced k hk name).1 hname, hstop⟩
      · refine Or.inr ⟨?_, t', hrun, fun k => ?_⟩
        · intro k hk name hname
          rcases List.mem_cons.1 hk with rfl | hk
          · exact hfits name hname
          · exact hall k hk name ((hmisplaced k hk name).2 hname)
        · rw [ht']
          by_cases hk : k ∈ keys
          · rw [if_pos hk, if_pos (List.mem_cons_of_mem key hk), hrest k hk]
          · rw [if_neg hk, ht₁]
            by_cases he : k = key
            · rw [if_pos he, if_pos (he ▸ List.mem_cons_self), he]
            · rw [if_neg he, if_neg fun h => (List.mem_cons.1 h).elim he hk]

/-! ## The structure that is read -/

/-- A class as a document holds it when nothing is absent. -/
def StoredClass.ofClass (c : StructureClass) : StoredClass :=
  ⟨c.name, c.source, c.capability, some c.traits, some (c.functions.map fun _ f => some f)⟩

/-- The document in which a structure has all its parts. -/
def Document.ofStructure (s : Structure) : Document :=
  ⟨s.runtime, s.classes.map fun _ c => some (StoredClass.ofClass c)⟩

/-- A walk that does not stop ends with the structure that is read. -/
theorem Visits.settle_spec {doc : Document} (v : Visits doc) :
    (∃ key name, Misplaced doc.classes key name ∧
      v.settle = .error (.misplacedClass name key)) ∨
    (∀ key name, ¬ Misplaced doc.classes key name) ∧
      ∀ s : Structure, s.runtime = doc.runtime →
        (∀ key, s.class? key = (doc.classes.get? key).join.map fun c => c.draft.toClass key) →
        v.settle = .ok (.ofStructure s) := by
  have hmem : ∀ key c, doc.classes.get? key = some c → key ∈ v.keys := fun key c hc =>
    v.keys_perm.mem_iff.2 ((doc.classes.mem_keys_iff key).2 ⟨c, hc⟩)
  unfold Visits.settle
  rcases visits_spec v.tags v.keys (v.keys_perm.nodup_iff.2 doc.classes.nodup_keys) doc.classes
    with ⟨key, _, name, hname, hstop⟩ | ⟨hall, t, hrun, ht⟩
  · rw [hstop]
    exact Or.inl ⟨key, name, hname, rfl⟩
  · refine Or.inr ⟨?_, fun s hruntime hclass => ?_⟩
    · rintro key name ⟨c, hc, hname⟩
      exact hall key (hmem key _ hc) name ⟨c, hc, hname⟩
    · have htable : t = (s.classes.map fun _ c => some (StoredClass.ofClass c)) := by
        refine Dict.ext_get? fun key => ?_
        have hkey : s.classes.get? key = _ := hclass key
        rw [ht, Dict.get?_map, hkey]
        cases hc : doc.classes.get? key with
        | none => exact ite_self none
        | some c =>
          rw [if_pos (hmem key c hc)]
          cases c with
          | none => rfl
          | some c =>
            show some (some (c.filled (v.tags key) key)) =
              some (some (StoredClass.ofClass (c.draft.toClass key)))
            rw [StoredClass.filled, dropMissing_eq (v.tags_perm key c hc)]
            rfl
      rw [hrun, htable]
      show Except.ok (Document.mk doc.runtime _) = Except.ok (Document.mk s.runtime _)
      rw [hruntime]

/-- Every misplaced class stops the walks that visit it first. -/
theorem exists_visits_of_misplaced {doc : Document} {key name : String}
    (h : Misplaced doc.classes key name) :
    ∃ v : Visits doc, v.settle = .error (.misplacedClass name key) := by
  obtain ⟨c, hc, rfl, hname⟩ := h
  have hkey : key ∈ doc.classes.keys := (doc.classes.mem_keys_iff key).2 ⟨_, hc⟩
  let v : Visits doc := { (default : Visits doc) with
    keys := key :: doc.classes.keys.erase key
    keys_perm := (List.perm_cons_erase hkey).symm }
  refine ⟨v, ?_⟩
  show ((key :: doc.classes.keys.erase key).foldlM (visitClass v.tags) doc.classes).map _ = _
  rw [List.foldlM_cons]
  rcases visitClass_spec v.tags doc.classes key with ⟨name, ⟨c', hc', rfl, _⟩, hstop⟩ | ⟨hfits, _⟩
  · rw [hc, Option.some.injEq, Option.some.injEq] at hc'
    rw [hstop, hc']
    rfl
  · exact absurd ⟨c, hc, rfl, hname⟩ (hfits c.name)

/-- **Reading accepts the documents without misplaced classes, and gives their normal form.** In
whatever order the classes and builders of a document are visited, the walk stops if and only if a
class is misplaced, with an error that names such a class; otherwise it ends with the structure that
is read, which is the normal form of the document and is read back as it is stored. -/
theorem decode_accepts_consistent {text : String} {doc : Document} (h : document? text = some doc)
    (v : Visits doc) :
    ((∃ e, decode text = .error e) ↔ ∃ key name, Misplaced doc.classes key name) ∧
    ((∃ e, v.settle = .error e) ↔ ∃ key name, Misplaced doc.classes key name) ∧
    (∀ e, decode text = .error e ∨ v.settle = .error e →
      ∃ key name, Misplaced doc.classes key name ∧ e = .misplacedClass name key) ∧
    ((¬ ∃ key name, Misplaced doc.classes key name) →
      ∃ s, decode text = .ok s ∧ v.settle = .ok (.ofStructure s) ∧ doc.NormalForm s ∧
        decode s.encode = .ok s) := by
  have hdecode := decode_of_document? h
  rcases ofDraft_spec doc with ⟨key, name, hmis, hread⟩ | ⟨hnone, s, hread, hruntime, hclass⟩
  · -- a class is misplaced, and each of the two stops at one
    rcases v.settle_spec with ⟨key', name', hmis', hstop⟩ | ⟨hnone, _⟩
    · rw [hdecode, hread, hstop]
      refine ⟨⟨fun _ => ⟨key, name, hmis⟩, fun _ => ⟨_, rfl⟩⟩,
        ⟨fun _ => ⟨key, name, hmis⟩, fun _ => ⟨_, rfl⟩⟩, ?_,
        fun hno => (hno ⟨key, name, hmis⟩).elim⟩
      rintro e (he | he)
      · exact ⟨key, name, hmis, (Except.error.inj he).symm⟩
      · exact ⟨key', name', hmis', (Except.error.inj he).symm⟩
    · exact absurd hmis (hnone key name)
  · rcases v.settle_spec with ⟨key, name, hmis, _⟩ | ⟨_, hsettle⟩
    · exact absurd hmis (hnone key name)
    · have hno : ¬ ∃ key name, Misplaced doc.classes key name := fun ⟨key, name, hmis⟩ =>
        hnone key name hmis
      rw [hdecode, hread, hsettle s hruntime hclass]
      refine ⟨⟨nofun, fun hmis => (hno hmis).elim⟩, ⟨nofun, fun hmis => (hno hmis).elim⟩, ?_,
        fun _ => ⟨s, rfl, rfl, normalForm_of_class? hruntime hclass, ?_⟩⟩
      · rintro e (he | he) <;> cases he
      · exact decode_encode_of_keyed (keyed_of_ofDraft hread)

/-- A document with a class that is `null` and one without a name, whose builder is `null`. -/
def sparseDocument : String :=
  "\x7b\"classes\": \x7b\"x.A\": null, \"x.B\": \x7b\"functions\": \x7b\"f\": null\x7d\x7d\x7d\x7d"

theorem decode_accepts_consistent_sparse :
    ∃ doc s, document? sparseDocument = some doc ∧ decode sparseDocument = .ok s ∧
      doc.NormalForm s ∧ decode s.encode = .ok s ∧
      ∀ v : Visits doc, v.settle = .ok (.ofStructure s) := by
  obtain ⟨doc, hdoc⟩ : ∃ doc, document? sparseDocument = some doc :=
    Option.isSome_iff_exists.1 (by decide +kernel)
  have hread : (decode sparseDocument).isOk = true := by decide +kernel
  have hall := fun v : Visits doc => decode_accepts_consistent hdoc v
  -- a document that is read has no misplaced class
  have hno : ¬ ∃ key name, Misplaced doc.classes key name := by
    rw [← (hall default).1]
    rintro ⟨e, he⟩
    rw [he] at hread
    cases hread
  obtain ⟨s, hs, _, hnormal, hback⟩ := (hall default).2.2.2 hno
  refine ⟨doc, s, hdoc, hs, hnormal, hback, fun v => ?_⟩
  obtain ⟨s', hs', hsettle, _⟩ := (hall v).2.2.2 hno
  rw [hs] at hs'
  rw [hsettle, ← Except.ok.inj hs']

end TaskBuilders.Structure
