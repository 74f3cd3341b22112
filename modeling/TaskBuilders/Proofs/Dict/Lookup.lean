import TaskBuilders.Dict

/-!
# Looking into dictionaries

What every operation on dictionaries does to look-ups, and to the entries as a whole.

* `Dict.ext_get?` — a dictionary is its look-ups: two that answer every key alike are equal
* `Dict.entries_insert_of_none`, `Dict.entries_insert_of_some` — an insertion adds one entry or
  puts one in the place of another, and leaves the rest

The second kind of statement carries what is said of all values at once, such as the texts of all
files of a run.
-/

namespace TaskBuilders.Dict

universe u v

variable {α : Type u} {β : Type v}

/-! ## Entries -/

theorem lookup_cons_eq (k : String) (e : String × α) (es : List (String × α)) :
    (e :: es).lookup k = if k = e.1 then some e.2 else es.lookup k := by
  rw [List.lookup_cons]
  by_cases hk : k = e.1
  · rw [if_pos hk, beq_iff_eq.mpr hk]
  · rw [if_neg hk, beq_eq_false_iff_ne.mpr hk]

theorem lookup_insertEntry (k k' : String) (a : α) (es : List (String × α)) :
    (insertEntry k a es).lookup k' = if k' = k then some a else es.lookup k' := by
  induction es with
  | nil => rw [insertEntry, lookup_cons_eq]
  | cons e rest ih =>
    unfold insertEntry
    split
    · rw [lookup_cons_eq]
    · next hlt =>
      split
      · next hgt =>
        have hne : e.1 ≠ k := fun he => String.lt_irrefl k (he ▸ hgt)
        rw [lookup_cons_eq, ih, lookup_cons_eq]
        by_cases hk : k' = k
        · rw [if_pos hk, if_pos hk, if_neg (fun he => hne (he.symm.trans hk))]
        · rw [if_neg hk, if_neg hk]
      · next hle =>
        have hke : k = e.1 := String.le_antisymm (String.not_lt.1 hle) (String.not_lt.1 hlt)
        rw [lookup_cons_eq, lookup_cons_eq, ← hke]
        by_cases hk : k' = k
        · rw [if_pos hk, if_pos hk]
        · rw [if_neg hk, if_neg hk, if_neg hk]

/-- The keys of a dictionary are distinct. -/
theorem nodup_keys (d : Dict α) : d.keys.Nodup := by
  rw [keys, List.Nodup, List.pairwise_map]
  exact d.ascending.imp fun {a b} h (he : a.1 = b.1) => String.lt_irrefl b.1 (he ▸ h)

theorem nodup_entries (d : Dict α) : d.entries.Nodup := by
  rw [List.Nodup]
  exact d.ascending.imp fun {a b} h (he : a = b) => String.lt_irrefl b.1 (he ▸ h)

/-- In a list with ascending keys, a member is what its key looks up. -/
theorem mem_iff_lookup {es : List (String × α)} (h : es.Pairwise (·.1 < ·.1)) (k : String) (a : α) :
    (k, a) ∈ es ↔ es.lookup k = some a := by
  induction es with
  | nil => simp
  | cons e rest ih =>
    obtain ⟨hhead, htail⟩ := List.pairwise_cons.1 h
    rw [lookup_cons_eq, List.mem_cons]
    by_cases hk : k = e.1
    · rw [if_pos hk]
      constructor
      · rintro (he | he)
        · rw [← he]
        · exact absurd (hk ▸ hhead _ he) (String.lt_irrefl _)
      · intro he
        exact Or.inl (by rw [hk, ← Option.some.inj he])
    · rw [if_neg hk, ← ih htail]
      exact ⟨fun he => he.resolve_left fun h' => hk (by rw [← h']), Or.inr⟩

theorem mem_entries_iff (d : Dict α) (k : String) (a : α) :
    (k, a) ∈ d.entries ↔ d.get? k = some a := mem_iff_lookup d.ascending k a

theorem mem_keys_iff (d : Dict α) (k : String) : k ∈ d.keys ↔ ∃ a, d.get? k = some a := by
  unfold keys
  rw [List.mem_map]
  constructor
  · rintro ⟨⟨k', a⟩, he, rfl⟩
    exact ⟨a, (d.mem_entries_iff k' a).1 he⟩
  · rintro ⟨a, ha⟩
    exact ⟨(k, a), (d.mem_entries_iff k a).2 ha, rfl⟩

theorem mem_values_iff (d : Dict α) (a : α) : a ∈ d.values ↔ ∃ k, d.get? k = some a := by
  unfold values
  rw [List.mem_map]
  constructor
  · rintro ⟨⟨k, b⟩, he, rfl⟩
    exact ⟨k, (d.mem_entries_iff k b).1 he⟩
  · rintro ⟨k, hk⟩
    exact ⟨(k, a), (d.mem_entries_iff k a).2 hk, rfl⟩

theorem contains_iff (d : Dict α) (k : String) :
    d.contains k = true ↔ ∃ a, d.get? k = some a := by
  rw [contains, Option.isSome_iff_exists]

theorem eq_of_entries {d e : Dict α} (h : d.entries = e.entries) : d = e := by
  cases d
  cases e
  simp_all

/-- **A dictionary is its look-ups.** -/
theorem ext_get? {d e : Dict α} (h : ∀ k, d.get? k = e.get? k) : d = e := by
  refine eq_of_entries (List.Perm.eq_of_pairwise ?_ d.ascending e.ascending ?_)
  · intro a b _ _ hab hba
    exact absurd (String.lt_trans hab hba) (String.lt_irrefl _)
  · rw [List.perm_ext_iff_of_nodup d.nodup_entries e.nodup_entries]
    rintro ⟨k, a⟩
    rw [mem_entries_iff, mem_entries_iff, h]

/-! ## Operations -/

@[simp] theorem get?_empty (k : String) : (∅ : Dict α).get? k = none := rfl

theorem get?_insert (d : Dict α) (k k' : String) (a : α) :
    (d.insert k a).get? k' = if k' = k then some a else d.get? k' := lookup_insertEntry k k' a _

@[simp] theorem get?_insert_self (d : Dict α) (k : String) (a : α) :
    (d.insert k a).get? k = some a := by
  rw [get?_insert, if_pos rfl]

/-- What is looked up after an insertion was inserted, or was there before. -/
theorem get?_insert_cases {d : Dict α} {k k' : String} {a b : α}
    (h : (d.insert k a).get? k' = some b) : k' = k ∧ b = a ∨ d.get? k' = some b := by
  rw [get?_insert] at h
  by_cases hk : k' = k
  · rw [if_pos hk, Option.some.injEq] at h
    exact Or.inl ⟨hk, h.symm⟩
  · rw [if_neg hk] at h
    exact Or.inr h

theorem get?_insert_of_ne (d : Dict α) {k k' : String} (a : α) (h : k' ≠ k) :
    (d.insert k a).get? k' = d.get? k' := by
  rw [get?_insert, if_neg h]

/-- A key that has the value already. -/
theorem insert_of_some {d : Dict α} {k : String} {a : α} (h : d.get? k = some a) : d.insert k a = d := by
  refine ext_get? fun k' => ?_
  rw [get?_insert]
  by_cases hk : k' = k
  · rw [if_pos hk, hk, h]
  · rw [if_neg hk]

theorem insertNew_of_some {d : Dict α} {k : String} {b : α} (a : α) (h : d.get? k = some b) :
    d.insertNew k a = d := by
  rw [insertNew, if_pos ((d.contains_iff k).2 ⟨b, h⟩)]

theorem insertNew_of_none {d : Dict α} {k : String} (a : α) (h : d.get? k = none) :
    d.insertNew k a = d.insert k a := by
  rw [insertNew, if_neg]
  rw [contains, h]
  exact Bool.false_ne_true

theorem get?_insertNew (d : Dict α) (k k' : String) (a : α) :
    (d.insertNew k a).get? k' = if k' = k then some ((d.get? k).getD a) else d.get? k' := by
  cases h : d.get? k with
  | none => rw [insertNew_of_none a h, get?_insert, Option.getD_none]
  | some b =>
    rw [insertNew_of_some a h, Option.getD_some]
    by_cases hk : k' = k
    · rw [if_pos hk, hk, h]
    · rw [if_neg hk]

/-- What is there stays there. -/
theorem get?_insertNew_of_some {d : Dict α} {k : String} {b : α} (k' : String) (a : α)
    (h : d.get? k = some b) : (d.insertNew k' a).get? k = some b := by
  rw [get?_insertNew]
  by_cases hk : k = k'
  · rw [if_pos hk, ← hk, h, Option.getD_some]
  · rw [if_neg hk, h]

theorem get?_map (f : String → α → β) (d : Dict α) (k : String) :
    (d.map f).get? k = (d.get? k).map (f k) := by
  show (d.entries.map fun e => (e.1, f e.1 e.2)).lookup k = (d.entries.lookup k).map (f k)
  induction d.entries with
  | nil => rfl
  | cons e rest ih =>
    rw [List.map_cons, lookup_cons_eq, lookup_cons_eq, ih]
    by_cases hk : k = e.1
    · rw [if_pos hk, if_pos hk, hk, Option.map_some]
    · rw [if_neg hk, if_neg hk]

theorem map_id (d : Dict α) : (d.map fun _ a => a) = d :=
  ext_get? fun k => by rw [get?_map, Option.map_id']

/-- A value is changed before or after it is put under its key. -/
theorem map_insert (f : String → α → β) (d : Dict α) (k : String) (a : α) :
    (d.insert k a).map f = (d.map f).insert k (f k a) := by
  refine ext_get? fun k' => ?_
  rw [get?_map, get?_insert, get?_insert, get?_map]
  by_cases hk : k' = k
  · rw [if_pos hk, if_pos hk, hk, Option.map_some]
  · rw [if_neg hk, if_neg hk]

theorem modify_of_some {d : Dict α} {k : String} {a : α} (f : α → α) (h : d.get? k = some a) :
    d.modify k f = d.insert k (f a) := by
  rw [modify, h]

theorem get?_modify (d : Dict α) (k k' : String) (f : α → α) :
    (d.modify k f).get? k' = if k' = k then (d.get? k).map f else d.get? k' := by
  cases h : d.get? k with
  | none =>
    rw [modify, h, Option.map_none]
    by_cases hk : k' = k
    · rw [if_pos hk, hk, h]
    · rw [if_neg hk]
  | some a => rw [modify_of_some f h, get?_insert, Option.map_some]

theorem lookup_filter_ne (k k' : String) (es : List (String × α)) :
    (es.filter fun e => e.1 != k).lookup k' = if k' = k then none else es.lookup k' := by
  induction es with
  | nil => exact (ite_self _).symm
  | cons e es ih =>
    rw [List.filter_cons, lookup_cons_eq]
    by_cases he : e.1 = k
    · rw [if_neg (by simp [he]), ih]
      by_cases hk : k' = k
      · rw [if_pos hk, if_pos hk]
      · rw [if_neg hk, if_neg hk, if_neg fun h => hk (h.trans he)]
    · rw [if_pos (by simp [he]), lookup_cons_eq, ih]
      by_cases hk : k' = e.1
      · rw [if_pos hk, if_pos hk, if_neg fun h => he (hk.symm.trans h)]
      · rw [if_neg hk, if_neg hk]

theorem get?_erase (d : Dict α) (k k' : String) :
    (d.erase k).get? k' = if k' = k then none else d.get? k' := lookup_filter_ne k k' d.entries

theorem get?_foldl_erase (k : String) : ∀ (ks : List String) (d : Dict α),
    (ks.foldl erase d).get? k = if k ∈ ks then none else d.get? k
  | [], _ => (if_neg List.not_mem_nil).symm
  | k' :: ks, d => by
    rw [List.foldl_cons, get?_foldl_erase k ks, get?_erase]
    by_cases hk : k = k'
    · rw [if_pos hk, ite_self, if_pos (hk ▸ List.mem_cons_self)]
    · simp only [List.mem_cons, hk, false_or, if_false]

theorem mem_of_get?_foldl_insert {k : String} {a : α} :
    ∀ (es : List (String × α)) (d : Dict α),
      (es.foldl (fun d e => d.insert e.1 e.2) d).get? k = some a → (k, a) ∈ es ∨ d.get? k = some a
  | [], _, h => Or.inr h
  | e :: es, d, h => by
    rcases mem_of_get?_foldl_insert es (d.insert e.1 e.2) h with hm | hm
    · exact Or.inl (List.mem_cons_of_mem e hm)
    · rcases get?_insert_cases hm with ⟨rfl, rfl⟩ | hm
      · exact Or.inl List.mem_cons_self
      · exact Or.inr hm

/-- What a dictionary made from entries looks up is one of them. -/
theorem mem_of_get?_ofList {es : List (String × α)} {k : String} {a : α}
    (h : (ofList es).get? k = some a) : (k, a) ∈ es :=
  (mem_of_get?_foldl_insert es ∅ h).resolve_right (by rw [get?_empty]; nofun)

/-- Of the entries with one key the last counts. -/
theorem get?_ofList (es : List (String × α)) (k : String) :
    (ofList es).get? k = es.reverse.lookup k := by
  have hfold : ∀ (es : List (String × α)) (d : Dict α),
      (es.foldl (fun d e => d.insert e.1 e.2) d).get? k = (es.reverse.lookup k).or (d.get? k) := by
    intro es
    induction es with
    | nil => exact fun _ => rfl
    | cons e es ih =>
      intro d
      rw [List.foldl_cons, ih, get?_insert, List.reverse_cons, List.lookup_append, lookup_cons_eq,
        Option.or_assoc]
      by_cases hk : k = e.1
      · rw [if_pos hk, if_pos hk, Option.some_or]
      · rw [if_neg hk, if_neg hk, List.lookup_nil, Option.none_or]
  rw [ofList, hfold]
  exact Option.or_none

theorem get?_foldl_insert (k : String) : ∀ (es : List (String × α)) (d : Dict α),
    es.Pairwise (·.1 < ·.1) →
    (es.foldl (fun d e => d.insert e.1 e.2) d).get? k = (es.lookup k).or (d.get? k)
  | [], _, _ => rfl
  | e :: es, d, h => by
    obtain ⟨hhead, htail⟩ := List.pairwise_cons.1 h
    rw [List.foldl_cons, get?_foldl_insert k es _ htail, get?_insert, lookup_cons_eq]
    by_cases hk : k = e.1
    · have hnone : es.lookup k = none := by
        cases hl : es.lookup k with
        | none => rfl
        | some a =>
          have hmem := (mem_iff_lookup htail k a).2 hl
          exact absurd (hk ▸ hhead _ hmem) (String.lt_irrefl _)
      rw [if_pos hk, if_pos hk, hnone, Option.none_or, Option.some_or]
    · rw [if_neg hk, if_neg hk]

/-- A dictionary is made again from its entries. -/
theorem ofList_entries (d : Dict α) : ofList d.entries = d := by
  refine ext_get? fun k => ?_
  rw [ofList, get?_foldl_insert k d.entries empty d.ascending]
  exact Option.or_none

/-! ## An insertion as a whole -/

/-- A new key adds its entry to the others. -/
theorem entries_insert_of_none {d : Dict α} {k : String} (a : α) (h : d.get? k = none) :
    (d.insert k a).entries.Perm ((k, a) :: d.entries) := by
  have hk : (k, a) ∉ d.entries := fun hm => by
    rw [mem_entries_iff, h] at hm
    cases hm
  rw [List.perm_ext_iff_of_nodup (d.insert k a).nodup_entries
    (List.nodup_cons.2 ⟨hk, d.nodup_entries⟩)]
  rintro ⟨k', b⟩
  rw [mem_entries_iff, get?_insert, List.mem_cons, mem_entries_iff, Prod.mk.injEq]
  by_cases hkk : k' = k
  · rw [if_pos hkk, hkk, h, Option.some.injEq]
    exact ⟨fun hab => Or.inl ⟨rfl, hab.symm⟩, fun hab => (hab.resolve_right (by simp)).2.symm⟩
  · rw [if_neg hkk]
    exact ⟨Or.inr, fun hab => hab.resolve_left fun h' => hkk h'.1⟩

/-- A key that is there gets its new value in place of the old one. -/
theorem entries_insert_of_some {d : Dict α} {k : String} {b : α} (a : α) (h : d.get? k = some b) :
    ∃ rest, d.entries.Perm ((k, b) :: rest) ∧ (d.insert k a).entries.Perm ((k, a) :: rest) := by
  -- the rest is what other keys look up, before and after
  let rest := (d.filter fun k' _ => k' != k)
  have hmem : ∀ k' c, (k', c) ∈ rest.entries ↔ d.get? k' = some c ∧ k' ≠ k := by
    intro k' c
    show (k', c) ∈ d.entries.filter _ ↔ _
    rw [List.mem_filter, mem_entries_iff, bne_iff_ne]
  have hnot : ∀ c, (k, c) ∉ rest.entries := fun c hc => ((hmem k c).1 hc).2 rfl
  refine ⟨rest.entries, ?_, ?_⟩
  · rw [List.perm_ext_iff_of_nodup d.nodup_entries
      (List.nodup_cons.2 ⟨hnot b, rest.nodup_entries⟩)]
    rintro ⟨k', c⟩
    rw [mem_entries_iff, List.mem_cons, hmem, Prod.mk.injEq]
    by_cases hk : k' = k
    · rw [hk, h, Option.some.injEq]
      exact ⟨fun hc => Or.inl ⟨rfl, hc.symm⟩, fun hc => (hc.resolve_right (by simp)).2.symm⟩
    · exact ⟨fun hc => Or.inr ⟨hc, hk⟩, fun hc => (hc.resolve_left fun h' => hk h'.1).1⟩
  · rw [List.perm_ext_iff_of_nodup (d.insert k a).nodup_entries
      (List.nodup_cons.2 ⟨hnot a, rest.nodup_entries⟩)]
    rintro ⟨k', c⟩
    rw [mem_entries_iff, List.mem_cons, hmem, get?_insert, Prod.mk.injEq]
    by_cases hk : k' = k
    · rw [if_pos hk, Option.some.injEq]
      exact ⟨fun hc => Or.inl ⟨hk, hc.symm⟩, fun hc => (hc.resolve_right (by simp [hk])).2.symm⟩
    · rw [if_neg hk]
      exact ⟨fun hc => Or.inr ⟨hc, hk⟩, fun hc => (hc.resolve_left fun h' => hk h'.1).1⟩

theorem keys_insert_of_none {d : Dict α} {k : String} (a : α) (h : d.get? k = none) :
    (d.insert k a).keys.Perm (k :: d.keys) := (entries_insert_of_none a h).map Prod.fst

theorem keys_insert_of_some {d : Dict α} {k : String} {b : α} (a : α) (h : d.get? k = some b) :
    (d.insert k a).keys.Perm d.keys := by
  obtain ⟨rest, hold, hnew⟩ := entries_insert_of_some a h
  exact (hnew.map Prod.fst).trans (hold.map Prod.fst).symm

/-- What is gathered from all values, after a value without a contribution was added. -/
theorem flatMap_values_insertNew {f : α → List β} {a : α} (d : Dict α) (k : String)
    (hf : f a = []) : ((d.insertNew k a).values.flatMap f).Perm (d.values.flatMap f) := by
  cases h : d.get? k with
  | some b => rw [insertNew_of_some a h]
  | none =>
    rw [insertNew_of_none a h]
    have hp := ((entries_insert_of_none a h).map Prod.snd).flatMap_right f
    rwa [List.map_cons, List.flatMap_cons, hf, List.nil_append] at hp

/-- What is gathered from all values, after one of them gained `bs`. -/
theorem flatMap_values_modify {f : α → List β} {d : Dict α} {k : String} {a : α} {bs : List β}
    (change : α → α) (h : d.get? k = some a) (hf : (f (change a)).Perm (bs ++ f a)) :
    ((d.modify k change).values.flatMap f).Perm (bs ++ d.values.flatMap f) := by
  obtain ⟨rest, hold, hnew⟩ := entries_insert_of_some (change a) h
  have hold := (hold.map Prod.snd).flatMap_right f
  have hnew := (hnew.map Prod.snd).flatMap_right f
  rw [List.map_cons, List.flatMap_cons] at hold hnew
  rw [modify_of_some change h]
  refine hnew.trans ((hf.append_right _).trans ?_)
  rw [List.append_assoc]
  exact hold.symm.append_left bs

end TaskBuilders.Dict
