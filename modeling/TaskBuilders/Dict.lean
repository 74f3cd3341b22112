/-!
# Dictionaries with ordered keys

A dictionary lists its entries with strictly ascending keys. Two dictionaries that answer every
look-up alike are therefore equal, and the order of insertions leaves no trace.
-/

namespace TaskBuilders

universe u v

namespace Dict

/-- Puts an entry into a list of entries, in place of the entry with the same key. -/
def insertEntry {α : Type u} (k : String) (a : α) : List (String × α) → List (String × α)
  | [] => [(k, a)]
  | e :: rest =>
    if k < e.1 then (k, a) :: e :: rest
    else if e.1 < k then e :: insertEntry k a rest
    else (k, a) :: rest

theorem mem_insertEntry {α : Type u} {k : String} {a : α} {es : List (String × α)}
    {e : String × α} (h : e ∈ insertEntry k a es) : e = (k, a) ∨ e ∈ es := by
  induction es with
  | nil => simp_all [insertEntry]
  | cons d rest ih =>
    unfold insertEntry at h
    split at h
    · simpa using h
    · split at h
      · rcases List.mem_cons.1 h with h | h
        · exact Or.inr (by simp [h])
        · rcases ih h with h | h
          · exact Or.inl h
          · exact Or.inr (by simp [h])
      · rcases List.mem_cons.1 h with h | h
        · exact Or.inl h
        · exact Or.inr (by simp [h])

/-- Putting an entry keeps the keys ascending. -/
theorem pairwise_insertEntry {α : Type u} (k : String) (a : α) {es : List (String × α)}
    (h : es.Pairwise (·.1 < ·.1)) : (insertEntry k a es).Pairwise (·.1 < ·.1) := by
  induction es with
  | nil => simp [insertEntry]
  | cons d rest ih =>
    have hd := List.pairwise_cons.1 h
    unfold insertEntry
    split
    · rename_i hk
      refine List.pairwise_cons.2 ⟨fun e he => ?_, h⟩
      rcases List.mem_cons.1 he with rfl | he
      · exact hk
      · exact String.lt_trans hk (hd.1 e he)
    · rename_i hk
      split
      · rename_i hk'
        refine List.pairwise_cons.2 ⟨fun e he => ?_, ih hd.2⟩
        rcases mem_insertEntry he with rfl | he
        · exact hk'
        · exact hd.1 e he
      · rename_i hk'
        have hkd : k = d.1 :=
          String.le_antisymm (String.not_lt.1 hk') (String.not_lt.1 hk)
        exact List.pairwise_cons.2 ⟨fun e he => hkd ▸ hd.1 e he, hd.2⟩

end Dict

/-- Entries with strictly ascending keys. -/
structure Dict (α : Type u) where
  entries : List (String × α)
  ascending : entries.Pairwise (·.1 < ·.1)

namespace Dict

variable {α : Type u} {β : Type v}

/-- The dictionary without entries. -/
def empty : Dict α := ⟨[], List.Pairwise.nil⟩

instance : EmptyCollection (Dict α) := ⟨empty⟩
instance : Inhabited (Dict α) := ⟨empty⟩

/-- The value under a key. -/
def get? (d : Dict α) (k : String) : Option α := d.entries.lookup k

/-- Whether a key has a value. -/
def contains (d : Dict α) (k : String) : Bool := (d.get? k).isSome

/-- Puts a value under a key, in place of the one that was there. -/
def insert (d : Dict α) (k : String) (a : α) : Dict α :=
  ⟨insertEntry k a d.entries, pairwise_insertEntry k a d.ascending⟩

/-- Puts a value under a key that has none yet. -/
def insertNew (d : Dict α) (k : String) (a : α) : Dict α :=
  if d.contains k then d else d.insert k a

/-- Changes the value under a key that has one. -/
def modify (d : Dict α) (k : String) (f : α → α) : Dict α :=
  match d.get? k with
  | some a => d.insert k (f a)
  | none => d

/-- Keeps the entries that satisfy `p`. -/
def filter (p : String → α → Bool) (d : Dict α) : Dict α :=
  ⟨d.entries.filter (fun e => p e.1 e.2), d.ascending.filter _⟩

/-- Drops the entry under a key. -/
def erase (d : Dict α) (k : String) : Dict α := d.filter (fun k' _ => k' != k)

/-- Changes every value, keeping the keys. -/
def map (f : String → α → β) (d : Dict α) : Dict β :=
  ⟨d.entries.map (fun e => (e.1, f e.1 e.2)), List.pairwise_map.2 d.ascending⟩

/-- The dictionary of a list of entries; of two entries with one key the later counts. -/
def ofList (es : List (String × α)) : Dict α :=
  es.foldl (fun d e => d.insert e.1 e.2) empty

/-- The keys, ascending. -/
def keys (d : Dict α) : List String := d.entries.map (·.1)

/-- The values, by ascending key. -/
def values (d : Dict α) : List α := d.entries.map (·.2)

/-- The number of entries. -/
def size (d : Dict α) : Nat := d.entries.length

/-- Whether there are no entries. -/
def isEmpty (d : Dict α) : Bool := d.entries.isEmpty

/-- Entries of the left dictionary, and those of the right whose keys the left has not. -/
def union (d e : Dict α) : Dict α :=
  e.entries.foldl (fun acc x => acc.insertNew x.1 x.2) d

end Dict

end TaskBuilders
