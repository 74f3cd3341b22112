import TaskBuilders.Naming.Namer
import TaskBuilders.Proofs.Dict.Lookup
import TaskBuilders.Proofs.Naming.FreeName

/-!
# Names belong to one key

A namer keeps two tables: the current name of each key, and the key that owns each name. They agree
in one direction, `Namer.Owned`: a key owns the name it has. That is what keeps the names of
different keys apart, and every request keeps it.

* `Namer.Owned.eq_of_names` — two keys with one name are the same key
* `Namer.takenFor_choose` — the name chosen for a key belongs to no other key
* `Namer.get?_names_mint_self`, `Namer.get?_names_mint_of_ne` — a request gives its key a name and
  leaves those of the other keys
-/

namespace TaskBuilders.Naming

theorem containerKey_inj {a b : String} : containerKey a = containerKey b ↔ a = b :=
  String.append_right_inj _

/-- A text that does not begin like the keys of containers is none of them. -/
theorem ne_containerKey {id : String} (h : Text.hasLeading "container:" id = false) (c : String) :
    id ≠ containerKey c := by
  rintro rfl
  have htrue : Text.hasLeading "container:" (containerKey c) = true := by
    rw [Text.hasLeading, containerKey, String.toList_append]
    exact List.isPrefixOf_iff_prefix.2 (List.prefix_append _ _)
  rw [htrue] at h
  cases h

namespace Namer

variable {n : Namer} {key ident : String}

/-! ## Free names -/

theorem takenFor_eq_true_iff :
    n.takenFor key ident = true ↔ ∃ owner, n.owners.get? ident = some owner ∧ owner ≠ key := by
  unfold takenFor
  cases n.owners.get? ident with
  | none => simp
  | some owner => simp

theorem mem_takenNames : ident ∈ n.takenNames key ↔ n.takenFor key ident = true := by
  rw [takenFor_eq_true_iff, takenNames, List.mem_map]
  constructor
  · rintro ⟨⟨i, owner⟩, he, rfl⟩
    obtain ⟨hmem, hne⟩ := List.mem_filter.1 he
    exact ⟨owner, (n.owners.mem_entries_iff i owner).1 hmem, bne_iff_ne.1 hne⟩
  · rintro ⟨owner, howner, hne⟩
    exact ⟨(ident, owner),
      List.mem_filter.2 ⟨(n.owners.mem_entries_iff ident owner).2 howner, bne_iff_ne.2 hne⟩, rfl⟩

/-- The name chosen for a key belongs to no other key. -/
theorem takenFor_choose (n : Namer) (key preferred source : String) :
    n.takenFor key (n.choose key preferred source) = false := by
  unfold choose
  cases h : n.takenFor key preferred with
  | false => rw [if_neg Bool.false_ne_true]; exact h
  | true =>
    rw [if_pos rfl]
    refine Bool.eq_false_iff.2 fun htaken => ?_
    exact firstFree_not_mem _ _ (mem_takenNames.2 htaken)

/-! ## Owners -/

/-- A key owns the name it has. -/
def Owned (n : Namer) : Prop :=
  ∀ key ident, n.names.get? key = some ident → n.owners.get? ident = some key

theorem owned_new (package sourceRoot : String) : (Namer.new package sourceRoot).Owned := by
  intro key ident h
  cases h

/-- **Two keys with one name are the same key.** -/
theorem Owned.eq_of_names (h : n.Owned) {a b : String} (ha : n.names.get? a = some ident)
    (hb : n.names.get? b = some ident) : a = b :=
  Option.some.inj ((h a ident ha).symm.trans (h b ident hb))

/-- Giving a key a name that no other key owns keeps every key the owner of its name. -/
theorem Owned.assign (h : n.Owned) (hfree : n.takenFor key ident = false) :
    (n.assign key ident).Owned := by
  intro k i hk
  show (n.owners.insert ident key).get? i = some k
  have hk : (n.names.insert key ident).get? k = some i := hk
  rw [Dict.get?_insert] at hk ⊢
  by_cases hkk : k = key
  · rw [if_pos hkk, Option.some.injEq] at hk
    rw [if_pos hk.symm, hkk]
  · rw [if_neg hkk] at hk
    have howner := h k i hk
    by_cases hi : i = ident
    · -- the name would have belonged to another key
      refine absurd (takenFor_eq_true_iff.2 ⟨k, hi ▸ howner, hkk⟩) ?_
      rw [hfree]
      exact Bool.false_ne_true
    · rw [if_neg hi, howner]

theorem Owned.mint (h : n.Owned) (key preferred source : String) :
    (n.mint key preferred source).2.Owned := by
  unfold Namer.mint
  split
  · exact h
  · exact h.assign (n.takenFor_choose key preferred source)

/-! ## What a request does -/

/-- A request answers with the name of its key. -/
theorem get?_names_mint_self (n : Namer) (key preferred source : String) :
    (n.mint key preferred source).2.names.get? key = some (n.mint key preferred source).1 := by
  unfold mint
  split
  · next h => exact h
  · exact Dict.get?_insert_self _ _ _

theorem get?_names_mint_of_ne (n : Namer) {key k : String} (preferred source : String)
    (h : k ≠ key) : (n.mint key preferred source).2.names.get? k = n.names.get? k := by
  unfold mint
  split
  · rfl
  · exact Dict.get?_insert_of_ne _ _ h

/-- A name once given stays. -/
theorem get?_names_mint_of_some {n : Namer} {k i : String} (key preferred source : String)
    (h : n.names.get? k = some i) : (n.mint key preferred source).2.names.get? k = some i := by
  by_cases hk : k = key
  · unfold mint
    rw [← hk, h]
    exact h
  · rw [get?_names_mint_of_ne n preferred source hk, h]

@[simp] theorem package_mint (n : Namer) (key preferred source : String) :
    (n.mint key preferred source).2.package = n.package := by
  unfold mint
  split <;> rfl

/-- Only the key that has a name is answered with it. -/
theorem Owned.eq_of_mint (h : n.Owned) {k : String} (hk : n.names.get? k = some ident)
    {preferred source : String} (he : (n.mint key preferred source).1 = ident) : key = k := by
  have hself := n.get?_names_mint_self key preferred source
  rw [he] at hself
  exact (h.mint key preferred source).eq_of_names hself
    (get?_names_mint_of_some key preferred source hk)

end Namer

end TaskBuilders.Naming
