import TaskBuilders.Proofs.Dict.Lookup
import TaskBuilders.Proofs.Number.Integer
import TaskBuilders.Script.Property

/-!
# Properties that keep their values

A value is stored as a text, and the text reads as the value. That is so for texts, truth values and
integers of 64 bits. Any other text under the name of an integer reads as the default.

* `Property.Keeps` — a value that is stored is read, and other properties stay
* `Property.keeps` — it is read when its text reads as it
* `Property.get_of_read`, `Property.get_of_unread` — what a text reads as
* `properties_round_trip` — which values are kept, and which texts count as integers
-/

namespace TaskBuilders.Script

open Number

namespace Property

variable {α : Type} {p : Property α} {v : α} {ps : Properties} {raw : String}

/-! ## One property -/

theorem get_of_read (hraw : ps.get? p.name = some raw) (hread : p.read raw = some v) :
    p.get ps = v := by
  simp [get, hraw, hread]

theorem get_of_unread (hraw : ps.get? p.name = some raw) (hread : p.read raw = none) :
    p.get ps = p.fallback.getD p.zero := by
  simp [get, hraw, hread]

/-- A value that is stored is read again. The property is set, and those of other names stay what they
were. -/
structure Keeps (p : Property α) (v : α) (ps : Properties) : Prop where
  get : p.get (p.set v ps) = v
  isSet : p.isSet (p.set v ps) = true
  others : ∀ {β : Type} (q : Property β), q.name ≠ p.name →
    q.get (p.set v ps) = q.get ps ∧ q.isSet (p.set v ps) = q.isSet ps

/-- **A value whose text reads as the value is kept.** -/
theorem keeps (h : p.read (p.write v) = some v) (ps : Properties) : p.Keeps v ps where
  get := get_of_read (Dict.get?_insert_self _ _ _) h
  isSet := (Dict.contains_iff _ _).2 ⟨p.write v, Dict.get?_insert_self _ _ _⟩
  others q hq := by
    have hget : (p.set v ps).get? q.name = ps.get? q.name := Dict.get?_insert_of_ne _ _ hq
    simp [Property.get, Property.isSet, Dict.contains, hget]

end Property

theorem readBool?_boolText (b : Bool) : readBool? (boolText b) = some b := by
  cases b <;> decide

/-- The text of an integer that fits 64 bits: digits with an optional sign. -/
def WrittenInt64 (raw : String) (n : Int) : Prop :=
  SignedNumeral raw.toList n ∧ IsInt64 n

/-- **Properties keep their values**, whatever the others hold: texts, truth values and integers that fit
64 bits. Where the text of an integer property is such an integer, it is read, and where it is none, the
default. -/
theorem properties_round_trip (ps : Properties) (name : String) :
    (∀ fallback v, (Property.text name fallback).Keeps v ps) ∧
    (∀ fallback v, (Property.bool name fallback).Keeps v ps) ∧
    (∀ fallback v, IsInt64 v → (Property.int name fallback).Keeps v ps) ∧
    ∀ fallback raw, ps.get? name = some raw →
      (∀ n, WrittenInt64 raw n → (Property.int name fallback).get ps = n) ∧
      ((∀ n, ¬ WrittenInt64 raw n) → (Property.int name fallback).get ps = fallback.getD 0) := by
  refine ⟨fun fallback v => Property.keeps rfl ps,
    fun fallback v => Property.keeps (readBool?_boolText v) ps,
    fun fallback v hv => Property.keeps (readInt?_intText hv) ps,
    fun fallback raw hraw => ⟨fun n hn => ?_, fun hnone => ?_⟩⟩
  · exact Property.get_of_read (p := .int name fallback) hraw (readInt?_eq_some_iff.2 hn)
  · refine Property.get_of_unread (p := .int name fallback) hraw ?_
    exact Option.eq_none_iff_forall_ne_some.2 fun n hn => hnone n (readInt?_eq_some_iff.1 hn)

end TaskBuilders.Script
