import Mathlib.Data.List.Nodup
import TaskBuilders.Naming.ImportTable
import TaskBuilders.Proofs.Naming.FreeName
import TaskBuilders.Proofs.Naming.Qualified

/-!
# References and the import block

A file shortens names one after another. Packages get aliases that no other package has and keep
them. The import block lists them by path, and leaves an alias out when it is the last element of its
path: the identifier of such a line is that element.

An empty alias is left out too, though it is no path element. It arises when neither the last element
of a path nor the whole path makes an identifier, so nothing but that stands between a reference and
its line.

* `ImportTable.Tidy` — packages and aliases are distinct
* `ImportTable.pairwise_specs` — the import block is sorted by path
* `ImportTable.freshAlias_eq_empty_iff` — when a package gets no alias
* `ImportTable.references_resolve_iff` — when the import block resolves every reference
* `ImportTable.reference_to_blank_package` — a reference that it does not resolve
-/

namespace TaskBuilders.Naming

open Text

/-- The identifier that an import line brings in. -/
def ImportSpec.ident (s : ImportSpec) : String := if s.name = "" then pathBase s.path else s.name

theorem pathBase_ne_empty (p : String) : pathBase p ≠ "" := by
  unfold pathBase
  split
  · decide
  · have hhead := List.head?_dropWhile_not (· == '/') p.toList.reverse
    split
    · decide
    · next back hback =>
      -- what is left in front of the trailing slashes does not end with one
      cases hd : p.toList.reverse.dropWhile (· == '/') with
      | nil => exact absurd hd hback
      | cons c cs =>
        rw [hd] at hhead
        have hc : (c != '/') = true := by simpa using hhead
        intro h
        have hnil := congrArg String.toList h
        simp [hc] at hnil

namespace ImportAlias

/-- An alias is the identifier of its line. -/
theorem ident_spec {e : ImportAlias} (h : e.shortName ≠ "") : e.spec.ident = e.shortName := by
  unfold spec ImportSpec.ident
  by_cases hbase : e.shortName = pathBase e.path
  · simp [hbase]
  · simp [hbase, h]

theorem ident_spec_ne_empty (e : ImportAlias) : e.spec.ident ≠ "" := by
  unfold ImportSpec.ident
  split
  · exact pathBase_ne_empty _
  · next h => exact h

end ImportAlias

namespace ImportTable

variable {t : ImportTable} {p a q : String}

/-- The table after names were shortened. -/
def after (t : ImportTable) (names : List String) : ImportTable :=
  names.foldl (fun t q => (t.shorten q).2) t

theorem after_cons (t : ImportTable) (q : String) (names : List String) :
    t.after (q :: names) = (t.shorten q).2.after names := rfl

theorem after_append (t : ImportTable) (names names' : List String) :
    t.after (names ++ names') = (t.after names).after names' := List.foldl_append

/-- A name of another package, which needs an import. -/
def Foreign (self qualified : String) : Prop :=
  packageOf qualified ≠ "" ∧ packageOf qualified ≠ self

instance (self qualified : String) : Decidable (Foreign self qualified) :=
  inferInstanceAs (Decidable (_ ∧ _))

/-! ## Aliases -/

theorem aliasOf?_eq_none_iff : t.aliasOf? p = none ↔ ∀ e ∈ t.used, e.path ≠ p := by
  rw [aliasOf?, Option.map_eq_none_iff, List.find?_eq_none]
  simp only [beq_iff_eq, ne_eq]

theorem mem_used_of_aliasOf? (h : t.aliasOf? p = some a) : ⟨p, a⟩ ∈ t.used := by
  obtain ⟨e, he, rfl⟩ := Option.map_eq_some_iff.1 h
  have hpath : e.path = p := by simpa using List.find?_some he
  rw [← hpath]
  exact List.mem_of_find?_eq_some he

/-- A new package gets an alias that no other package has. -/
theorem freshAlias_not_mem (t : ImportTable) (p : String) : t.freshAlias p ∉ t.aliases := by
  unfold freshAlias
  split
  · exact firstFree_not_mem _ _
  · next h => simpa using h

theorem packageIdent_ne_empty (p : String) : packageIdent p ≠ "" := by
  unfold packageIdent
  dsimp only
  split
  · decide
  · next h =>
    intro he
    exact h (by simp [he])

/-- **When a package gets no alias**: the identifier of its last element is taken, its whole path makes
none, and no other package is without one. -/
theorem freshAlias_eq_empty_iff (t : ImportTable) (p : String) :
    t.freshAlias p = "" ↔ packageIdent p ∈ t.aliases ∧ pathIdent p = "" ∧ "" ∉ t.aliases := by
  unfold freshAlias
  split
  · next h =>
    rw [firstFree_eq_empty_iff]
    exact ⟨fun he => ⟨by simpa using h, he⟩, And.right⟩
  · next h =>
    refine ⟨fun he => absurd he (packageIdent_ne_empty p), fun he => ?_⟩
    exact absurd (by simpa using he.1) h

/-! ## What one name does -/

theorem shorten_of_not_foreign (h : ¬ Foreign t.self q) : t.shorten q = (identOf q, t) := by
  unfold shorten
  dsimp only
  rw [if_pos]
  · rfl
  · have hor : packageOf q = "" ∨ packageOf q = t.self := by
      by_cases he : packageOf q = ""
      · exact Or.inl he
      · exact Or.inr (Classical.byContradiction fun hs => h ⟨he, hs⟩)
    simpa [packageOf] using hor

theorem shorten_of_foreign (h : Foreign t.self q) :
    t.shorten q = ((t.require (packageOf q)).1 ++ "." ++ identOf q, (t.require (packageOf q)).2) := by
  unfold shorten
  dsimp only
  rw [if_neg]
  · rfl
  · simpa [Foreign, packageOf] using h

theorem require_of_some (h : t.aliasOf? p = some a) : t.require p = (a, t) := by
  rw [require, h]

theorem require_of_none (h : t.aliasOf? p = none) : t.require p =
    (t.freshAlias p, { t with used := t.used ++ [⟨p, t.freshAlias p⟩] }) := by
  rw [require, h]

/-- A name changes nothing, or its package is new and gets an alias. -/
theorem shorten_state (t : ImportTable) (q : String) :
    (t.shorten q).2 = t ∨
    (Foreign t.self q ∧ t.aliasOf? (packageOf q) = none ∧ (t.shorten q).2 =
      { t with used := t.used ++ [⟨packageOf q, t.freshAlias (packageOf q)⟩] }) := by
  by_cases hf : Foreign t.self q
  · rw [shorten_of_foreign hf]
    cases h : t.aliasOf? (packageOf q) with
    | some a => exact Or.inl (by rw [require_of_some h])
    | none => exact Or.inr ⟨hf, rfl, by rw [require_of_none h]⟩
  · exact Or.inl (by rw [shorten_of_not_foreign hf])

theorem self_shorten (t : ImportTable) (q : String) : (t.shorten q).2.self = t.self := by
  rcases t.shorten_state q with h | ⟨_, _, h⟩ <;> rw [h]

/-- A package keeps its alias. -/
theorem aliasOf?_shorten (h : t.aliasOf? p = some a) (q : String) :
    (t.shorten q).2.aliasOf? p = some a := by
  rcases t.shorten_state q with he | ⟨_, _, he⟩
  · rwa [he]
  · obtain ⟨e, hfind, rfl⟩ := Option.map_eq_some_iff.1 h
    rw [he, aliasOf?, List.find?_append, hfind]
    rfl

/-- A name of another package is shortened to the alias of its package. -/
theorem shorten_fst (h : Foreign t.self q) :
    ∃ a, (t.shorten q).2.aliasOf? (packageOf q) = some a ∧ (t.shorten q).1 = a ++ "." ++ identOf q := by
  rw [shorten_of_foreign h]
  cases ha : t.aliasOf? (packageOf q) with
  | some a => exact ⟨a, by rw [require_of_some ha]; exact ha, by rw [require_of_some ha]⟩
  | none =>
    refine ⟨t.freshAlias (packageOf q), ?_, by rw [require_of_none ha]⟩
    rw [require_of_none ha, aliasOf?, List.find?_append,
      List.find?_eq_none.2 (by simpa using aliasOf?_eq_none_iff.1 ha)]
    simp

/-- Packages and aliases are distinct. -/
structure Tidy (t : ImportTable) : Prop where
  paths : (t.used.map (·.path)).Nodup
  aliases : t.aliases.Nodup

theorem tidy_empty (self : String) : Tidy (empty self) := ⟨.nil, .nil⟩

theorem Tidy.shorten (h : Tidy t) (q : String) : Tidy (t.shorten q).2 := by
  rcases t.shorten_state q with he | ⟨_, hnew, he⟩
  · rwa [he]
  · rw [he]
    constructor
    · rw [List.map_append, List.nodup_append]
      refine ⟨h.paths, by simp, fun x hx y hy => ?_⟩
      obtain ⟨e, hmem, rfl⟩ := List.mem_map.1 hx
      obtain rfl := List.mem_singleton.1 hy
      exact aliasOf?_eq_none_iff.1 hnew e hmem
    · rw [ImportTable.aliases, List.map_append, List.nodup_append]
      refine ⟨h.aliases, by simp, fun x hx y hy => ?_⟩
      obtain rfl := List.mem_singleton.1 hy
      rintro rfl
      exact t.freshAlias_not_mem _ hx

/-! ## What all names leave -/

theorem Tidy.after (h : Tidy t) (names : List String) : Tidy (t.after names) := by
  induction names generalizing t with
  | nil => exact h
  | cons q names ih => exact ih (h.shorten q)

theorem self_after (t : ImportTable) (names : List String) : (t.after names).self = t.self := by
  induction names generalizing t with
  | nil => rfl
  | cons q names ih => exact (ih (t := (t.shorten q).2)).trans (t.self_shorten q)

theorem aliasOf?_after (h : t.aliasOf? p = some a) (names : List String) :
    (t.after names).aliasOf? p = some a := by
  induction names generalizing t with
  | nil => exact h
  | cons q names ih => exact ih (aliasOf?_shorten h q)

theorem mem_used_after {e : ImportAlias} (h : e ∈ t.used) (names : List String) :
    e ∈ (t.after names).used := by
  induction names generalizing t with
  | nil => exact h
  | cons q names ih =>
    refine ih (t := (t.shorten q).2) ?_
    rcases t.shorten_state q with he | ⟨_, _, he⟩
    · rwa [he]
    · rw [he]
      exact List.mem_append_left _ h

theorem mem_aliases_after (h : a ∈ t.aliases) (names : List String) :
    a ∈ (t.after names).aliases := by
  obtain ⟨e, he, rfl⟩ := List.mem_map.1 h
  exact List.mem_map_of_mem (mem_used_after he names)

/-- A package was imported when it was named first, and got its alias then. -/
theorem origin {names : List String} {e : ImportAlias} (h : e ∈ (t.after names).used) :
    e ∈ t.used ∨ ∃ earlier q later, names = earlier ++ q :: later ∧ Foreign t.self q ∧
      packageOf q = e.path ∧ (t.after earlier).aliasOf? e.path = none ∧
      e.shortName = (t.after earlier).freshAlias e.path := by
  induction names generalizing t with
  | nil => exact Or.inl h
  | cons q names ih =>
    rw [after_cons] at h
    rcases ih h with hmem | ⟨earlier, q', later, rfl, hforeign, hrest⟩
    · rcases t.shorten_state q with he | ⟨hforeign, hnew, he⟩
      · rw [he] at hmem
        exact Or.inl hmem
      · rw [he, List.mem_append, List.mem_singleton] at hmem
        rcases hmem with hmem | rfl
        · exact Or.inl hmem
        · exact Or.inr ⟨[], q, names, rfl, hforeign, rfl, hnew, rfl⟩
    · rw [self_shorten] at hforeign
      exact Or.inr ⟨q :: earlier, q', later, rfl, hforeign, hrest⟩

/-! ## The import block -/

theorem mem_specs {s : ImportSpec} : s ∈ t.specs ↔ ∃ e ∈ t.used, e.spec = s := by
  rw [specs, List.mem_mergeSort, List.mem_map]

theorem length_specs (t : ImportTable) : t.specs.length = t.size := by
  rw [specs, List.length_mergeSort, List.length_map, size]

theorem Tidy.nodup_paths (h : Tidy t) : (t.specs.map (·.path)).Nodup := by
  have hperm : (t.specs.map (·.path)).Perm (t.used.map (·.path)) := by
    refine ((List.mergeSort_perm _ _).map _).trans (.of_eq ?_)
    rw [List.map_map]
    rfl
  exact hperm.nodup_iff.2 h.paths

/-- **The import block is sorted by path**, and no path stands in it twice. -/
theorem Tidy.pairwise_specs (h : Tidy t) : t.specs.Pairwise (·.path < ·.path) := by
  have hle : t.specs.Pairwise fun a b => decide (a.path ≤ b.path) = true := by
    refine List.pairwise_mergeSort (fun a b c hab hbc => ?_) (fun a b => ?_) _
    · exact decide_eq_true (String.le_trans (of_decide_eq_true hab) (of_decide_eq_true hbc))
    · simpa only [Bool.or_eq_true, decide_eq_true_iff] using String.le_total a.path b.path
  have hne : t.specs.Pairwise fun a b => a.path ≠ b.path := List.pairwise_map.1 h.nodup_paths
  refine (hle.and hne).imp fun {a b} hab => ?_
  refine Classical.byContradiction fun hlt => hab.2 ?_
  exact String.le_antisymm (of_decide_eq_true hab.1) (String.not_lt.1 hlt)

/-- Exactly one line brings in an identifier, and it imports the package at a path. -/
def Brings (t : ImportTable) (ident path : String) : Prop :=
  ∃ s, t.specs.filter (·.ident == ident) = [s] ∧ s.path = path

/-- Where no alias is empty, the line of a package brings in its alias. -/
theorem Tidy.brings (h : Tidy t) (hne : "" ∉ t.aliases) {e : ImportAlias} (he : e ∈ t.used) :
    t.Brings e.shortName e.path := by
  have hident : ∀ e ∈ t.used, e.spec.ident = e.shortName := fun e he =>
    ImportAlias.ident_spec fun hempty => hne (hempty ▸ List.mem_map_of_mem he)
  have hmem : e.spec ∈ t.specs.filter (·.ident == e.shortName) := by
    rw [List.mem_filter]
    exact ⟨mem_specs.2 ⟨e, he, rfl⟩, by rw [hident e he]; exact beq_self_eq_true _⟩
  have hall : ∀ s ∈ t.specs.filter (·.ident == e.shortName), s = e.spec := by
    intro s hs
    obtain ⟨hs, hsident⟩ := List.mem_filter.1 hs
    obtain ⟨e', he', rfl⟩ := mem_specs.1 hs
    rw [hident e' he', beq_iff_eq] at hsident
    rw [List.inj_on_of_nodup_map h.aliases he' he hsident]
  have hnodup : (t.specs.filter (·.ident == e.shortName)).Nodup :=
    (h.nodup_paths.of_map _).filter _
  refine ⟨e.spec, ?_, rfl⟩
  exact List.perm_singleton.1 ((List.perm_ext_iff_of_nodup hnodup (by simp)).2 fun s =>
    ⟨fun hs => List.mem_singleton.2 (hall s hs), fun hs => List.mem_singleton.1 hs ▸ hmem⟩)

/-- No line brings in the empty identifier. -/
theorem not_brings_empty (t : ImportTable) (path : String) : ¬ t.Brings "" path := by
  rintro ⟨s, hs, _⟩
  have hmem : s ∈ t.specs.filter (·.ident == "") := by rw [hs]; exact List.mem_singleton_self s
  obtain ⟨hs, hident⟩ := List.mem_filter.1 hmem
  obtain ⟨e, _, rfl⟩ := mem_specs.1 hs
  exact e.ident_spec_ne_empty (beq_iff_eq.1 hident)

/-- A reference is an alias and the name, and the import block has the alias for the package. -/
def Resolves (t : ImportTable) (reference qualified : String) : Prop :=
  ∃ a, reference = a ++ "." ++ identOf qualified ∧ t.Brings a (packageOf qualified)

/-- A reference is resolved by the line that brings in the alias of its package. -/
theorem resolves_shorten (h : Foreign t.self q) (later : List String) :
    ∃ a, ⟨packageOf q, a⟩ ∈ (t.after (q :: later)).used ∧
      ∀ t' : ImportTable, t'.Resolves (t.shorten q).1 q ↔ t'.Brings a (packageOf q) := by
  obtain ⟨a, ha, href⟩ := shorten_fst h
  refine ⟨a, mem_used_of_aliasOf? (aliasOf?_after ha later), fun t' => ⟨?_, fun hb => ⟨a, href, hb⟩⟩⟩
  rintro ⟨b, hb, hbrings⟩
  rw [href, String.append_left_inj, String.append_left_inj] at hb
  rwa [hb]

/-- A new package for which no identifier is left. -/
def Strands (t : ImportTable) (p : String) : Prop :=
  t.aliasOf? p = none ∧ packageIdent p ∈ t.aliases ∧ pathIdent p = ""

/-- A package is without alias in the end exactly when one was stranded on the way. -/
theorem empty_mem_aliases_iff (self : String) (names : List String) :
    "" ∈ ((empty self).after names).aliases ↔ ∃ earlier q later, names = earlier ++ q :: later ∧
      Foreign self q ∧ ((empty self).after earlier).Strands (packageOf q) := by
  constructor
  · intro h
    obtain ⟨e, he, hempty⟩ := List.mem_map.1 h
    rcases origin he with hnone | ⟨earlier, q, later, rfl, hforeign, hpath, hnew, hfresh⟩
    · cases hnone
    · rw [hempty] at hfresh
      obtain ⟨htaken, hident, _⟩ := (freshAlias_eq_empty_iff _ _).1 hfresh.symm
      exact ⟨earlier, q, later, rfl, hforeign, hpath ▸ ⟨hnew, htaken, hident⟩⟩
  · rintro ⟨earlier, q, later, rfl, hforeign, hnew, htaken, hident⟩
    rw [after_append]
    by_cases hempty : "" ∈ ((empty self).after earlier).aliases
    · exact mem_aliases_after hempty _
    · -- the package is the first one without alias
      have hfresh : ((empty self).after earlier).freshAlias (packageOf q) = "" :=
        (freshAlias_eq_empty_iff _ _).2 ⟨htaken, hident, hempty⟩
      have hforeign : Foreign ((empty self).after earlier).self q := by rwa [self_after]
      refine mem_aliases_after (t := (((empty self).after earlier).shorten q).2) ?_ later
      rw [shorten_of_foreign hforeign, require_of_none hnew, hfresh]
      simp [aliases]

/-- **The import block resolves every reference exactly when no package was stranded.** In any case
packages have aliases of their own and keep the first one they get, and the import block lists the
packages that were named, once each and by path. -/
theorem references_resolve_iff (self : String) (names : List String) :
    let t := (empty self).after names
    (∀ p p' a, t.aliasOf? p = some a → t.aliasOf? p' = some a → p = p') ∧
    (∀ earlier later p a, names = earlier ++ later →
      ((empty self).after earlier).aliasOf? p = some a → t.aliasOf? p = some a) ∧
    t.specs.Pairwise (·.path < ·.path) ∧
    (∀ s ∈ t.specs, ∃ q ∈ names, Foreign self q ∧ packageOf q = s.path) ∧
    t.size = t.specs.length ∧
    ((∀ earlier q later, names = earlier ++ q :: later → Foreign self q →
        t.Resolves (((empty self).after earlier).shorten q).1 q) ↔
      ∀ earlier q later, names = earlier ++ q :: later → Foreign self q →
        ¬ ((empty self).after earlier).Strands (packageOf q)) := by
  intro t
  have htidy : Tidy t := (tidy_empty self).after names
  refine ⟨?_, ?_, htidy.pairwise_specs, ?_, t.length_specs.symm, ?_⟩
  · intro p p' a hp hp'
    have he := List.inj_on_of_nodup_map htidy.aliases (mem_used_of_aliasOf? hp)
      (mem_used_of_aliasOf? hp') rfl
    exact congrArg ImportAlias.path he
  · rintro earlier later p a rfl hp
    show ((empty self).after (earlier ++ later)).aliasOf? p = some a
    rw [after_append]
    exact aliasOf?_after hp later
  · intro s hs
    obtain ⟨e, he, rfl⟩ := mem_specs.1 hs
    rcases origin he with hnone | ⟨earlier, q, later, rfl, hforeign, hpath, _⟩
    · cases hnone
    · exact ⟨q, by simp, hforeign, hpath⟩
  · have hstranded := empty_mem_aliases_iff self names
    have hreference : ∀ earlier q later, names = earlier ++ q :: later → Foreign self q →
        ∃ a, ⟨packageOf q, a⟩ ∈ t.used ∧
          (t.Resolves (((empty self).after earlier).shorten q).1 q ↔ t.Brings a (packageOf q)) := by
      rintro earlier q later rfl hforeign
      obtain ⟨a, ha, hiff⟩ := resolves_shorten (t := (empty self).after earlier) (q := q)
        (by rwa [self_after]) later
      rw [← after_append] at ha
      exact ⟨a, ha, hiff _⟩
    constructor
    · intro h earlier q later hnames hforeign hstrands
      -- the package without alias was named, and no line brings in what its name was shortened to
      obtain ⟨e, he, hempty⟩ := List.mem_map.1
        (hstranded.2 ⟨earlier, q, later, hnames, hforeign, hstrands⟩)
      rcases origin he with hnone | ⟨earlier, q, later, hnames, hforeign, hpath, _⟩
      · cases hnone
      · obtain ⟨a, ha, hiff⟩ := hreference earlier q later hnames hforeign
        have hsame := List.inj_on_of_nodup_map htidy.paths ha he hpath
        obtain rfl : a = "" := by rw [← hsame] at hempty; exact hempty
        exact t.not_brings_empty _ (hiff.1 (h earlier q later hnames hforeign))
    · intro h earlier q later hnames hforeign
      have hempty : "" ∉ t.aliases := fun hmem => by
        obtain ⟨earlier, q, later, hnames, hforeign, hstrands⟩ := hstranded.1 hmem
        exact h earlier q later hnames hforeign hstrands
      obtain ⟨a, ha, hiff⟩ := hreference earlier q later hnames hforeign
      exact hiff.2 (htidy.brings hempty ha)

/-- A package whose path is a lone underscore comes after one called `pkg`: its references begin with a
dot, which no import line accounts for. -/
theorem reference_to_blank_package :
    let names := ["m/pkg.A", "_.B"]
    let t := (empty "m/out").after names
    (((empty "m/out").after ["m/pkg.A"]).shorten "_.B").1 = ".B" ∧
    t.specs = [⟨"", "_"⟩, ⟨"", "m/pkg"⟩] ∧
    ¬ ∀ earlier q later, names = earlier ++ q :: later → Foreign "m/out" q →
      t.Resolves (((empty "m/out").after earlier).shorten q).1 q := by
  have href : (((empty "m/out").after ["m/pkg.A"]).shorten "_.B").1 = "" ++ "." ++ identOf "_.B" := by
    decide +kernel
  have hlines : ((empty "m/out").after ["m/pkg.A", "_.B"]).used.map ImportAlias.spec =
      [⟨"", "m/pkg"⟩, ⟨"", "_"⟩] := by decide +kernel
  have hspecs : ((empty "m/out").after ["m/pkg.A", "_.B"]).specs = [⟨"", "_"⟩, ⟨"", "m/pkg"⟩] := by
    rw [specs, hlines]
    simp [List.mergeSort, List.MergeSort.Internal.splitInTwo]
  refine ⟨href, hspecs, fun h => ?_⟩
  obtain ⟨a, ha, hbrings⟩ := h ["m/pkg.A"] "_.B" [] rfl (by decide +kernel)
  rw [href, String.append_left_inj, String.append_left_inj] at ha
  exact not_brings_empty _ _ (ha ▸ hbrings)

end ImportTable

end TaskBuilders.Naming
