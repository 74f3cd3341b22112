import TaskBuilders.Proofs.Naming.ImportTable
import TaskBuilders.Proofs.Naming.Qualified

/-!
# Splitting and joining qualified names

A text that is split and joined again is what it was, unless splitting took a dot away that joining does
not put back: the dot at the beginning of a text without a path. Joined names without dots and slashes are
split where they were joined.

What a name is shortened to is split as well. The identifier behind its last dot is that of the name, and
the alias in front of it tells the package, so no two names are shortened to the same reference.

* `LoneDot` — the texts that are not put together again
* `render_parse_iff` — splitting and joining
* `ImportTable.reference_eq_iff` — references tell names apart
* `splitting_inverts_qualifying` — all of that
-/

namespace TaskBuilders

open QualifiedName

variable {s : String}

/-! ## Splitting and joining -/

namespace QualifiedName

theorem whole_iff : Whole s ↔ '.' ∉ s.toList ∧ '/' ∉ s.toList := by
  constructor
  · intro h
    exact ⟨fun hdot => absurd (h '.' hdot) (by decide), fun hslash => absurd (h '/' hslash) (by decide)⟩
  · rintro ⟨hdot, hslash⟩ c hc
    rw [isDivider, Bool.or_eq_false_iff, beq_eq_false_iff_ne, beq_eq_false_iff_ne]
    exact ⟨fun h => hdot (h ▸ hc), fun h => hslash (h ▸ hc)⟩

/-- A text that begins with a dot and has no other dot and no slash. -/
def LoneDot (s : String) : Prop := ∃ rest, s.toList = '.' :: rest ∧ '.' ∉ rest ∧ '/' ∉ rest

/-- It is a whole name behind an empty path. -/
theorem loneDot_iff : LoneDot s ↔ ∃ name, Whole name ∧ s = "" ++ "." ++ name := by
  constructor
  · rintro ⟨rest, hs, hrest⟩
    refine ⟨String.ofList rest, whole_iff.2 (by rwa [String.toList_ofList]), String.toList_inj.1 ?_⟩
    simpa using hs
  · rintro ⟨name, hname, rfl⟩
    exact ⟨name.toList, by simp, whole_iff.1 hname⟩

/-- **A text is put together again unless a lone dot was taken from it.** -/
theorem render_parse_iff (s : String) : (parse s).render = s ↔ ¬ LoneDot s := by
  by_cases hs : Undivided s
  · have hlone : ¬ LoneDot s := by
      rw [loneDot_iff]
      rintro ⟨name, hname, rfl⟩
      exact not_undivided_append_dot hname "" hs
    rw [parse_of_undivided hs]
    exact ⟨fun _ => hlone, fun _ => if_pos rfl⟩
  · obtain ⟨package, name, hname, rfl⟩ := exists_of_not_undivided hs
    rw [parse_append_dot hname, render, loneDot_iff]
    by_cases hpackage : package = ""
    · rw [if_pos hpackage, hpackage]
      refine ⟨fun h => ?_, fun h => absurd ⟨name, hname, rfl⟩ h⟩
      have hlength := congrArg (fun t : String => t.toList.length) h
      simp at hlength
    · rw [if_neg hpackage]
      refine ⟨fun _ => ?_, fun _ => rfl⟩
      rintro ⟨name', hname', heq⟩
      exact hpackage ((append_dot_inj hname hname').1 heq).1

/-- A name with a path has a whole identifier behind a dot. -/
theorem eq_append_of_packageOf_ne (h : packageOf s ≠ "") :
    Whole (identOf s) ∧ s = packageOf s ++ "." ++ identOf s := by
  have hs : ¬ Undivided s := by
    intro hs
    rw [packageOf, parse_of_undivided hs] at h
    exact h rfl
  obtain ⟨package, name, hname, rfl⟩ := exists_of_not_undivided hs
  rw [identOf, packageOf, parse_append_dot hname]
  exact ⟨hname, rfl⟩

end QualifiedName

/-! ## References -/

namespace Naming.ImportTable

variable {self : String} {names earlier later : List String} {q : String}

/-- A reference is the alias that its package has in the end, and the identifier. -/
theorem exists_reference_eq (hnames : names = earlier ++ q :: later) (hforeign : Foreign self q) :
    ∃ a, ((empty self).after names).aliasOf? (packageOf q) = some a ∧
      (((empty self).after earlier).shorten q).1 = a ++ "." ++ identOf q := by
  have hforeign : Foreign ((empty self).after earlier).self q := by rwa [self_after]
  obtain ⟨a, ha, href⟩ := shorten_fst hforeign
  refine ⟨a, ?_, href⟩
  rw [hnames, after_append, after_cons]
  exact aliasOf?_after ha later

/-- **References tell names apart**, whenever the names are shortened. -/
theorem reference_eq_iff {earlier' later' : List String} {q' : String}
    (hnames : names = earlier ++ q :: later) (hforeign : Foreign self q)
    (hnames' : names = earlier' ++ q' :: later') (hforeign' : Foreign self q') :
    (((empty self).after earlier).shorten q).1 = (((empty self).after earlier').shorten q').1 ↔
      q = q' := by
  obtain ⟨a, ha, href⟩ := exists_reference_eq hnames hforeign
  obtain ⟨a', ha', href'⟩ := exists_reference_eq hnames' hforeign'
  obtain ⟨hwhole, hq⟩ := eq_append_of_packageOf_ne hforeign.1
  obtain ⟨hwhole', hq'⟩ := eq_append_of_packageOf_ne hforeign'.1
  rw [href, href', append_dot_inj hwhole hwhole']
  constructor
  · rintro ⟨rfl, hident⟩
    -- packages with one alias are the same
    have htidy : Tidy ((empty self).after names) := (tidy_empty self).after names
    have hused := List.inj_on_of_nodup_map htidy.aliases (mem_used_of_aliasOf? ha)
      (mem_used_of_aliasOf? ha') rfl
    have hpackage : packageOf q = packageOf q' := congrArg ImportAlias.path hused
    rw [hq, hq', hpackage, hident]
  · rintro rfl
    exact ⟨Option.some.inj (ha.symm.trans ha'), rfl⟩

end Naming.ImportTable

open Naming.ImportTable

/-- **Splitting and joining undo each other.** A text is joined again unless it begins with its only dot
and has no slash, and a path and a name without dots and slashes are split again. So names of other packages
that are shortened to the same reference, at any two times in a file, are the same. -/
theorem splitting_inverts_qualifying :
    (∀ s, (parse s).render = s ↔ ¬ LoneDot s) ∧
    (∀ package name : String, '.' ∉ name.toList → '/' ∉ name.toList →
      parse (qualify package name) = ⟨package, name⟩) ∧
    ∀ self names earlier q later earlier' q' later',
      names = earlier ++ q :: later → Foreign self q →
      names = earlier' ++ q' :: later' → Foreign self q' →
      ((((empty self).after earlier).shorten q).1 = (((empty self).after earlier').shorten q').1 ↔
        q = q') :=
  ⟨render_parse_iff,
    fun package _ hdot hslash => parse_qualify (whole_iff.2 ⟨hdot, hslash⟩) package,
    fun _ _ _ _ _ _ _ _ hnames hforeign hnames' hforeign' =>
      reference_eq_iff hnames hforeign hnames' hforeign'⟩

end TaskBuilders
