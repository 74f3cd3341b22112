import TaskBuilders.Naming.Qualified

/-!
# Where qualified names are divided

A text is divided at its last dot, unless a slash follows. So the last of its dots and slashes decides,
and a name can be read back from its qualified form unless that last one is a dot of its own.

* `Undivided` — the last dot or slash is no dot
* `undivided_identOf` — the identifier of a text cannot be divided again
* `whole_simpleName_append` — what stands in front has no part in the simple name
* `parse_qualify` — joining a whole name to a path and splitting it again
* `identOf_qualify` — what is read back from a qualified name
* `identOf_qualify_inj` — qualified names with one identifier are the same
-/

namespace TaskBuilders

namespace QualifiedName

/-- The last dot or slash of a text. -/
def lastDivider? (s : String) : Option Char := s.toList.reverse.find? isDivider

/-- The text has neither dot nor slash. -/
def Whole (s : String) : Prop := ∀ c ∈ s.toList, isDivider c = false

instance (s : String) : Decidable (Whole s) :=
  List.decidableBAll (fun c => isDivider c = false) s.toList

/-- The last dot or slash is no dot. -/
def Undivided (s : String) : Prop := lastDivider? s ≠ some '.'

theorem lastDivider?_append (a b : String) :
    lastDivider? (a ++ b) = (lastDivider? b).or (lastDivider? a) := by
  rw [lastDivider?, String.toList_append, List.reverse_append, List.find?_append]
  rfl

theorem lastDivider?_eq_none_iff {s : String} : lastDivider? s = none ↔ Whole s := by
  rw [lastDivider?, List.find?_eq_none]
  simp only [List.mem_reverse, Bool.not_eq_true]
  rfl

theorem Whole.append {a b : String} (ha : Whole a) (hb : Whole b) : Whole (a ++ b) := by
  intro c hc
  rw [String.toList_append, List.mem_append] at hc
  exact hc.elim (ha c) (hb c)

theorem Whole.undivided {s : String} (h : Whole s) : Undivided s := by
  simp [Undivided, lastDivider?_eq_none_iff.2 h]

/-- Whole texts on either side do not change where a text is divided. -/
theorem Undivided.between {a s b : String} (hs : Undivided s) (ha : Whole a) (hb : Whole b) :
    Undivided (a ++ s ++ b) := by
  rw [Undivided, lastDivider?_append, lastDivider?_append, lastDivider?_eq_none_iff.2 ha,
    lastDivider?_eq_none_iff.2 hb, Option.none_or, Option.or_none]
  exact hs

/-- A dot in front of a whole name is the last divider. -/
theorem not_undivided_append_dot {name : String} (h : Whole name) (package : String) :
    ¬ Undivided (package ++ "." ++ name) := by
  intro hundivided
  refine hundivided ?_
  rw [lastDivider?_append, lastDivider?_eq_none_iff.2 h, Option.none_or, lastDivider?_append]
  rfl

/-- A text that is divided has a whole name behind its last dot. -/
theorem exists_of_not_undivided {s : String} (h : ¬ Undivided s) :
    ∃ package name, Whole name ∧ s = package ++ "." ++ name := by
  have hlast : s.toList.reverse.find? isDivider = some '.' := Decidable.not_not.1 h
  obtain ⟨_, name, package, hback, hname⟩ := List.find?_eq_some_iff_append.1 hlast
  refine ⟨String.ofList package.reverse, String.ofList name.reverse, ?_, ?_⟩
  · intro c hc
    rw [String.toList_ofList, List.mem_reverse] at hc
    simpa using hname c hc
  · have hs : s.toList = package.reverse ++ '.' :: name.reverse := by
      rw [← List.reverse_reverse s.toList, hback, List.reverse_append, List.reverse_cons,
        List.append_assoc, List.singleton_append]
    rw [← String.ofList_toList (s := s), hs]
    simp [String.append_assoc]

/-- Without slashes there is nothing but a dot to divide at. -/
theorem Undivided.whole {s : String} (h : Undivided s) (hslash : '/' ∉ s.toList) : Whole s := by
  rw [← lastDivider?_eq_none_iff]
  cases hlast : lastDivider? s with
  | none => rfl
  | some c =>
    have hmem : c ∈ s.toList := List.mem_reverse.1 (List.mem_of_find?_eq_some hlast)
    have hdivider : c = '.' ∨ c = '/' := by simpa [isDivider] using List.find?_some hlast
    rcases hdivider with rfl | rfl
    · exact absurd hlast h
    · exact absurd hmem hslash

/-! ## Parsing -/

theorem head?_dropWhile (cs : List Char) :
    (cs.dropWhile fun c => !isDivider c).head? = cs.find? isDivider := by
  induction cs with
  | nil => rfl
  | cons c cs ih =>
    cases hc : isDivider c with
    | true => simp [hc]
    | false => simp [hc, ih]

/-- A text whose last divider is no dot is not divided. -/
theorem parse_of_undivided {s : String} (h : Undivided s) : parse s = ⟨"", s⟩ := by
  have hhead : (s.toList.reverse.dropWhile fun c => !isDivider c).head? ≠ some '.' := by
    rw [head?_dropWhile]
    exact h
  unfold parse
  dsimp only
  split
  · next path hd =>
    rw [hd] at hhead
    exact absurd rfl hhead
  · rfl

/-- The identifier of a text cannot be divided again. -/
theorem undivided_parse_ident (s : String) : Undivided (parse s).ident := by
  by_cases h : Undivided s
  · rw [parse_of_undivided h]
    exact h
  · unfold parse
    dsimp only
    split
    · have hwhole : Whole (String.ofList
          (s.toList.reverse.takeWhile fun c => !isDivider c).reverse) := by
        intro c hc
        rw [String.toList_ofList, List.mem_reverse] at hc
        simpa using List.all_eq_true.1 List.all_takeWhile c hc
      rw [Undivided, lastDivider?_eq_none_iff.2 hwhole]
      nofun
    · next hd =>
      refine absurd ?_ h
      rw [Undivided, lastDivider?, ← head?_dropWhile]
      intro hdot
      obtain ⟨path, hpath⟩ := List.head?_eq_some_iff.1 hdot
      exact hd path hpath

/-- A dot in front of a whole name divides. -/
theorem parse_append_dot {name : String} (h : Whole name) (package : String) :
    parse (package ++ "." ++ name) = ⟨package, name⟩ := by
  have hback : (package ++ "." ++ name).toList.reverse =
      name.toList.reverse ++ '.' :: package.toList.reverse := by
    rw [String.toList_append, String.toList_append, List.reverse_append, List.reverse_append]
    rfl
  have hplain : ∀ c ∈ name.toList.reverse, (!isDivider c) = true := by
    intro c hc
    rw [h c (List.mem_reverse.1 hc)]
    rfl
  unfold parse
  dsimp only
  rw [hback, List.dropWhile_append_of_pos hplain, List.takeWhile_append_of_pos hplain]
  show (⟨String.ofList package.toList.reverse.reverse,
    String.ofList (name.toList.reverse ++ []).reverse⟩ : QualifiedName) = _
  rw [List.append_nil, List.reverse_reverse, List.reverse_reverse, String.ofList_toList,
    String.ofList_toList]

/-- Whole names behind dots are the same with the same paths. -/
theorem append_dot_inj {package name package' name' : String} (h : Whole name) (h' : Whole name') :
    package ++ "." ++ name = package' ++ "." ++ name' ↔ package = package' ∧ name = name' := by
  constructor
  · intro heq
    have hparts := congrArg parse heq
    rw [parse_append_dot h, parse_append_dot h'] at hparts
    exact QualifiedName.mk.inj hparts
  · rintro ⟨rfl, rfl⟩
    rfl

end QualifiedName

open QualifiedName

theorem undivided_identOf (s : String) : Undivided (identOf s) := undivided_parse_ident s

/-- The simple name of a type cannot be divided. -/
theorem undivided_simpleName (id : String) : Undivided (simpleName id) := by
  have hlast : lastDivider? (simpleName id) = lastDivider? (identOf id) := by
    rw [lastDivider?, lastDivider?, simpleName, String.toList_ofList, ← List.filter_reverse,
      List.find?_filter]
    congr 1
    funext c
    -- the characters that are dropped divide nothing
    by_cases hc : c = '$'
    · rw [hc]; rfl
    · simp [hc]
  rw [Undivided, hlast]
  exact undivided_identOf id

/-- A whole beginning changes nothing about dots and slashes of the simple name. -/
theorem whole_simpleName_append {lead : String} (hlead : Whole lead) (id : String) :
    Whole (simpleName (lead ++ id)) ↔ Whole (simpleName id) := by
  -- undivided, the beginning goes into the simple name; divided, it goes into the package
  by_cases hid : Undivided id
  · have hboth : Undivided (lead ++ id) := by
      rw [Undivided, lastDivider?_append, lastDivider?_eq_none_iff.2 hlead, Option.or_none]
      exact hid
    rw [simpleName, simpleName, identOf, identOf, parse_of_undivided hid, parse_of_undivided hboth]
    simp only [Whole, String.toList_ofList, String.toList_append, List.filter_append,
      List.mem_append, or_imp, forall_and]
    exact and_iff_right fun c hc => hlead c (List.mem_filter.1 hc).1
  · obtain ⟨package, name, hname, rfl⟩ := exists_of_not_undivided hid
    have hident : identOf (lead ++ (package ++ "." ++ name)) = identOf (package ++ "." ++ name) := by
      rw [← String.append_assoc, ← String.append_assoc, identOf, identOf, parse_append_dot hname,
        parse_append_dot hname]
    rw [simpleName, simpleName, hident]

/-! ## Qualifying -/

theorem qualify_empty (name : String) : qualify "" name = name := by
  rw [qualify, QualifiedName.render, if_pos rfl]

theorem qualify_of_ne {package : String} (hp : package ≠ "") (name : String) :
    qualify package name = package ++ "." ++ name := if_neg hp

/-- **A whole name is split from the path that it was joined to.** -/
theorem QualifiedName.parse_qualify {name : String} (h : Whole name) (package : String) :
    parse (qualify package name) = ⟨package, name⟩ := by
  by_cases hp : package = ""
  · rw [hp, qualify_empty]
    exact parse_of_undivided h.undivided
  · rw [qualify_of_ne hp]
    exact parse_append_dot h package

theorem qualify_inj {package a b : String} : qualify package a = qualify package b ↔ a = b := by
  refine ⟨fun h => ?_, fun h => by rw [h]⟩
  by_cases hp : package = ""
  · rwa [hp, qualify_empty, qualify_empty] at h
  · rw [qualify_of_ne hp, qualify_of_ne hp] at h
    exact (String.append_right_inj _).1 h

/-! ## Reading back -/

/-- Behind a name whose last divider is a slash nothing is divided. -/
theorem undivided_append_dot {name : String} (h : Undivided name) (hwhole : ¬ Whole name)
    (package : String) : Undivided (package ++ "." ++ name) := by
  rw [Undivided, lastDivider?_append]
  rw [← lastDivider?_eq_none_iff] at hwhole
  cases hlast : lastDivider? name with
  | none => exact absurd hlast hwhole
  | some c => rw [Option.some_or, ← hlast]; exact h

/-- From the qualified form of a name the name is read back when it is whole, and else the form
itself. -/
theorem identOf_qualify {package name : String} (hp : package ≠ "") (h : Undivided name) :
    Whole name ∧ identOf (qualify package name) = name ∨
      ¬ Whole name ∧ identOf (qualify package name) = package ++ "." ++ name := by
  rw [qualify_of_ne hp]
  by_cases hwhole : Whole name
  · exact Or.inl ⟨hwhole, by rw [identOf, parse_append_dot hwhole]⟩
  · exact Or.inr ⟨hwhole, by
      rw [identOf, parse_of_undivided (undivided_append_dot h hwhole package)]⟩

theorem identOf_qualify_of_whole {name : String} (h : Whole name) (package : String) :
    identOf (qualify package name) = name := by
  rw [identOf, parse_qualify h]

theorem not_whole_append_dot (a b : String) : ¬ Whole (a ++ "." ++ b) := by
  intro h
  have hdot := h '.' (by simp)
  cases hdot

/-- Qualified names with one identifier are the same. -/
theorem identOf_qualify_inj {package a b : String} (hp : package ≠ "") (ha : Undivided a)
    (hb : Undivided b) (h : identOf (qualify package a) = identOf (qualify package b)) : a = b := by
  rcases identOf_qualify hp ha with ⟨hwa, hia⟩ | ⟨_, hia⟩
  · rcases identOf_qualify hp hb with ⟨_, hib⟩ | ⟨_, hib⟩
    · rwa [hia, hib] at h
    · rw [hia, hib] at h
      exact absurd (h ▸ hwa) (not_whole_append_dot package b)
  · rcases identOf_qualify hp hb with ⟨hwb, hib⟩ | ⟨_, hib⟩
    · rw [hia, hib] at h
      exact absurd (h ▸ hwb) (not_whole_append_dot package a)
    · rw [hia, hib] at h
      exact (String.append_right_inj _).1 h

end TaskBuilders
