import TaskBuilders.Proofs.Naming.Identifier
import TaskBuilders.Proofs.Naming.ImportTable
import TaskBuilders.Proofs.Text.LowerCase

/-!
# Aliases that are identifiers

An alias is lower camel case in lower case, of the last element of a path or of all its pieces. Letters and
digits stay what they are in lower case, and so the alias keeps the form of an identifier. It need not be
one: in lower case it can be a keyword, and nothing is left of pieces without letters and digits. A number
behind it makes an identifier of a keyword, but not of nothing.

* `hasIdentForm_packageIdent` — the last element of a path always yields the form of an identifier
* `hasIdentForm_pathIdent` — so does the whole path, unless nothing is left
* `isIdentifier_append_toString` — with a number it is an identifier
* `ImportTable.isIdentifier_freshAlias_iff` — when the alias of a new package is an identifier
* `ImportTable.aliases_identifiers_iff` — the same for all aliases of a file
* `ImportTable.alias_of_keyword` — an alias that is none
-/

namespace TaskBuilders.Naming

open Text

/-! ## The form of an identifier -/

theorem isIdentifier_iff {s : String} :
    isIdentifier s = true ↔ hasIdentForm s.toList = true ∧ s ∉ keywords := by
  rw [isIdentifier, Bool.and_eq_true, Bool.not_eq_true', List.contains_eq_mem, decide_eq_false_iff_not]

theorem isIdentPart_of_hasIdentForm {cs : List Char} (h : hasIdentForm cs = true) :
    ∀ c ∈ cs, isIdentPart c = true := by
  cases cs with
  | nil => cases h
  | cons c cs =>
    rw [hasIdentForm, Bool.and_eq_true, List.all_eq_true] at h
    rw [List.forall_mem_cons, isIdentPart, h.1, Bool.true_or]
    exact ⟨rfl, h.2⟩

/-- An identifier may be followed by all that may stand inside it. -/
theorem hasIdentForm_append {cs tail : List Char} (h : hasIdentForm cs = true)
    (htail : ∀ d ∈ tail, isIdentPart d = true) : hasIdentForm (cs ++ tail) = true := by
  cases cs with
  | nil => cases h
  | cons c cs =>
    rw [hasIdentForm, Bool.and_eq_true, List.all_eq_true] at h
    rw [List.cons_append, hasIdentForm, h.1, Bool.true_and, List.all_eq_true]
    intro d hd
    exact (List.mem_append.1 hd).elim (h.2 d) (htail d)

/-! ## Lower case -/

theorem isIdentStart_toLower {c : Char} (h : isIdentStart c = true) :
    isIdentStart (toLower c) = true := by
  simp only [isIdentStart, Bool.or_eq_true, beq_iff_eq] at h ⊢
  rcases h with hletter | rfl
  · exact Or.inl (isLetter_toLower hletter)
  · exact Or.inr (by decide)

theorem isIdentPart_toLower {c : Char} (h : isIdentPart c = true) :
    isIdentPart (toLower c) = true := by
  rw [isIdentPart, Bool.or_eq_true] at h ⊢
  rcases h with hstart | hdigit
  · exact Or.inl (isIdentStart_toLower hstart)
  · exact Or.inr (by rwa [toLower_of_isDigit hdigit])

/-- **Camel case in lower case has the form of an identifier**, or nothing is left. -/
theorem lowercase_camelCase_cases (s : String) :
    lowercase (camelCase s) = "" ∨ hasIdentForm (lowercase (camelCase s)).toList = true := by
  have hparts := isIdentPart_camelFrom false false s.toList
  rcases camelFrom_cases false s.toList with hnil | ⟨c, rest, hcamel, hfirst⟩
  · left
    rw [lowercase, camelCase, hnil]
    rfl
  · right
    have hstart : isIdentStart c = true := by
      rw [isIdentStart, Bool.or_eq_true, beq_iff_eq]
      exact hfirst.imp_right And.left
    rw [lowercase, camelCase, String.toList_ofList, String.toList_ofList, hcamel, List.map_cons,
      hasIdentForm, isIdentStart_toLower hstart, Bool.true_and, List.all_map, List.all_eq_true]
    intro d hd
    exact isIdentPart_toLower (hparts d (hcamel ▸ List.mem_cons_of_mem c hd))

/-! ## The two ways to an alias -/

/-- **The last element of a path yields the form of an identifier** that is more than an underscore. -/
theorem hasIdentForm_packageIdent (p : String) :
    hasIdentForm (packageIdent p).toList = true ∧ packageIdent p ≠ "_" := by
  unfold packageIdent
  dsimp only
  split
  · decide
  · next h =>
    simp only [Bool.or_eq_true, decide_eq_true_iff, not_or] at h
    exact ⟨(lowercase_camelCase_cases _).resolve_left h.1, h.2⟩

/-- Texts with the form of identifiers are joined to such a text, also when some of them are empty. -/
theorem join_underscore_cases {parts : List String}
    (h : ∀ s ∈ parts, s = "" ∨ hasIdentForm s.toList = true) :
    join "_" parts = "" ∨ hasIdentForm (join "_" parts).toList = true := by
  induction parts with
  | nil => exact Or.inl rfl
  | cons s parts ih =>
    obtain ⟨hs, hparts⟩ := List.forall_mem_cons.1 h
    cases parts with
    | nil =>
      rw [join, String.intercalate_singleton]
      exact hs
    | cons s' parts =>
      right
      have hrest : ∀ c ∈ (join "_" (s' :: parts)).toList, isIdentPart c = true := by
        rcases ih hparts with hempty | hform
        · rw [hempty]
          nofun
        · exact isIdentPart_of_hasIdentForm hform
      have htail : ∀ c ∈ '_' :: (join "_" (s' :: parts)).toList, isIdentPart c = true :=
        List.forall_mem_cons.2 ⟨rfl, hrest⟩
      have hlist : (join "_" (s :: s' :: parts)).toList =
          s.toList ++ '_' :: (join "_" (s' :: parts)).toList := by
        rw [join, String.intercalate_cons_cons, String.toList_append, String.toList_append,
          List.append_assoc]
        rfl
      rw [hlist]
      rcases hs with rfl | hform
      · rw [String.toList_empty, List.nil_append, hasIdentForm, List.all_eq_true.2 hrest]
        rfl
      · exact hasIdentForm_append hform htail

/-- **A whole path yields the form of an identifier**, unless nothing is left of it. -/
theorem hasIdentForm_pathIdent {p : String} (h : pathIdent p ≠ "") :
    hasIdentForm (pathIdent p).toList = true := by
  refine (join_underscore_cases fun s hs => ?_).resolve_left h
  obtain ⟨piece, _, rfl⟩ := List.mem_map.1 hs
  exact lowercase_camelCase_cases _

/-! ## Numbers -/

theorem not_asciiLower_of_isDigit {c : Char} (h : c.isDigit = true) : ¬ AsciiLower c := by
  have hle := toNat_le_of_isDigit h
  rintro ⟨hlow, _⟩
  omega

/-- Keywords have neither digits nor capitals. -/
theorem asciiLower_of_mem_keyword {k : String} (hk : k ∈ keywords) : ∀ c ∈ k.toList, AsciiLower c := by
  have hall : keywords.all (fun k => k.toList.all fun c => decide (AsciiLower c)) = true := by decide
  intro c hc
  exact of_decide_eq_true (List.all_eq_true.1 (List.all_eq_true.1 hall k hk) c hc)

theorem exists_mem_toString (n : Nat) : ∃ d, d ∈ (toString n).toList := by
  refine List.exists_mem_of_ne_nil _ fun hnil => toString_ne_empty n ?_
  exact String.toList_inj.1 hnil

/-- **A number behind it makes an identifier of every text that has the form of one.** -/
theorem isIdentifier_append_toString {base : String} (h : hasIdentForm base.toList = true) (n : Nat) :
    isIdentifier (base ++ toString n) = true := by
  rw [isIdentifier_iff, String.toList_append]
  refine ⟨hasIdentForm_append h (isIdentPart_toString n), fun hkeyword => ?_⟩
  obtain ⟨d, hd⟩ := exists_mem_toString n
  refine not_asciiLower_of_isDigit (isDigit_of_mem_toString hd) ?_
  refine asciiLower_of_mem_keyword hkeyword d ?_
  rw [String.toList_append]
  exact List.mem_append_right _ hd

/-- A number on its own begins with a digit. -/
theorem isIdentifier_toString (n : Nat) : isIdentifier (toString n) = false := by
  have hstart : ∀ k < 0x80, (Char.ofNat k).isDigit = true → isIdentStart (Char.ofNat k) = false := by
    decide
  cases hlist : (toString n).toList with
  | nil => exact absurd (String.toList_inj.1 hlist) (toString_ne_empty n)
  | cons d rest =>
    have hdigit : d.isDigit = true := isDigit_of_mem_toString (n := n) (hlist ▸ List.mem_cons_self)
    have hascii : d.toNat < 0x80 := Nat.lt_of_le_of_lt (toNat_le_of_isDigit hdigit) (by decide)
    have hd := hstart d.toNat hascii
    rw [Char.ofNat_toNat] at hd
    rw [isIdentifier, hlist, hasIdentForm, hd hdigit, Bool.false_and, Bool.false_and]

/-- A free name is an identifier when it was looked for in something with the form of one, and not
found to be a keyword at once. -/
theorem isIdentifier_firstFree_iff (taken : List String) {base : String}
    (h : base = "" ∨ hasIdentForm base.toList = true) :
    isIdentifier (firstFree taken base) = true ↔ base ≠ "" ∧ (base ∈ keywords → base ∈ taken) := by
  by_cases htaken : base ∈ taken
  · -- a number is needed
    obtain ⟨i, hi⟩ : ∃ i, firstFree taken base = base ++ toString (i + 2) := by
      refine (firstFree_eq taken base).resolve_left fun heq => ?_
      exact firstFree_not_mem taken base (by rwa [heq])
    rw [hi]
    rcases h with rfl | hform
    · rw [String.empty_append, isIdentifier_toString]
      exact ⟨fun he => absurd he Bool.false_ne_true, fun hne => absurd rfl hne.1⟩
    · refine ⟨fun _ => ⟨?_, fun _ => htaken⟩, fun _ => isIdentifier_append_toString hform _⟩
      rintro rfl
      cases hform
  · rw [firstFree_of_not_mem htaken, isIdentifier_iff]
    rcases h with rfl | hform
    · exact ⟨fun he => absurd he.1 Bool.false_ne_true, fun hne => absurd rfl hne.1⟩
    · constructor
      · rintro ⟨_, hkeyword⟩
        refine ⟨?_, fun hk => absurd hk hkeyword⟩
        rintro rfl
        cases hform
      · exact fun ⟨_, hkeyword⟩ => ⟨hform, fun hk => htaken (hkeyword hk)⟩

namespace ImportTable

variable {t : ImportTable} {p : String}

/-! ## Aliases of packages -/

/-- What keeps the alias of a new package from being an identifier. -/
inductive Spoils (t : ImportTable) (p : String) : Prop where
  /-- The last element of the path is a keyword. -/
  | keyword (free : packageIdent p ∉ t.aliases) (keyword : packageIdent p ∈ keywords)
  /-- The last element is taken, and the whole path is a keyword. -/
  | keywordPath (taken : packageIdent p ∈ t.aliases) (keyword : pathIdent p ∈ keywords)
      (free : pathIdent p ∉ t.aliases)
  /-- The last element is taken, and nothing is left of the path. -/
  | blankPath (taken : packageIdent p ∈ t.aliases) (blank : pathIdent p = "")

/-- **When the alias of a new package is an identifier.** -/
theorem isIdentifier_freshAlias_iff (t : ImportTable) (p : String) :
    isIdentifier (t.freshAlias p) = true ↔ ¬ t.Spoils p := by
  unfold freshAlias
  by_cases htaken : packageIdent p ∈ t.aliases
  · have hform : pathIdent p = "" ∨ hasIdentForm (pathIdent p).toList = true := by
      by_cases hblank : pathIdent p = ""
      · exact Or.inl hblank
      · exact Or.inr (hasIdentForm_pathIdent hblank)
    rw [if_pos (by simpa using htaken), isIdentifier_firstFree_iff _ hform]
    constructor
    · rintro ⟨hblank, hkeyword⟩ (⟨free, _⟩ | ⟨_, keyword, free⟩ | ⟨_, blank⟩)
      · exact free htaken
      · exact free (hkeyword keyword)
      · exact hblank blank
    · intro h
      refine ⟨fun blank => h (.blankPath htaken blank), fun keyword => ?_⟩
      exact Classical.byContradiction fun free => h (.keywordPath htaken keyword free)
  · rw [if_neg (by simpa using htaken), isIdentifier_iff]
    constructor
    · rintro ⟨_, hkeyword⟩ (⟨_, keyword⟩ | ⟨taken, _, _⟩ | ⟨taken, _⟩)
      · exact hkeyword keyword
      · exact htaken taken
      · exact htaken taken
    · exact fun h => ⟨(hasIdentForm_packageIdent p).1, fun keyword => h (.keyword htaken keyword)⟩

/-- **Which aliases of a file are identifiers.** Whatever names are shortened, both ways to an alias yield
the form of an identifier, the second one unless nothing is left, and a number behind it makes one. What is
handed out are aliases of the table, and the alias of a package is an identifier exactly when nothing spoiled
it as the package was first named. -/
theorem aliases_identifiers_iff (self : String) (names : List String) :
    (∀ p, hasIdentForm (packageIdent p).toList = true ∧ packageIdent p ≠ "_") ∧
    (∀ p, pathIdent p ≠ "" → hasIdentForm (pathIdent p).toList = true ∧
      ∀ n : Nat, isIdentifier (pathIdent p ++ toString n) = true) ∧
    (∀ earlier q later, names = earlier ++ q :: later → Foreign self q →
      ∃ a, ⟨packageOf q, a⟩ ∈ ((empty self).after names).used ∧
        (((empty self).after earlier).shorten q).1 = a ++ "." ++ identOf q) ∧
    ∀ e ∈ ((empty self).after names).used, ∃ earlier q later, names = earlier ++ q :: later ∧
      Foreign self q ∧ packageOf q = e.path ∧ ((empty self).after earlier).aliasOf? e.path = none ∧
      (isIdentifier e.shortName = true ↔ ¬ ((empty self).after earlier).Spoils e.path) := by
  refine ⟨hasIdentForm_packageIdent, fun p h => ?_, ?_, fun e he => ?_⟩
  · exact ⟨hasIdentForm_pathIdent h, isIdentifier_append_toString (hasIdentForm_pathIdent h)⟩
  · rintro earlier q later rfl hforeign
    have hforeign : Foreign ((empty self).after earlier).self q := by rwa [self_after]
    obtain ⟨a, ha, href⟩ := shorten_fst hforeign
    refine ⟨a, ?_, href⟩
    rw [after_append, after_cons]
    exact mem_used_of_aliasOf? (aliasOf?_after ha later)
  · rcases origin he with hnone | ⟨earlier, q, later, hnames, hforeign, hpath, hnew, hfresh⟩
    · cases hnone
    · refine ⟨earlier, q, later, hnames, hforeign, hpath, hnew, ?_⟩
      rw [hfresh]
      exact isIdentifier_freshAlias_iff _ _

/-- **A package whose last element is a keyword** has the keyword for its alias, and the import line leaves
it out. -/
theorem alias_of_keyword :
    let t := (empty "m/out").after ["m/type.A"]
    ((empty "m/out").shorten "m/type.A").1 = "type.A" ∧ t.specs = [⟨"", "m/type"⟩] ∧
    "type" ∈ keywords ∧ ¬ ∀ a ∈ t.aliases, isIdentifier a = true := by
  have hused : ((empty "m/out").after ["m/type.A"]).used = [⟨"m/type", "type"⟩] := by decide +kernel
  refine ⟨by decide +kernel, ?_, by decide, fun h => ?_⟩
  · rw [specs, hused]
    decide +kernel
  · have halias := h "type" (by rw [aliases, hused]; exact List.mem_singleton_self _)
    revert halias
    decide +kernel

end ImportTable

end TaskBuilders.Naming
