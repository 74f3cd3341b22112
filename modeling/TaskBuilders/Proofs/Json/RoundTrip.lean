import TaskBuilders.Json.Parser
import TaskBuilders.Json.Printer

/-!
# Reading what was written

An indented value is read back, whatever is open around it and whatever follows it.

The proof has two parts.

* **Strings.** Every escape is read as the character it stands for (`stringUnits_escapeChar`), and the
  characters of a text never look like halves of surrogate pairs (`joinHalves_map_toNat`).
* **Values.** `Reads d v` says that a reader that wants a value gets `v` from its text, with at most `d`
  frames more. Scalars read with none, and arrays and objects with one more than their parts.

A document is read back by `parseFirst_document`.
-/

namespace TaskBuilders.Json

open Text

/-! ## Escapes -/

theorem hexValue?_hexDigit (n : Nat) : hexValue? (hexDigit n) = some (n % 16) := by
  have hall : ∀ r < 16, hexValue?
      (if r < 10 then Char.ofNat (0x30 + r) else Char.ofNat (0x57 + r)) = some r := by decide
  exact hall (n % 16) (Nat.mod_lt n (by decide))

/-- Four hexadecimal digits write every number below 65536. -/
theorem hexUnit?_hexDigits {n : Nat} (h : n < 0x10000) :
    ∃ a b c d, hexDigits n 4 = [a, b, c, d] ∧ hexUnit? a b c d = some n := by
  refine ⟨hexDigit (n / 16 / 16 / 16), hexDigit (n / 16 / 16), hexDigit (n / 16), hexDigit n, rfl, ?_⟩
  simp only [hexUnit?, hexValue?_hexDigit, Option.bind_eq_bind, Option.bind_some, Option.some.injEq]
  omega

/-- A unit in front of the units of a text. -/
def consUnit (u : Nat) (x : Option (List Nat × List Char)) : Option (List Nat × List Char) :=
  x.map fun (us, rest) => (u :: us, rest)

theorem stringUnits_unicode {n : Nat} (h : n < 0x10000) (cs : List Char) :
    stringUnits ('\\' :: 'u' :: hexDigits n 4 ++ cs) = consUnit n (stringUnits cs) := by
  obtain ⟨a, b, c, d, hdigits, hunit⟩ := hexUnit?_hexDigits h
  rw [hdigits]
  show stringUnits ('\\' :: 'u' :: a :: b :: c :: d :: cs) = _
  rw [stringUnits, hunit]
  cases stringUnits cs <;> rfl

theorem stringUnits_letter {e c : Char} (h : unescape? e = some c) (cs : List Char) :
    stringUnits ('\\' :: e :: cs) = consUnit c.toNat (stringUnits cs) := by
  have hu : e ≠ 'u' := by
    rintro rfl
    cases h
  rw [stringUnits, h]
  · cases stringUnits cs <;> rfl
  · exact fun _ _ _ _ _ he => absurd he hu

theorem stringUnits_plain {c : Char} (hquote : c ≠ '"') (hback : c ≠ '\\') (hc : 0x20 ≤ c.toNat)
    (cs : List Char) : stringUnits (c :: cs) = consUnit c.toNat (stringUnits cs) := by
  have hplain : ¬ (decide (c.toNat < 0x20) || decide (c = '\\')) = true := by
    simp only [Bool.or_eq_true, decide_eq_true_iff, not_or]
    exact ⟨by omega, hback⟩
  rw [stringUnits]
  · rw [if_neg hplain]
    cases stringUnits cs <;> rfl
  -- the equations before this one are for quotes and backslashes
  · exact hquote
  · intros; exact hback ‹_›
  · intros; exact hback ‹_›

theorem eq_ofNat_of_toNat {c : Char} {n : Nat} (h : c.toNat = n) : c = Char.ofNat n := by
  rw [← h, Char.ofNat_toNat]

/-- An escaped character is read as the character. -/
theorem stringUnits_escapeChar (c : Char) (cs : List Char) :
    stringUnits (escapeChar c ++ cs) = consUnit c.toNat (stringUnits cs) := by
  unfold escapeChar
  split
  · next h =>
    rw [Bool.or_eq_true, decide_eq_true_iff, decide_eq_true_iff] at h
    rcases h with rfl | rfl
    · exact stringUnits_letter rfl cs
    · exact stringUnits_letter rfl cs
  · next hquoted =>
    rw [Bool.or_eq_true, decide_eq_true_iff, decide_eq_true_iff, not_or] at hquoted
    -- five control characters have a letter, the others are written by their number
    split
    · next h => rw [eq_ofNat_of_toNat h]; exact stringUnits_letter rfl cs
    · next h => rw [eq_ofNat_of_toNat h]; exact stringUnits_letter rfl cs
    · next h => rw [eq_ofNat_of_toNat h]; exact stringUnits_letter rfl cs
    · next h => rw [eq_ofNat_of_toNat h]; exact stringUnits_letter rfl cs
    · next h => rw [eq_ofNat_of_toNat h]; exact stringUnits_letter rfl cs
    · split
      · next h =>
        refine stringUnits_unicode ?_ cs
        simp only [Bool.or_eq_true, decide_eq_true_iff] at h
        rcases h with ((((h | rfl) | rfl) | rfl) | h) | h
        · omega
        · decide
        · decide
        · decide
        · omega
        · omega
      · next h =>
        simp only [Bool.or_eq_true, decide_eq_true_iff, not_or] at h
        exact stringUnits_plain hquoted.1 hquoted.2 (by omega) cs

theorem stringUnits_flatMap_escapeChar (cs rest : List Char) :
    stringUnits (cs.flatMap escapeChar ++ '"' :: rest) = some (cs.map Char.toNat, rest) := by
  induction cs with
  | nil => rfl
  | cons c cs ih =>
    rw [List.flatMap_cons, List.append_assoc, stringUnits_escapeChar, ih]
    rfl

/-! ## Characters -/

theorem not_half_toNat (c : Char) : isHighHalf c.toNat = false ∧ isLowHalf c.toNat = false := by
  have hvalid : c.toNat < 0xD800 ∨ 0xDFFF < c.toNat ∧ c.toNat < 0x110000 := c.valid
  unfold isHighHalf isLowHalf
  simp only [Bool.and_eq_false_iff, decide_eq_false_iff_not]
  omega

/-- The characters of a text never look like halves of surrogate pairs. -/
theorem joinHalves_map_toNat : ∀ cs : List Char, joinHalves (cs.map Char.toNat) = cs
  | [] => by rw [List.map_nil, joinHalves]
  | [c] => by
    obtain ⟨hhigh, hlow⟩ := not_half_toNat c
    rw [List.map_cons, List.map_nil, joinHalves, hhigh, hlow]
    exact congrArg (· :: []) (Char.ofNat_toNat c)
  | c :: d :: cs => by
    obtain ⟨hhigh, hlow⟩ := not_half_toNat c
    rw [List.map_cons, List.map_cons, joinHalves, hhigh, hlow, if_neg Bool.false_ne_true,
      if_neg Bool.false_ne_true, ← List.map_cons, joinHalves_map_toNat (d :: cs), Char.ofNat_toNat]

theorem readString_flatMap_escapeChar (s : String) (rest : List Char) :
    readString (s.toList.flatMap escapeChar ++ '"' :: rest) = some (s, rest) := by
  rw [readString, stringUnits_flatMap_escapeChar]
  show some (String.ofList (joinHalves (s.toList.map Char.toNat)), rest) = _
  rw [joinHalves_map_toNat, String.ofList_toList]

/-- **A string literal is read as its text.** -/
theorem readToken_writeString (s : String) (rest : List Char) :
    readToken (writeString s ++ rest) = some (.scalar (.string s), rest) := by
  have htext : writeString s ++ rest = '"' :: (s.toList.flatMap escapeChar ++ '"' :: rest) := by
    rw [writeString, List.cons_append, List.cons_append, List.append_assoc]
    rfl
  rw [htext]
  show (readString _).map _ = _
  rw [readString_flatMap_escapeChar]
  rfl

/-! ## Running the reader -/

/-- Goes on behind a step: with the machine it leads to, or with the value it completes. -/
def resume : Machine ⊕ Json → List Char → Option (Json × List Char)
  | .inl m, cs => m.run cs
  | .inr v, cs => some (v, cs)

theorem run_eq (m : Machine) (cs : List Char) :
    m.run cs = (readToken (cs.dropWhile isSpace)).bind fun (t, rest) =>
      (m.step t).bind (resume · rest) := by
  rw [Machine.run]
  split
  · next h => rw [h]; rfl
  · next t rest h =>
    rw [h]
    show _ = (m.step t).bind (resume · rest)
    split
    · next hs => rw [hs]; rfl
    · next hs => rw [hs]; rfl
    · next hs => rw [hs]; rfl

/-- A token is taken, and the machine makes its step. -/
theorem run_of_readToken {m : Machine} {cs rest : List Char} {t : Token}
    (hspace : cs.dropWhile isSpace = cs) (h : readToken cs = some (t, rest)) :
    m.run cs = (m.step t).bind (resume · rest) := by
  rw [run_eq, hspace, h]
  rfl

/-- White space in front of a token does not count. -/
theorem run_newline (m : Machine) (level : Nat) (cs : List Char) :
    m.run (newline level ++ cs) = m.run cs := by
  have hblank : (newline level ++ cs).dropWhile isSpace = cs.dropWhile isSpace := by
    rw [List.dropWhile_append_of_pos]
    intro c hc
    rcases List.mem_cons.1 hc with rfl | hc
    · rfl
    · rw [(List.mem_replicate.1 hc).2]
      rfl
  rw [run_eq, run_eq, hblank]

theorem run_space (m : Machine) (cs : List Char) : m.run (' ' :: cs) = m.run cs := by
  rw [run_eq, run_eq]
  rfl

theorem run_writeString (m : Machine) (s : String) (rest : List Char) :
    m.run (writeString s ++ rest) = (m.step (.scalar (.string s))).bind (resume · rest) :=
  run_of_readToken rfl (readToken_writeString s rest)

/-! ## Values -/

/-- The machine wants a value inside the frames of `stack`. -/
def Machine.WantsValue (m : Machine) (stack : List Frame) : Prop :=
  m.stack = stack ∧ (m.expect = .value ∨ m.expect = .firstItem)

theorem Machine.WantsValue.step {m : Machine} {stack : List Frame} (h : m.WantsValue stack)
    {t : Token} (ht : t ≠ .closeBracket) : m.step t = beginValue t stack := by
  obtain ⟨rfl, he | he⟩ := h
  · unfold Machine.step
    rw [he]
  · unfold Machine.step
    rw [he]
    cases t with
    | closeBracket => exact absurd rfl ht
    | _ => rfl

/-- The text of `v` is read as `v`, whatever is open around it and whatever follows it, with at most
`d` frames more. -/
def Reads (d : Nat) (v : Json) : Prop :=
  ∀ (level : Nat) (m : Machine) (stack : List Frame) (rest : List Char), m.WantsValue stack →
    stack.length + d ≤ maxDepth →
    m.run (writeIndented level v ++ rest) = resume (complete v stack) rest

theorem Reads.mono {d e : Nat} {v : Json} (h : Reads d v) (hde : d ≤ e) : Reads e v :=
  fun level m stack rest hm hdepth => h level m stack rest hm (by omega)

theorem reads_null : Reads 0 .null := by
  intro level m stack rest hm _
  show m.run ('n' :: 'u' :: 'l' :: 'l' :: rest) = _
  rw [run_of_readToken rfl rfl, hm.step (t := .scalar .null) nofun]
  rfl

theorem reads_string (s : String) : Reads 0 (.string s) := by
  intro level m stack rest hm _
  rw [writeIndented, run_writeString, hm.step (t := .scalar (.string s)) nofun]
  rfl

/-! ### Arrays -/

/-- The items of an array behind the first are read, and then the array is complete. -/
theorem run_writeItems {d : Nat} {stack : List Frame}
    (hdepth : stack.length + 1 + d ≤ maxDepth) (level : Nat) (rest : List Char) :
    ∀ (vs done : List Json), (∀ v ∈ vs, Reads d v) →
      Machine.run { expect := .separator, stack := .array done :: stack }
        (writeItems (level + 1) vs ++ (newline level ++ ']' :: rest)) =
      resume (complete (.array (done.reverse ++ vs)) stack) rest
  | [], done, _ => by
    rw [writeItems, List.nil_append, run_newline, run_of_readToken rfl rfl, List.append_nil]
    rfl
  | v :: vs, done, hvs => by
    have hv := hvs v List.mem_cons_self
    have ih := run_writeItems hdepth level rest vs (v :: done)
      fun w hw => hvs w (List.mem_cons_of_mem v hw)
    have htext : writeItems (level + 1) (v :: vs) ++ (newline level ++ ']' :: rest) =
        ',' :: (newline (level + 1) ++ (writeIndented (level + 1) v ++
          (writeItems (level + 1) vs ++ (newline level ++ ']' :: rest)))) := by
      simp only [writeItems, List.cons_append, List.append_assoc]
    rw [htext, run_of_readToken rfl rfl]
    show Machine.run { expect := .value, stack := .array done :: stack } _ = _
    rw [run_newline, hv (level + 1) _ (.array done :: stack) _ ⟨rfl, Or.inl rfl⟩ hdepth]
    show Machine.run { expect := .separator, stack := .array (v :: done) :: stack } _ = _
    rw [ih, List.reverse_cons, List.append_assoc]
    rfl

/-- A frame is opened while the depth allows it. -/
theorem openFrame_of_lt {stack : List Frame} (h : stack.length < maxDepth) (expect : Expect)
    (frames : List Frame) :
    openFrame expect frames stack = some (.inl { expect, stack := frames ++ stack }) :=
  if_neg (Nat.not_le.2 h)

theorem reads_array {d : Nat} {vs : List Json} (h : ∀ v ∈ vs, Reads d v) :
    Reads (d + 1) (.array vs) := by
  intro level m stack rest hm hdepth
  have hopen : m.step .openBracket =
      some (.inl { expect := .firstItem, stack := .array [] :: stack }) := by
    rw [hm.step (t := .openBracket) nofun]
    exact openFrame_of_lt (by omega) .firstItem [.array []]
  cases vs with
  | nil =>
    rw [writeIndented]
    show m.run ('[' :: ']' :: rest) = _
    rw [run_of_readToken rfl rfl, hopen]
    show Machine.run _ (']' :: rest) = _
    rw [run_of_readToken rfl rfl]
    rfl
  | cons v vs =>
    have htext : writeIndented level (.array (v :: vs)) ++ rest =
        '[' :: (newline (level + 1) ++ (writeIndented (level + 1) v ++
          (writeItems (level + 1) vs ++ (newline level ++ ']' :: rest)))) := by
      simp only [writeIndented, List.cons_append, List.append_assoc, List.nil_append]
    rw [htext, run_of_readToken rfl rfl, hopen]
    -- the first item has no comma in front of it
    show Machine.run { expect := .firstItem, stack := .array [] :: stack } _ = _
    rw [run_newline, h v List.mem_cons_self (level + 1) _ (.array [] :: stack) _
      ⟨rfl, Or.inr rfl⟩ (by rw [List.length_cons]; omega)]
    exact run_writeItems (by omega) level rest vs [v] fun w hw => h w (List.mem_cons_of_mem v hw)

/-! ### Objects -/

/-- A member is read by a machine that wants its key, behind the members `done`. -/
theorem run_member {d : Nat} {stack : List Frame} {m : Machine} {k : String} {v : Json}
    {done : List (String × Json)} (hv : Reads d v) (hdepth : stack.length + 1 + d ≤ maxDepth)
    (level : Nat) (hkey : m.step (.scalar (.string k)) =
      some (.inl { expect := .colon k, members := done, stack })) (rest : List Char) :
    m.run (writeString k ++ (':' :: ' ' :: (writeIndented level v ++ rest))) =
      Machine.run { expect := .separator, stack := .object ((k, v) :: done) k :: stack } rest := by
  rw [run_writeString, hkey]
  show Machine.run { expect := .colon k, members := done, stack } _ = _
  rw [run_of_readToken rfl rfl]
  show Machine.run { expect := .value, stack := .object done k :: stack } _ = _
  rw [run_space, hv level _ (.object done k :: stack) rest ⟨rfl, Or.inl rfl⟩ hdepth]
  rfl

/-- The members of an object behind the first are read, and then the object is complete. -/
theorem run_writeMembers {d : Nat} {stack : List Frame}
    (hdepth : stack.length + 1 + d ≤ maxDepth) (level : Nat) (rest : List Char) :
    ∀ (ms done : List (String × Json)) (k₀ : String), (∀ e ∈ ms, Reads d e.2) →
      Machine.run { expect := .separator, stack := .object done k₀ :: stack }
        (writeMembers (level + 1) ms ++ (newline level ++ '}' :: rest)) =
      resume (complete (.object (done.reverse ++ ms)) stack) rest
  | [], done, k₀, _ => by
    rw [writeMembers, List.nil_append, run_newline, run_of_readToken rfl rfl, List.append_nil]
    rfl
  | (k, v) :: ms, done, k₀, hms => by
    have hv := hms (k, v) List.mem_cons_self
    have ih := run_writeMembers hdepth level rest ms ((k, v) :: done) k
      fun e he => hms e (List.mem_cons_of_mem _ he)
    have htext : writeMembers (level + 1) ((k, v) :: ms) ++ (newline level ++ '}' :: rest) =
        ',' :: (newline (level + 1) ++ (writeString k ++ (':' :: ' ' ::
          (writeIndented (level + 1) v ++
            (writeMembers (level + 1) ms ++ (newline level ++ '}' :: rest)))))) := by
      simp only [writeMembers, List.cons_append, List.append_assoc, List.nil_append]
    rw [htext, run_of_readToken rfl rfl]
    show Machine.run { expect := .key, members := done, stack } _ = _
    rw [run_newline, run_member hv hdepth (level + 1) rfl, ih, List.reverse_cons, List.append_assoc]
    rfl

theorem reads_object {d : Nat} {ms : List (String × Json)} (h : ∀ e ∈ ms, Reads d e.2) :
    Reads (d + 1) (.object ms) := by
  intro level m stack rest hm hdepth
  have hopen : m.step .openBrace = some (.inl { expect := .firstKey, stack }) := by
    rw [hm.step (t := .openBrace) nofun]
    exact openFrame_of_lt (by omega) .firstKey []
  cases ms with
  | nil =>
    rw [writeIndented]
    show m.run ('{' :: '}' :: rest) = _
    rw [run_of_readToken rfl rfl, hopen]
    show Machine.run _ ('}' :: rest) = _
    rw [run_of_readToken rfl rfl]
    rfl
  | cons e ms =>
    obtain ⟨k, v⟩ := e
    have htext : writeIndented level (.object ((k, v) :: ms)) ++ rest =
        '{' :: (newline (level + 1) ++ (writeString k ++ (':' :: ' ' ::
          (writeIndented (level + 1) v ++
            (writeMembers (level + 1) ms ++ (newline level ++ '}' :: rest)))))) := by
      simp only [writeIndented, List.cons_append, List.append_assoc, List.nil_append]
    rw [htext, run_of_readToken rfl rfl, hopen]
    show Machine.run { expect := .firstKey, stack } _ = _
    -- the frame of the object is pushed with its first member
    have hinner : stack.length + 1 + d ≤ maxDepth := by omega
    rw [run_newline, run_member (h (k, v) List.mem_cons_self) hinner (level + 1) rfl]
    exact run_writeMembers (by omega) level rest ms [(k, v)] k
      fun e he => h e (List.mem_cons_of_mem _ he)

/-! ## Documents -/

/-- **A document is read back**, as long as it is not nested too deeply. -/
theorem parseFirst_document {d : Nat} {v : Json} (h : Reads d v) (hd : d ≤ maxDepth) :
    parseFirst v.document = some (v, ['\n']) := by
  rw [parseFirst, document, String.toList_ofList]
  exact h 0 _ [] ['\n'] ⟨rfl, Or.inl rfl⟩ (by rw [List.length_nil]; omega)

end TaskBuilders.Json
