import TaskBuilders.Proofs.Definition.Provider

/-!
# Providers made of providers

A safe provider answers with a definition or with a failure that means "not found". A chain asks its
providers in turn until one of them finds a definition or crashes, and fails when none does. What a
chain comes to therefore depends on the first of its providers that settles the question
(`settledBy`), and chains within chains are asked as if they stood in one row.

* `safe_safe` — a safe provider is not made safer
* `askInTurn_eq` — a chain comes to what settles the question, or fails
* `settledBy_nested` — a chain inside a chain settles what its providers settle
* `settledBy_safe` — safe providers are settled by the first definition
* `composition_laws` — all of it together
-/

namespace TaskBuilders.Provider

variable {id : String} {m : Memory} {d : TaskDefinition} {p : Provider} {ps : List Provider}

/-! ## Safe providers -/

/-- A safe answer is the definition of the answer, or a failure that means "not found". -/
theorem safeAnswer_cases (id : String) (a : Answer) :
    (∃ d, a = .found d ∧ safeAnswer id a = .found d) ∨
      (∀ d, a ≠ .found d) ∧ ∃ f, safeAnswer id a = .failed f ∧ f.isNotFound = true := by
  cases a with
  | found d => exact Or.inl ⟨d, rfl, rfl⟩
  | nothing => exact Or.inr ⟨nofun, _, rfl, rfl⟩
  | failed f =>
    refine Or.inr ⟨nofun, ?_⟩
    by_cases hf : f.isNotFound = true
    · exact ⟨f, if_pos hf, hf⟩
    · exact ⟨_, if_neg hf, rfl⟩
  | crashed message => exact Or.inr ⟨nofun, _, rfl, rfl⟩

theorem safeAnswer_of_isNotFound {f : ProviderFailure} (h : f.isNotFound = true) (id : String) :
    safeAnswer id (.failed f) = .failed f := if_pos h

theorem safeAnswer_safeAnswer (id : String) (a : Answer) :
    safeAnswer id (safeAnswer id a) = safeAnswer id a := by
  rcases safeAnswer_cases id a with ⟨d, _, hsafe⟩ | ⟨_, f, hsafe, hf⟩
  · rw [hsafe, safeAnswer]
  · rw [hsafe, safeAnswer_of_isNotFound hf]

/-- **A safe provider is not made safer**, not even in the text of its failures. -/
theorem safe_safe (p : Provider) : p.safe.safe = p.safe := by
  have hask : p.safe.safe.ask = p.safe.ask := by
    funext id m
    exact Prod.ext (safeAnswer_safeAnswer id (p.ask id m).1) rfl
  exact congrArg (Provider.mk p.known p.elements) hask

/-! ## Providers in a row -/

/-- What settles a question that is put to providers in turn: the first definition or crash, if
there is one. Whatever else they answer leaves the question open. -/
def settledBy (id : String) : List Provider → Memory → Option Answer × Memory
  | [], m => (none, m)
  | p :: ps, m =>
    match p.ask id m with
    | (.found d, m') => (some (.found d), m')
    | (.crashed message, m') => (some (.crashed message), m')
    | (.nothing, m') => settledBy id ps m'
    | (.failed _, m') => settledBy id ps m'

/-- A question that some providers leave open goes to the next ones. -/
theorem settledBy_append (id : String) (ps qs : List Provider) (m : Memory) :
    settledBy id (ps ++ qs) m =
      if (settledBy id ps m).1.isSome then settledBy id ps m
      else settledBy id qs (settledBy id ps m).2 := by
  induction ps generalizing m with
  | nil => rfl
  | cons p ps ih =>
    rw [List.cons_append, settledBy, settledBy]
    split
    · rfl
    · rfl
    · exact ih _
    · exact ih _

/-- **A chain comes to what settles the question, or fails.** -/
theorem askInTurn_eq (id : String) (ps : List Provider) (reasons : List String) (m : Memory) :
    ∃ f : ProviderFailure, f.isNotFound = true ∧
      askInTurn id ps reasons m =
      ((settledBy id ps m).1.getD (.failed f), (settledBy id ps m).2) := by
  induction ps generalizing reasons m with
  | nil =>
    cases reasons with
    | nil => exact ⟨_, rfl, rfl⟩
    | cons reason reasons => exact ⟨_, rfl, rfl⟩
  | cons p ps ih =>
    rcases hask : p.ask id m with ⟨a, m'⟩
    rw [askInTurn, settledBy, hask]
    cases a with
    | found d => exact ⟨notFound id, rfl, rfl⟩
    | crashed message => exact ⟨notFound id, rfl, rfl⟩
    | nothing => exact ih reasons m'
    | failed f => exact ih _ m'

theorem ask_chain_eq (id : String) (ps : List Provider) (m : Memory) :
    ∃ f : ProviderFailure, f.isNotFound = true ∧
      (chain ps).ask id m = ((settledBy id ps m).1.getD (.failed f), (settledBy id ps m).2) :=
  askInTurn_eq id ps [] m

/-- A question is settled by a definition or by a crash. -/
theorem settledBy_cases (id : String) (ps : List Provider) (m : Memory) :
    (settledBy id ps m).1 = none ∨ (∃ d, (settledBy id ps m).1 = some (.found d)) ∨
      ∃ message, (settledBy id ps m).1 = some (.crashed message) := by
  induction ps generalizing m with
  | nil => exact Or.inl rfl
  | cons p ps ih =>
    rw [settledBy]
    split
    · next d m' _ => exact Or.inr (Or.inl ⟨d, rfl⟩)
    · next message m' _ => exact Or.inr (Or.inr ⟨message, rfl⟩)
    · exact ih _
    · exact ih _

/-! ## Chains within chains -/

/-- A chain settles what its providers settle in their row. -/
theorem settledBy_chain (id : String) (ps : List Provider) (m : Memory) :
    settledBy id [chain ps] m = settledBy id ps m := by
  obtain ⟨f, _, hask⟩ := ask_chain_eq id ps m
  rw [settledBy, hask]
  rcases settledBy_cases id ps m with h | ⟨d, h⟩ | ⟨message, h⟩
  · rw [h]
    exact Prod.ext h.symm rfl
  · rw [h]
    exact Prod.ext h.symm rfl
  · rw [h]
    exact Prod.ext h.symm rfl

theorem settledBy_nested (id : String) (xs ys zs : List Provider) (m : Memory) :
    settledBy id (xs ++ [chain ys] ++ zs) m = settledBy id (xs ++ ys ++ zs) m := by
  have hinner : settledBy id (xs ++ [chain ys]) m = settledBy id (xs ++ ys) m := by
    rw [settledBy_append, settledBy_append, settledBy_chain]
  rw [settledBy_append, hinner, ← settledBy_append]

/-- Answers with the same definition, or with failures that mean "not found", or crashes with the
same message. -/
inductive Alike : Answer → Answer → Prop where
  | found (d : TaskDefinition) : Alike (.found d) (.found d)
  | failed {f f' : ProviderFailure} (hf : f.isNotFound = true) (hf' : f'.isNotFound = true) :
      Alike (.failed f) (.failed f')
  | crashed (message : String) : Alike (.crashed message) (.crashed message)

/-- Chains of rows that settle a question alike answer it alike. -/
theorem alike_chain {ps qs : List Provider} (h : settledBy id ps m = settledBy id qs m) :
    Alike ((chain ps).ask id m).1 ((chain qs).ask id m).1 ∧
      ((chain ps).ask id m).2 = ((chain qs).ask id m).2 := by
  obtain ⟨f, hf, hps⟩ := ask_chain_eq id ps m
  obtain ⟨f', hf', hqs⟩ := ask_chain_eq id qs m
  rw [hps, hqs, ← h]
  refine ⟨?_, rfl⟩
  rcases settledBy_cases id ps m with hnone | ⟨d, hd⟩ | ⟨message, hcrash⟩
  · rw [hnone]
    exact .failed hf hf'
  · rw [hd]
    exact .found d
  · rw [hcrash]
    exact .crashed message

/-- The text of a failure tells how chains are nested: an inner chain keeps its reasons. -/
example : ((chain [chain [constant (.failed ⟨.other, "down"⟩)]]).ask "x.Saw" []).1 ≠
    ((chain [constant (.failed ⟨.other, "down"⟩)]).ask "x.Saw" []).1 := by decide

/-! ## Chains of safe providers -/

/-- The memory after providers were asked in turn. -/
def memoryAfter (id : String) (ps : List Provider) (m : Memory) : Memory :=
  ps.foldl (fun m p => (p.ask id m).2) m

/-- None of the providers has a definition when they are asked in turn. -/
def Silent (id : String) : List Provider → Memory → Prop
  | [], _ => True
  | p :: ps, m => (∀ d, (p.ask id m).1 ≠ .found d) ∧ Silent id ps (p.ask id m).2

theorem settledBy_safe_of_found (hd : (p.ask id m).1 = .found d) (ps : List Provider) :
    settledBy id (p.safe :: ps) m = (some (.found d), (p.ask id m).2) := by
  have hask : p.safe.ask id m = (.found d, (p.ask id m).2) :=
    Prod.ext ((p.found_safe_iff id m d).2 hd) rfl
  rw [settledBy, hask]

theorem settledBy_safe_of_not_found (h : ∀ d, (p.ask id m).1 ≠ .found d) (ps : List Provider) :
    settledBy id (p.safe :: ps) m = settledBy id ps (p.ask id m).2 := by
  rcases safeAnswer_cases id (p.ask id m).1 with ⟨d, hd, _⟩ | ⟨_, f, hf, _⟩
  · exact absurd hd (h d)
  · have hask : p.safe.ask id m = (.failed f, (p.ask id m).2) := Prod.ext hf rfl
    rw [settledBy, hask]

/-- Silent providers leave a question open once they are safe, however they fail. -/
theorem Silent.settledBy_append : ∀ {ps : List Provider} {m : Memory}, Silent id ps m →
    ∀ qs, settledBy id (ps.map safe ++ qs) m = settledBy id qs (memoryAfter id ps m)
  | [], _, _, _ => rfl
  | p :: ps, m, h, qs => by
    rw [List.map_cons, List.cons_append, settledBy_safe_of_not_found h.1, h.2.settledBy_append]
    rfl

/-- Of providers that are asked in turn all are silent, or a first one has a definition. -/
theorem silent_or_first (id : String) : ∀ (ps : List Provider) (m : Memory), Silent id ps m ∨
    ∃ pre p post d, ps = pre ++ p :: post ∧ Silent id pre m ∧
      (p.ask id (memoryAfter id pre m)).1 = .found d
  | [], _ => Or.inl trivial
  | p :: ps, m => by
    by_cases hp : ∃ d, (p.ask id m).1 = .found d
    · obtain ⟨d, hd⟩ := hp
      exact Or.inr ⟨[], p, ps, d, rfl, trivial, hd⟩
    · have hp : ∀ d, (p.ask id m).1 ≠ .found d := fun d hd => hp ⟨d, hd⟩
      rcases silent_or_first id ps (p.ask id m).2 with hs | ⟨pre, q, post, d, rfl, hpre, hd⟩
      · exact Or.inl ⟨hp, hs⟩
      · exact Or.inr ⟨p :: pre, q, post, d, rfl, ⟨hp, hpre⟩, hd⟩

/-- The first definition settles a question that is put to safe providers. -/
theorem settledBy_safe {pre post : List Provider} (hpre : Silent id pre m)
    (hd : (p.ask id (memoryAfter id pre m)).1 = .found d) :
    (settledBy id ((pre ++ p :: post).map safe) m).1 = some (.found d) := by
  rw [List.map_append, hpre.settledBy_append, List.map_cons, settledBy_safe_of_found hd]

/-- **A chain of safe providers fails when all are silent**, and no text makes it crash. -/
theorem chain_safe_of_silent (h : Silent id ps m) :
    ∃ f, ((chain (ps.map safe)).ask id m).1 = .failed f ∧ f.isNotFound = true := by
  obtain ⟨f, hf, hask⟩ := ask_chain_eq id (ps.map safe) m
  have hopen := h.settledBy_append []
  rw [List.append_nil] at hopen
  rw [hask, hopen]
  exact ⟨f, rfl, hf⟩

/-- **A chain of safe providers has the definition of the first that has one.** -/
theorem found_chain_safe_iff (id : String) (ps : List Provider) (m : Memory) (d : TaskDefinition) :
    ((chain (ps.map safe)).ask id m).1 = .found d ↔
      ∃ pre p post, ps = pre ++ p :: post ∧ Silent id pre m ∧
        (p.ask id (memoryAfter id pre m)).1 = .found d := by
  have hfirst : ∀ {pre p post d'}, ps = pre ++ p :: post → Silent id pre m →
      (p.ask id (memoryAfter id pre m)).1 = .found d' →
      ((chain (ps.map safe)).ask id m).1 = .found d' := by
    rintro pre p post d' rfl hpre hd'
    obtain ⟨f, _, hask⟩ := ask_chain_eq id ((pre ++ p :: post).map safe) m
    rw [hask, settledBy_safe hpre hd']
    rfl
  constructor
  · intro h
    rcases silent_or_first id ps m with hs | ⟨pre, p, post, d', hps, hpre, hd'⟩
    · obtain ⟨f, hf, _⟩ := chain_safe_of_silent hs
      rw [h] at hf
      cases hf
    · have hd := hfirst hps hpre hd'
      rw [h] at hd
      obtain rfl := Answer.found.inj hd
      exact ⟨pre, p, post, hps, hpre, hd'⟩
  · rintro ⟨pre, p, post, hps, hpre, hd⟩
    exact hfirst hps hpre hd

/-! ## Any composition -/

/-- The providers that chains and safe providers are made of, in any nesting, beginning with those
that satisfy `P`. -/
inductive Composed (P : Provider → Prop) : Provider → Prop where
  | base {p : Provider} (h : P p) : Composed P p
  | safe {p : Provider} (h : Composed P p) : Composed P p.safe
  | chain {ps : List Provider} (h : ∀ p ∈ ps, Composed P p) : Composed P (chain ps)

/-- What settles a question was answered by one of the providers. -/
theorem mem_of_settledBy_found : ∀ {ps : List Provider} {m : Memory},
    (settledBy id ps m).1 = some (.found d) → ∃ p ∈ ps, ∃ m', (p.ask id m').1 = .found d
  | [], _, h => by cases h
  | p :: ps, m, h => by
    rw [settledBy] at h
    split at h
    · next d' m' hask =>
      obtain rfl := Answer.found.inj (Option.some.inj h)
      exact ⟨p, List.mem_cons_self, m, by rw [hask]⟩
    · cases Option.some.inj h
    · obtain ⟨q, hq, hfound⟩ := mem_of_settledBy_found h
      exact ⟨q, List.mem_cons_of_mem p hq, hfound⟩
    · obtain ⟨q, hq, hfound⟩ := mem_of_settledBy_found h
      exact ⟨q, List.mem_cons_of_mem p hq, hfound⟩

theorem mem_of_chain_found (h : ((chain ps).ask id m).1 = .found d) :
    ∃ p ∈ ps, ∃ m', (p.ask id m').1 = .found d := by
  obtain ⟨f, _, hask⟩ := ask_chain_eq id ps m
  rw [hask] at h
  rcases settledBy_cases id ps m with hnone | ⟨d', hd'⟩ | ⟨message, hcrash⟩
  · rw [hnone] at h
    cases h
  · rw [hd'] at h
    obtain rfl := Answer.found.inj h
    exact mem_of_settledBy_found hd'
  · rw [hcrash] at h
    cases h

theorem faithful_chain (h : ∀ p ∈ ps, p.Faithful) : (chain ps).Faithful := by
  intro id m d hd
  obtain ⟨p, hp, m', hfound⟩ := mem_of_chain_found hd
  exact h p hp id m' d hfound

/-- **Whatever is made of faithful providers is faithful.** -/
theorem Composed.faithful (h : Composed Faithful p) : p.Faithful := by
  induction h with
  | base h => exact h
  | safe _ ih => exact ih.safe
  | chain _ ih => exact faithful_chain ih

/-! ## The laws -/

/-- **The laws of composed providers.** A safe provider never crashes: it has the definition of the
provider or a failure that means "not found", and it is not made safer. A chain within a chain may
be written out, up to the text of failures. A chain of safe providers has the definition of the
first one that has any, and fails otherwise. Faithful providers make faithful ones. -/
theorem composition_laws (p : Provider) (xs ys zs ps : List Provider) (id : String) (m : Memory) :
    ((∃ d, (p.ask id m).1 = .found d ∧ (p.safe.ask id m).1 = .found d) ∨
      (∀ d, (p.ask id m).1 ≠ .found d) ∧
        ∃ f, (p.safe.ask id m).1 = .failed f ∧ f.isNotFound = true) ∧
    p.safe.safe = p.safe ∧
    (Alike ((chain (xs ++ [chain ys] ++ zs)).ask id m).1 ((chain (xs ++ ys ++ zs)).ask id m).1 ∧
      ((chain (xs ++ [chain ys] ++ zs)).ask id m).2 = ((chain (xs ++ ys ++ zs)).ask id m).2) ∧
    ((∀ d, ((chain (ps.map safe)).ask id m).1 = .found d ↔
        ∃ pre q post, ps = pre ++ q :: post ∧ Silent id pre m ∧
          (q.ask id (memoryAfter id pre m)).1 = .found d) ∧
      (Silent id ps m →
        ∃ f, ((chain (ps.map safe)).ask id m).1 = .failed f ∧ f.isNotFound = true)) ∧
    ∀ q, Composed Faithful q → q.Faithful :=
  ⟨safeAnswer_cases id (p.ask id m).1, p.safe_safe, alike_chain (settledBy_nested id xs ys zs m),
    ⟨found_chain_safe_iff id ps m, chain_safe_of_silent⟩, fun _ hq => hq.faithful⟩

end TaskBuilders.Provider
