import Mathlib.Data.List.Count
import Mathlib.Logic.Relation
import Mathlib.Order.WellFounded
import TaskBuilders.Proofs.Script.Placement

/-!
# The forest of nodes

Nodes can be built, written to, configured, run and evaluated in any order and any number of times, also
by the executor while it runs a node. Whatever is done, the nodes make a forest: a node comes after its
parent, and it is attached once at its place or, before it is configured, nowhere.

What the executor does while it runs is part of the history of a project. `Acts` is therefore defined
with the executor's own doings inside the call that they belong to, and an invariant that each operation
keeps is carried through a call by what happens inside.

* `Acts` — what can happen to a project, with the events that it leaves
* `Forest` — the invariant, with one lemma for each kind of change
* `Acts.forest` — whatever happens keeps it
* `Acts.failures`, `Acts.calls` — what is recorded of the calls of the executor
* `acts_keep_forest` — what is true of every history
-/

namespace TaskBuilders.Script

open Relation

variable {β : Type}

/-! ## Calls of the executor -/

/-- What a call of the executor failed with. -/
def causeOf : Except String Bool → Option String
  | .error cause => some cause
  | .ok _ => none

namespace Project

variable {p p' : Project β} {n k : NodeId} {d : Node} {ex : Option (Executor β)} {x : Executor β}

/-- The project as the executor sees it when it is to run a node. -/
def begun (p : Project β) (n : NodeId) : Project β :=
  { p.modifyNode n ({ · with executed := true }) with calls := p.calls ++ [.execute n] }

/-- The project as the executor sees it when it is to evaluate a node. -/
def asked (p : Project β) (n : NodeId) : Project β := { p with calls := p.calls ++ [.eval n] }

/-- Records the failure of a call, if it failed. -/
def settle (p : Project β) (tag : String) : Option String → Project β
  | some cause => p.fail tag cause
  | none => p

/-- Whether a node would be run: it is outermost and has not been run. -/
def runnable (p : Project β) (n : NodeId) : Bool :=
  (p.heading? n).elim false fun d => d.outermost && !d.executed

theorem runnable_eq (h : p.heading? n = some d) : p.runnable n = (d.outermost && !d.executed) := by
  rw [runnable, h]
  rfl

/-- A node that is not to be run is not run. -/
theorem execute_of_not_runnable (h : p.runnable n = false) : p.execute ex n = p := by
  rw [execute]
  split
  · rfl
  · next node hnode =>
    rw [runnable_eq (heading?_of_node hnode)] at h
    refine if_pos ?_
    rw [← Bool.not_eq_false', Bool.not_or, Bool.not_not]
    exact h

theorem execute_none (h : p.runnable n = true) :
    p.execute none n = p.modifyNode n ({ · with executed := true }) := by
  rw [execute]
  split
  · next hnode => simp [runnable, heading?, hnode] at h
  · next node hnode =>
    rw [runnable_eq (heading?_of_node hnode)] at h
    refine if_neg ?_
    simpa [Node.heading] using h

/-- A node that is to be run is handed to the executor, with the mark that it has been run. -/
theorem execute_some (h : p.heading? n = some d) (hrun : p.runnable n = true) :
    p.execute (some x) n = (x.execute n (p.begun n)).1.settle d.tag (x.execute n (p.begun n)).2 := by
  obtain ⟨node, hnode, rfl⟩ := exists_node_of_heading? h
  rw [runnable_eq h] at hrun
  have hguard : ¬ (!node.outermost || node.executed) = true := by simpa [Node.heading] using hrun
  rw [execute, hnode]
  dsimp only
  rw [if_neg hguard]
  split
  · next q cause hx =>
    rw [show x.execute n (p.begun n) = (q, some cause) from hx]
    rfl
  · next q hx =>
    rw [show x.execute n (p.begun n) = (q, none) from hx]
    rfl

theorem eval_none (p : Project β) (n : NodeId) : (p.eval none n).1 = p := by
  unfold eval
  split
  · next heq => cases heq
  · rfl

theorem eval_some (h : p.heading? n = some d) : (p.eval (some x) n).1 =
    (x.eval n (p.asked n)).1.settle d.tag (causeOf (x.eval n (p.asked n)).2) := by
  obtain ⟨node, hnode, rfl⟩ := exists_node_of_heading? h
  unfold eval
  rw [hnode]
  dsimp only
  split
  · next q cause hx =>
    rw [show x.eval n (p.asked n) = (q, .error cause) from hx]
    rfl
  · next q b hx =>
    rw [show x.eval n (p.asked n) = (q, .ok b) from hx]
    rfl

theorem heading?_begun (h : p.heading? n = some d) (k : NodeId) :
    (p.begun n).heading? k = if k = n then some { d with executed := true } else p.heading? k := by
  refine (heading?_modifyNode (g := ({ · with executed := true })) (by intro; rfl) p n k).trans ?_
  by_cases hk : k = n
  · rw [if_pos hk, if_pos hk, hk, h]
    rfl
  · rw [if_neg hk, if_neg hk]

theorem listAt_begun (p : Project β) (n : NodeId) (place : Place) :
    (p.begun n).listAt place = p.listAt place :=
  listAt_modifyNode (f := ({ · with executed := true })) (by intro; rfl) p n place

theorem sameForest_settle (p : Project β) (tag : String) (cause : Option String) :
    SameForest p (p.settle tag cause) := by
  cases cause with
  | none => exact .refl p
  | some cause => exact .of_eq rfl rfl

theorem calls_settle (p : Project β) (tag : String) (cause : Option String) :
    (p.settle tag cause).calls = p.calls := by
  cases cause <;> rfl

theorem failures_settle (p : Project β) (tag : String) (cause : Option String) :
    (p.settle tag cause).failures = p.failures ++ (cause.map (⟨tag, ·⟩)).toList := by
  cases cause with
  | none => exact (List.append_nil _).symm
  | some cause => rfl

/-! ## What is recorded -/

/-- The executor was not called, and nothing failed. -/
structure SameRecords (p p' : Project β) : Prop where
  calls : p'.calls = p.calls
  failures : p'.failures = p.failures

theorem sameRecords_addNode (p : Project β) (parent : NodeId) (typeId tag : String)
    (outermost : Bool) : SameRecords p (p.addNode parent typeId tag outermost).1 := by
  unfold addNode
  split <;> exact ⟨rfl, rfl⟩

theorem sameRecords_configure (p : Project β) (n : NodeId) : SameRecords p (p.configure n) := by
  unfold configure
  split
  · exact ⟨rfl, rfl⟩
  · split
    · exact ⟨rfl, rfl⟩
    · dsimp only
      split <;> exact ⟨rfl, rfl⟩

theorem sameRecords_takeReference (p : Project β) (n : NodeId) :
    SameRecords p (p.takeReference n).1 := by
  rcases p.takeReference_cases n with h | ⟨k, id, h⟩
  · rw [h]; exact ⟨rfl, rfl⟩
  · rw [h]; exact ⟨rfl, rfl⟩

theorem length_targets_configure (p : Project β) (n : NodeId) :
    (p.configure n).targets.length = p.targets.length := by
  unfold configure
  split
  · rfl
  · split
    · rfl
    · dsimp only
      split
      · rfl
      · exact List.length_modify ..

end Project

/-! ## What can happen -/

/-- What is left of an operation. -/
inductive Event where
  /-- A node was built. -/
  | built (n : NodeId)
  /-- A node was configured, perhaps again. -/
  | configured (n : NodeId)
  /-- A call of the executor came to its end. -/
  | returned (call : Call) (failure : Option Failure)
deriving Repr, DecidableEq

namespace Event

/-- The failure of a call that came to its end. -/
def failure? : Event → Option Failure
  | returned _ failure => failure
  | _ => none

/-- The call that came to its end. -/
def call? : Event → Option Call
  | returned call _ => some call
  | _ => none

end Event

/-- What can happen to a project, and the events that it leaves. Operations come in any order. When the
executor is called, what it does to the project happens inside the call and is made of operations, too;
the call comes to its end after them. -/
inductive Acts (ex : Option (Executor β)) : Project β → List Event → Project β → Prop where
  | done (p : Project β) : Acts ex p [] p
  | node {p p' : Project β} {es : List Event} (parent : NodeId) (typeId tag : String)
      (outermost : Bool) (known : parent < p.nodes.length)
      (rest : Acts ex (p.addNode parent typeId tag outermost).1 es p') :
      Acts ex p (.built p.nodes.length :: es) p'
  | set {p p' : Project β} {es : List Event} (n : NodeId) (name : String) (v : AttributeValue)
      (rest : Acts ex (p.setAttribute n name v) es p') : Acts ex p es p'
  | text {p p' : Project β} {es : List Event} (n : NodeId) (s : String)
      (rest : Acts ex (p.addText n s) es p') : Acts ex p es p'
  | reference {p p' : Project β} {es : List Event} (n : NodeId)
      (rest : Acts ex (p.takeReference n).1 es p') : Acts ex p es p'
  | configure {p p' : Project β} {es : List Event} (n : NodeId) (known : n < p.nodes.length)
      (rest : Acts ex (p.configure n) es p') : Acts ex p (.configured n :: es) p'
  /-- A container runs its block, which is what happens next. -/
  | container {p p' : Project β} {es : List Event} (n : NodeId)
      (rest : Acts ex (p.collect n) es p') : Acts ex p es p'
  | target {p p' : Project β} {es : List Event} (name : String) (depends : List String)
      (body : Option β) (rest : Acts ex (p.declare name depends body).1 es p') : Acts ex p es p'
  /-- A node is to be run, but there is nothing to run or nobody to run it. -/
  | executeUnheard {p p' : Project β} {es : List Event} (n : NodeId)
      (unheard : ex = none ∨ p.runnable n = false) (rest : Acts ex (p.execute ex n) es p') :
      Acts ex p es p'
  | execute {p p' : Project β} {es es' : List Event} {x : Executor β} {d : Node} (n : NodeId)
      (executor : ex = some x) (known : p.heading? n = some d) (runnable : p.runnable n = true)
      (inside : Acts ex (p.begun n) es (x.execute n (p.begun n)).1)
      (rest : Acts ex (p.execute ex n) es' p') :
      Acts ex p (es ++ .returned (.execute n)
        ((x.execute n (p.begun n)).2.map (⟨d.tag, ·⟩)) :: es') p'
  /-- A node is to be evaluated, but there is nobody to do it. -/
  | evalUnheard {p p' : Project β} {es : List Event} (n : NodeId) (unheard : ex = none)
      (rest : Acts ex (p.eval ex n).1 es p') : Acts ex p es p'
  | eval {p p' : Project β} {es es' : List Event} {x : Executor β} {d : Node} (n : NodeId)
      (executor : ex = some x) (known : p.heading? n = some d)
      (inside : Acts ex (p.asked n) es (x.eval n (p.asked n)).1)
      (rest : Acts ex (p.eval ex n).1 es' p') :
      Acts ex p (es ++ .returned (.eval n)
        ((causeOf (x.eval n (p.asked n)).2).map (⟨d.tag, ·⟩)) :: es') p'

namespace Acts

open Project

variable {ex : Option (Executor β)} {p p' : Project β} {es : List Event}

/-- **The recorded failures are those of the calls that came to their end**, in that order. -/
theorem failures (h : Acts ex p es p') :
    p'.failures = p.failures ++ es.filterMap Event.failure? := by
  -- a call records its failure behind those of the calls inside it
  have hcall : ∀ {q : Project β} {tag : String} {cause : Option String} {es es' : List Event}
      {call : Call} {p p' : Project β},
      q.failures = p.failures ++ es.filterMap Event.failure? →
      p'.failures = (q.settle tag cause).failures ++ es'.filterMap Event.failure? →
      p'.failures = p.failures ++ (es ++ .returned call (cause.map (⟨tag, ·⟩)) :: es').filterMap
        Event.failure? := by
    intro q tag cause es es' call p p' hinside hrest
    rw [hrest, failures_settle, hinside, List.filterMap_append, List.filterMap_cons]
    cases cause <;> simp [Event.failure?]
  induction h with
  | done => exact (List.append_nil _).symm
  | node parent typeId tag outermost known _ ih =>
    rw [ih, (sameRecords_addNode _ parent typeId tag outermost).failures]
    rfl
  | set n name v _ ih => exact ih
  | text n s _ ih => exact ih
  | reference n _ ih => rw [ih, (sameRecords_takeReference _ n).failures]
  | configure n known _ ih =>
    rw [ih, (sameRecords_configure _ n).failures]
    rfl
  | container n _ ih => exact ih
  | target name depends body _ ih => exact ih
  | @executeUnheard p p' es n unheard _ ih =>
    rw [ih]
    cases hrun : p.runnable n with
    | false => rw [execute_of_not_runnable hrun]
    | true =>
      obtain rfl := unheard.resolve_right (by rw [hrun]; exact Bool.noConfusion)
      rw [execute_none hrun]
      rfl
  | execute n executor known runnable _ _ ihinside ih =>
    rw [executor, execute_some known runnable] at ih
    exact hcall ihinside ih
  | evalUnheard n unheard _ ih =>
    rw [ih, unheard, eval_none]
  | eval n executor known _ _ ihinside ih =>
    rw [executor, eval_some known] at ih
    exact hcall ihinside ih

/-- The executor was called as often as calls came to their end. -/
theorem calls (h : Acts ex p es p') : p'.calls.Perm (p.calls ++ es.filterMap Event.call?) := by
  have hcall : ∀ {p q p' r : Project β} {es es' : List Event} {call : Call} {failure : Option Failure},
      q.calls = p.calls ++ [call] → r.calls.Perm (q.calls ++ es.filterMap Event.call?) →
      p'.calls.Perm (r.calls ++ es'.filterMap Event.call?) →
      p'.calls.Perm (p.calls ++ (es ++ .returned call failure :: es').filterMap Event.call?) := by
    intro p q p' r es es' call failure hq hinside hrest
    rw [hq] at hinside
    refine hrest.trans ((hinside.append_right _).trans ?_)
    simp only [List.filterMap_append, List.filterMap_cons, Event.call?, List.append_assoc,
      List.singleton_append]
    exact (List.perm_middle.symm).append_left p.calls
  induction h with
  | done => rw [List.filterMap_nil, List.append_nil]
  | node parent typeId tag outermost known _ ih =>
    rwa [(sameRecords_addNode _ parent typeId tag outermost).calls] at ih
  | set n name v _ ih => exact ih
  | text n s _ ih => exact ih
  | reference n _ ih => rwa [(sameRecords_takeReference _ n).calls] at ih
  | configure n known _ ih => rwa [(sameRecords_configure _ n).calls] at ih
  | container n _ ih => exact ih
  | target name depends body _ ih => exact ih
  | @executeUnheard p p' es n unheard _ ih =>
    cases hrun : p.runnable n with
    | false => rwa [execute_of_not_runnable hrun] at ih
    | true =>
      obtain rfl := unheard.resolve_right (by rw [hrun]; exact Bool.noConfusion)
      rwa [execute_none hrun] at ih
  | execute n executor known runnable _ _ ihinside ih =>
    rw [executor, execute_some known runnable, calls_settle] at ih
    exact hcall rfl ihinside ih
  | evalUnheard n unheard _ ih => rwa [unheard, eval_none] at ih
  | eval n executor known _ _ ihinside ih =>
    rw [executor, eval_some known, calls_settle] at ih
    exact hcall rfl ihinside ih

end Acts

/-! ## The invariant -/

/-- What holds of the nodes of a project with a history: a node comes after its parent and belongs to
its target, it is attached once at its place when it has been configured and else nowhere, and it has
been run at most once and only on its own. -/
structure Forest (h : List Event) (p : Project β) : Prop where
  built : ∀ n, .built n ∈ h → ∃ d, p.heading? n = some d ∧ (d.outermost = true ↔ d.parent = none)
  parent : ∀ n d m, p.heading? n = some d → d.parent = some m →
    m < n ∧ ∃ above, p.heading? m = some above ∧ above.target = d.target
  target : ∀ n d, p.heading? n = some d → d.target < p.targets.length
  configured : ∀ n d, p.heading? n = some d → (d.configured = true ↔ .configured n ∈ h)
  attached : ∀ n d, p.heading? n = some d → ∀ place,
    (p.listAt place).count n = if d.configured = true ∧ d.place = place then 1 else 0
  executed : ∀ n d, p.heading? n = some d →
    p.calls.count (.execute n) ≤ d.executed.toNat ∧ (d.executed = true → d.outermost = true)
  known : ∀ n, (.configured n ∈ h ∨ .execute n ∈ p.calls ∨ ∃ place, n ∈ p.listAt place) →
    n < p.nodes.length

namespace Forest

open Project

variable {p p' : Project β} {h h' : List Event} {n : NodeId} {d : Node}

/-- A new project is a forest of its two nodes. -/
theorem new (name : String) : Forest [] (Project.new name : Project β) := by
  have hnodes : ∀ n d, (Project.new name : Project β).heading? n = some d →
      d.parent = none ∧ d.target = 0 ∧ d.configured = false ∧ d.executed = false := by
    intro n d hd
    match n with
    | 0 => cases hd; exact ⟨rfl, rfl, rfl, rfl⟩
    | 1 => cases hd; exact ⟨rfl, rfl, rfl, rfl⟩
    | n + 2 => cases hd
  have hlists : ∀ place, (Project.new name : Project β).listAt place = [] := by
    intro place
    match place with
    | .under 0 => rfl
    | .under 1 => rfl
    | .under (n + 2) => rfl
    | .inTarget 0 => rfl
    | .inTarget (t + 1) => rfl
  refine ⟨nofun, ?_, ?_, ?_, ?_, ?_, ?_⟩
  · intro n d m hd hm
    rw [(hnodes n d hd).1] at hm
    cases hm
  · intro n d hd
    rw [(hnodes n d hd).2.1]
    exact Nat.one_pos
  · intro n d hd
    rw [(hnodes n d hd).2.2.1]
    simp
  · intro n d hd place
    rw [hlists, (hnodes n d hd).2.2.1]
    simp
  · intro n d hd
    rw [(hnodes n d hd).2.2.2]
    exact ⟨Nat.le_refl 0, nofun⟩
  · rintro n (hn | hn | ⟨place, hn⟩)
    · cases hn
    · cases hn
    · rw [hlists] at hn
      cases hn

/-- Nothing changes but what the views do not show. -/
theorem of_same (hf : Forest h p) (hs : SameForest p p')
    (hcalls : ∀ k, p'.calls.count (.execute k) = p.calls.count (.execute k))
    (hbuilt : ∀ k, .built k ∈ h' → .built k ∈ h)
    (hconfigured : ∀ k, .configured k ∈ h' ↔ .configured k ∈ h) : Forest h' p' where
  built k hk := by rw [hs.heading]; exact hf.built k (hbuilt k hk)
  parent k d m hd hm := by
    rw [hs.heading] at hd ⊢
    exact hf.parent k d m hd hm
  target k d hd := by
    rw [hs.heading] at hd
    rw [hs.targets]
    exact hf.target k d hd
  configured k d hd := by
    rw [hs.heading] at hd
    rw [hconfigured]
    exact hf.configured k d hd
  attached k d hd place := by
    rw [hs.heading] at hd
    rw [hs.list]
    exact hf.attached k d hd place
  executed k d hd := by
    rw [hs.heading] at hd
    rw [hcalls]
    exact hf.executed k d hd
  known k hk := by
    refine hs.lt_length.2 (hf.known k ?_)
    refine hk.imp (hconfigured k).1 (Or.imp (fun hcall => ?_) fun ⟨place, hmem⟩ => ⟨place, ?_⟩)
    · rwa [← List.count_pos_iff, hcalls, List.count_pos_iff] at hcall
    · rwa [hs.list] at hmem

/-- A node of a project of which one node changed is that node, or it was there. -/
theorem heading?_cases {e c : Node} {k : NodeId}
    (hheading : ∀ k, p'.heading? k = if k = n then some e else p.heading? k)
    (hc : p'.heading? k = some c) : k = n ∧ c = e ∨ k ≠ n ∧ p.heading? k = some c := by
  rw [hheading] at hc
  by_cases hk : k = n
  · rw [if_pos hk, Option.some.injEq] at hc
    exact Or.inl ⟨hk, hc.symm⟩
  · rw [if_neg hk] at hc
    exact Or.inr ⟨hk, hc⟩

/-- A node is added, under one that exists or under none. -/
theorem append (hf : Forest h p)
    (hheading : ∀ k, p'.heading? k = if k = p.nodes.length then some d else p.heading? k)
    (hlist : ∀ place, p'.listAt place = p.listAt place) (hcalls : p'.calls = p.calls)
    (htargets : p.targets.length ≤ p'.targets.length)
    (hnew : d.configured = false ∧ d.executed = false) (htarget : d.target < p'.targets.length)
    (hparent : ∀ m, d.parent = some m → ∃ above, p.heading? m = some above ∧ above.target = d.target)
    (hbuilt : ∀ k, .built k ∈ h' →
      .built k ∈ h ∨ k = p.nodes.length ∧ (d.outermost = true ↔ d.parent = none))
    (hconfigured : ∀ k, .configured k ∈ h' ↔ .configured k ∈ h) : Forest h' p' := by
  have hold : ∀ {k e}, p.heading? k = some e → p'.heading? k = some e := by
    intro k e he
    rw [hheading, if_neg (Nat.ne_of_lt (lt_length_of_heading? he)), he]
  have hunknown := fun hn => Nat.lt_irrefl _ (hf.known p.nodes.length hn)
  refine ⟨?_, ?_, ?_, ?_, ?_, ?_, ?_⟩
  · intro k hk
    rcases hbuilt k hk with hk | ⟨rfl, hparents⟩
    · obtain ⟨e, he, hparents⟩ := hf.built k hk
      exact ⟨e, hold he, hparents⟩
    · exact ⟨d, by rw [hheading, if_pos rfl], hparents⟩
  · intro k e m he hm
    rcases heading?_cases hheading he with ⟨rfl, rfl⟩ | ⟨_, he⟩
    · obtain ⟨above, habove, htarget⟩ := hparent m hm
      exact ⟨lt_length_of_heading? habove, above, hold habove, htarget⟩
    · obtain ⟨hlt, above, habove, htarget⟩ := hf.parent k e m he hm
      exact ⟨hlt, above, hold habove, htarget⟩
  · intro k e he
    rcases heading?_cases hheading he with ⟨rfl, rfl⟩ | ⟨_, he⟩
    · exact htarget
    · exact Nat.lt_of_lt_of_le (hf.target k e he) htargets
  · intro k e he
    rw [hconfigured]
    rcases heading?_cases hheading he with ⟨rfl, rfl⟩ | ⟨_, he⟩
    · rw [hnew.1]
      exact ⟨nofun, fun hk => absurd (Or.inl hk) hunknown⟩
    · exact hf.configured k e he
  · intro k e he place
    rw [hlist]
    rcases heading?_cases hheading he with ⟨rfl, rfl⟩ | ⟨_, he⟩
    · rw [hnew.1, List.count_eq_zero_of_not_mem fun hmem =>
        hunknown (Or.inr (Or.inr ⟨place, hmem⟩))]
      simp
    · exact hf.attached k e he place
  · intro k e he
    rw [hcalls]
    rcases heading?_cases hheading he with ⟨rfl, rfl⟩ | ⟨_, he⟩
    · rw [hnew.2, List.count_eq_zero_of_not_mem fun hmem => hunknown (Or.inr (Or.inl hmem))]
      exact ⟨Nat.zero_le _, nofun⟩
    · exact hf.executed k e he
  · intro k hk
    rw [hconfigured, hcalls] at hk
    simp only [hlist] at hk
    obtain ⟨e, he⟩ := lt_length_iff.1 (hf.known k hk)
    exact lt_length_of_heading? (hold he)

theorem addNode (hf : Forest h p) {parent : NodeId} (hknown : parent < p.nodes.length)
    (typeId tag : String) (outermost : Bool) :
    Forest (h ++ [.built p.nodes.length]) (p.addNode parent typeId tag outermost).1 := by
  obtain ⟨above, habove⟩ := lt_length_iff.1 hknown
  have htargets : (p.addNode parent typeId tag outermost).1.targets = p.targets := by
    unfold Project.addNode
    split <;> rfl
  generalize halone : (outermost && !p.collects parent) = alone
  refine hf.append (d := newHeading above parent typeId tag alone) ?_
    (listAt_addNode p parent typeId tag outermost)
    (sameRecords_addNode p parent typeId tag outermost).calls (by rw [htargets]) ⟨rfl, rfl⟩
    (by rw [htargets]; exact hf.target parent above habove) ?_ ?_ (by simp)
  · rw [← halone]
    exact heading?_addNode habove typeId tag outermost
  · intro m hm
    cases alone with
    | true => cases hm
    | false =>
      obtain rfl := Option.some.inj hm
      exact ⟨above, habove, rfl⟩
  · intro k hk
    rcases List.mem_append.1 hk with hk | hk
    · exact Or.inl hk
    · refine Or.inr ⟨Event.built.inj (List.mem_singleton.1 hk), ?_⟩
      cases alone with
      | true => exact ⟨fun _ => rfl, fun _ => rfl⟩
      | false =>
        constructor
        · intro houtermost
          cases houtermost
        · intro hparent
          cases hparent

theorem declare (hf : Forest h p) (name : String) (depends : List String) (body : Option β) :
    Forest h (p.declare name depends body).1 := by
  have hlength : (p.declare name depends body).1.targets.length = p.targets.length + 1 :=
    List.length_append
  refine hf.append (d := targetHeading p.targets.length) (heading?_declare p name depends body)
    (listAt_declare p name depends body) rfl (by omega) ⟨rfl, rfl⟩ ?_ nofun (fun _ hk => Or.inl hk)
    (fun _ => Iff.rfl)
  show p.targets.length < _
  omega

/-- One node changes, but not where it stands; the other nodes stay as they are. -/
theorem mark {e : Node} (hf : Forest h p) (hd : p.heading? n = some d)
    (hheading : ∀ k, p'.heading? k = if k = n then some e else p.heading? k)
    (hstays : e.parent = d.parent ∧ e.target = d.target ∧ e.outermost = d.outermost)
    (htargets : p'.targets.length = p.targets.length) (hbuilt : ∀ k, .built k ∈ h' → .built k ∈ h)
    (hothers : ∀ k, k ≠ n → (.configured k ∈ h' ↔ .configured k ∈ h) ∧
      (∀ place, (p'.listAt place).count k = (p.listAt place).count k) ∧
      p'.calls.count (.execute k) = p.calls.count (.execute k))
    (hconfigured : e.configured = true ↔ .configured n ∈ h')
    (hattached : ∀ place, (p'.listAt place).count n =
      if e.configured = true ∧ e.place = place then 1 else 0)
    (hexecuted : p'.calls.count (.execute n) ≤ e.executed.toNat ∧
      (e.executed = true → e.outermost = true)) : Forest h' p' := by
  -- what stands of a node before stands of it after
  have hkeeps : ∀ {k c}, p.heading? k = some c → ∃ c', p'.heading? k = some c' ∧
      c'.parent = c.parent ∧ c'.target = c.target ∧ c'.outermost = c.outermost := by
    intro k c hc
    rw [hheading]
    by_cases hk : k = n
    · rw [hk, hd, Option.some.injEq] at hc
      exact ⟨e, if_pos hk, hc ▸ hstays⟩
    · exact ⟨c, by rw [if_neg hk, hc], rfl, rfl, rfl⟩
  have hbefore : ∀ {k c}, p'.heading? k = some c → ∃ c', p.heading? k = some c' ∧
      c.parent = c'.parent ∧ c.target = c'.target := by
    intro k c hc
    rcases heading?_cases hheading hc with ⟨rfl, rfl⟩ | ⟨_, hc⟩
    · exact ⟨d, hd, hstays.1, hstays.2.1⟩
    · exact ⟨c, hc, rfl, rfl⟩
  refine ⟨?_, ?_, ?_, ?_, ?_, ?_, ?_⟩
  · intro k hk
    obtain ⟨c, hc, hparents⟩ := hf.built k (hbuilt k hk)
    obtain ⟨c', hc', hparent, _, houtermost⟩ := hkeeps hc
    exact ⟨c', hc', by rw [hparent, houtermost]; exact hparents⟩
  · intro k c m hc hm
    obtain ⟨c', hc', hparent, htarget⟩ := hbefore hc
    obtain ⟨hlt, above, habove, htarget'⟩ := hf.parent k c' m hc' (hparent ▸ hm)
    obtain ⟨above', habove', _, htarget'', _⟩ := hkeeps habove
    exact ⟨hlt, above', habove', by rw [htarget'', htarget', htarget]⟩
  · intro k c hc
    obtain ⟨c', hc', _, htarget⟩ := hbefore hc
    rw [htargets, htarget]
    exact hf.target k c' hc'
  · intro k c hc
    rcases heading?_cases hheading hc with ⟨rfl, rfl⟩ | ⟨hk, hc⟩
    · exact hconfigured
    · rw [(hothers k hk).1]
      exact hf.configured k c hc
  · intro k c hc place
    rcases heading?_cases hheading hc with ⟨rfl, rfl⟩ | ⟨hk, hc⟩
    · exact hattached place
    · rw [(hothers k hk).2.1]
      exact hf.attached k c hc place
  · intro k c hc
    rcases heading?_cases hheading hc with ⟨rfl, rfl⟩ | ⟨hk, hc⟩
    · exact hexecuted
    · rw [(hothers k hk).2.2]
      exact hf.executed k c hc
  · intro k hk
    have hbefore : ∃ c, p.heading? k = some c := by
      by_cases hkn : k = n
      · exact ⟨d, hkn ▸ hd⟩
      · obtain ⟨hconfigured, hlist, hcalls⟩ := hothers k hkn
        refine lt_length_iff.1 (hf.known k (hk.imp hconfigured.1 (Or.imp (fun hcall => ?_) ?_)))
        · rwa [← List.count_pos_iff, hcalls, List.count_pos_iff] at hcall
        · rintro ⟨place, hmem⟩
          rw [← List.count_pos_iff, hlist, List.count_pos_iff] at hmem
          exact ⟨place, hmem⟩
    obtain ⟨c, hc⟩ := hbefore
    obtain ⟨c', hc', _⟩ := hkeeps hc
    exact lt_length_of_heading? hc'

theorem configure (hf : Forest h p) (hn : n < p.nodes.length) :
    Forest (h ++ [.configured n]) (p.configure n) := by
  obtain ⟨d, hd⟩ := lt_length_iff.1 hn
  have hlist := listAt_configure hd
    (fun m hm => Nat.lt_trans (hf.parent n d m hd hm).1 hn) (hf.target n d hd)
  have hcalls := (sameRecords_configure p n).calls
  refine hf.mark hd (heading?_configure hd) ⟨rfl, rfl, rfl⟩ (length_targets_configure p n) (by simp)
    (fun k hk => ⟨by simp [hk], fun place => ?_, by rw [hcalls]⟩) (by simp) (fun place => ?_) ?_
  · rw [hlist]
    split
    · rw [List.count_append, List.count_singleton, if_neg (by simpa using Ne.symm hk), Nat.add_zero]
    · rfl
  · have hplace : ({ d with configured := true } : Node).place = d.place := rfl
    have hbefore := hf.attached n d hd place
    rw [hlist, hplace]
    -- it was attached before, or it is attached now
    cases hc : d.configured with
    | true =>
      rw [hc] at hbefore
      simpa using hbefore
    | false =>
      rw [hc] at hbefore
      have hzero : (p.listAt place).count n = 0 := by simpa using hbefore
      by_cases hp : place = d.place
      · simp [hp, List.count_append, hp ▸ hzero]
      · simp [hp, Ne.symm hp, hzero]
  · rw [hcalls]
    exact hf.executed n d hd

/-- A node that is to be run is marked, and the executor may be called on it. -/
theorem start (hf : Forest h p) (hd : p.heading? n = some d) (hrun : p.runnable n = true)
    {calls : List Call} (hcalls : calls = p.calls ∨ calls = p.calls ++ [.execute n]) :
    Forest h { p.modifyNode n ({ · with executed := true }) with calls } := by
  rw [runnable_eq hd, Bool.and_eq_true, Bool.not_eq_true'] at hrun
  obtain ⟨houtermost, hnew⟩ := hrun
  have hlist := listAt_begun p n
  have hcount : ∀ k, calls.count (.execute k) ≤
      p.calls.count (.execute k) + (if k = n then 1 else 0) ∧
      (k ≠ n → calls.count (.execute k) = p.calls.count (.execute k)) := by
    intro k
    rcases hcalls with rfl | rfl
    · exact ⟨Nat.le_add_right _ _, fun _ => rfl⟩
    · rw [List.count_append, List.count_singleton]
      by_cases hk : k = n
      · simp [hk]
      · simp [hk, Ne.symm hk]
  refine hf.mark (e := { d with executed := true }) hd (fun k => ?_) ⟨rfl, rfl, rfl⟩ rfl
    (fun _ hk => hk) (fun k hk => ⟨Iff.rfl, fun place => ?_, (hcount k).2 hk⟩)
    (hf.configured n d hd) (fun place => ?_) ⟨?_, fun _ => houtermost⟩
  · exact heading?_begun hd k
  · exact congrArg (List.count k) (hlist place)
  · exact (congrArg (List.count n) (hlist place)).trans (hf.attached n d hd place)
  · -- it had not been run, so no call was made on it
    have hzero := (hf.executed n d hd).1
    rw [hnew] at hzero
    have hone := (hcount n).1
    rw [if_pos rfl] at hone
    exact Nat.le_trans hone (by simpa using hzero)

/-- A child comes after the node that it is attached to. -/
theorem lt_of_child {m : NodeId} (hf : Forest h p) (hn : n ∈ p.listAt (.under m)) :
    m < n ∧ n < p.nodes.length := by
  have hlt := hf.known n (Or.inr (Or.inr ⟨_, hn⟩))
  obtain ⟨d, hd⟩ := lt_length_iff.1 hlt
  have hcount := hf.attached n d hd (.under m)
  have hplace : d.place = .under m := by
    by_contra hne
    rw [if_neg fun hc => hne hc.2] at hcount
    exact List.count_eq_zero.1 hcount hn
  have hparent : d.parent = some m := by
    unfold Node.place at hplace
    split at hplace
    · next k hk => rw [hk, Place.under.inj hplace]
    · cases hplace
  exact ⟨(hf.parent n d m hd hparent).1, hlt⟩

end Forest

namespace Acts

open Project

variable {ex : Option (Executor β)} {p p' : Project β} {es h : List Event}

/-- **Whatever happens keeps the forest.** What happens inside a call of the executor is carried by
its own hypothesis, so the executor may do what a script may do. -/
theorem forest (acts : Acts ex p es p') (hf : Forest h p) : Forest (h ++ es) p' := by
  -- a call that comes to its end records no more than a failure
  have hsettle : ∀ {h : List Event} {q : Project β} {tag : String} {cause : Option String}
      {call : Call} {failure : Option Failure}, Forest h q →
      Forest (h ++ [.returned call failure]) (q.settle tag cause) := by
    intro h q tag cause call failure hq
    exact hq.of_same (sameForest_settle q tag cause) (fun _ => by rw [calls_settle]) (by simp) (by simp)
  induction acts generalizing h with
  | done => rwa [List.append_nil]
  | node parent typeId tag outermost known _ ih =>
    rw [List.append_cons]
    exact ih (hf.addNode known typeId tag outermost)
  | set n name v _ ih =>
    exact ih (hf.of_same (sameForest_setAttribute _ n name v) (fun _ => rfl) (fun _ => id) fun _ => .rfl)
  | text n s _ ih =>
    exact ih (hf.of_same (sameForest_addText _ n s) (fun _ => rfl) (fun _ => id) fun _ => .rfl)
  | reference n _ ih =>
    refine ih (hf.of_same (sameForest_takeReference _ n) (fun _ => ?_) (fun _ => id) fun _ => .rfl)
    rw [(sameRecords_takeReference _ n).calls]
  | configure n known _ ih =>
    rw [List.append_cons]
    exact ih (hf.configure known)
  | container n _ ih =>
    exact ih (hf.of_same (sameForest_collect _ n) (fun _ => rfl) (fun _ => id) fun _ => .rfl)
  | target name depends body _ ih => exact ih (hf.declare name depends body)
  | @executeUnheard p p' es n unheard _ ih =>
    refine ih ?_
    cases hrun : p.runnable n with
    | false => rwa [execute_of_not_runnable hrun]
    | true =>
      obtain rfl := unheard.resolve_right (by rw [hrun]; exact Bool.noConfusion)
      obtain ⟨d, hd⟩ : ∃ d, p.heading? n = some d := by
        rw [runnable] at hrun
        cases hd : p.heading? n with
        | none => rw [hd] at hrun; cases hrun
        | some d => exact ⟨d, rfl⟩
      rw [execute_none hrun]
      exact hf.start hd hrun (Or.inl rfl)
  | execute n executor known runnable _ _ ihinside ih =>
    rw [List.append_cons, ← List.append_assoc, ← List.append_assoc]
    refine ih ?_
    rw [executor, execute_some known runnable]
    exact hsettle (ihinside (hf.start known runnable (Or.inr rfl)))
  | evalUnheard n unheard _ ih =>
    refine ih ?_
    rwa [unheard, eval_none]
  | @eval p p' es es' x d n executor known _ _ ihinside ih =>
    rw [List.append_cons, ← List.append_assoc, ← List.append_assoc]
    refine ih ?_
    rw [executor, eval_some known]
    have hasked : Forest h (p.asked n) :=
      hf.of_same (.of_eq rfl rfl) (fun k => by simp [asked, List.count_append]) (fun _ => id)
        fun _ => .rfl
    exact hsettle (ihinside hasked)

end Acts

/-! ## What is true of every node -/

namespace Project

/-- One node is the parent of another. -/
def Encloses (p : Project β) (m n : NodeId) : Prop := ∃ d, p.nodes[n]? = some d ∧ d.parent = some m

/-- The element tree of a node, from those of its children. -/
def elementText (p : Project β) (child : NodeId → String) (depth : Nat) (n : NodeId) : String :=
  match p.nodes[n]? with
  | none => ""
  | some node =>
    let margin := String.join (List.replicate depth "  ")
    let start := margin ++ "<" ++ node.tag ++ attributesText node
    if node.children.isEmpty && node.text.isEmpty then start ++ "/>\n"
    else
      start ++ ">" ++ node.text ++
        (if node.children.isEmpty then ""
          else "\n" ++ String.join (node.children.map child) ++ margin) ++
        "</" ++ node.tag ++ ">\n"

/-- Where children come after their parents, no child is left out of an element tree. -/
theorem renderNode_eq {p : Project β} {n : NodeId}
    (h : ∀ c ∈ p.listAt (.under n), n < c ∧ c < p.nodes.length) (depth : Nat) :
    p.renderNode depth n = p.elementText (p.renderNode (depth + 1)) depth n := by
  rw [renderNode, elementText]
  cases hnode : p.nodes[n]? with
  | none => rfl
  | some node =>
    have hchildren : ∀ c ∈ node.children, n < c ∧ c < p.nodes.length := by
      rw [listAt, hnode] at h
      exact h
    have hinner : (node.children.map fun c =>
          if _ : n < c ∧ c < p.nodes.length then p.renderNode (depth + 1) c else "") =
        node.children.map (p.renderNode (depth + 1)) :=
      List.map_congr_left fun c hc => dif_pos (hchildren c hc)
    dsimp only
    rw [hinner]

end Project

open Project

/-- What is true of a node that was built. -/
structure InForest (events : List Event) (p : Project β) (n : NodeId) (d : Node) : Prop where
  outermost_iff : d.outermost = true ↔ d.parent = none
  same_target : ∀ m, d.parent = some m →
    ∃ above, p.nodes[m]? = some above ∧ above.target = d.target
  attached : ∀ place, (p.listAt place).count n =
    if .configured n ∈ events ∧ d.place = place then 1 else 0
  run_once : p.calls.count (.execute n) ≤ 1
  run_alone : .execute n ∈ p.calls → d.outermost = true

theorem Forest.inForest {h : List Event} {p : Project β} {n : NodeId} (hf : Forest h p)
    (hn : .built n ∈ h) : ∃ d, p.nodes[n]? = some d ∧ InForest h p n d := by
  obtain ⟨_, hheading, houtermost⟩ := hf.built n hn
  obtain ⟨d, hd, rfl⟩ := exists_node_of_heading? hheading
  have hexecuted := hf.executed n d.heading hheading
  refine ⟨d, hd, houtermost, ?_, ?_, ?_, ?_⟩
  · intro m hm
    obtain ⟨_, above, habove, htarget⟩ := hf.parent n d.heading m hheading hm
    obtain ⟨node, hnode, rfl⟩ := exists_node_of_heading? habove
    exact ⟨node, hnode, htarget⟩
  · intro place
    exact (hf.attached n d.heading hheading place).trans
      (if_congr (and_congr_left fun _ => hf.configured n d.heading hheading) rfl rfl)
  · exact Nat.le_trans hexecuted.1 (Bool.toNat_le _)
  · intro hcall
    refine hexecuted.2 ?_
    have hpos := Nat.lt_of_lt_of_le (List.count_pos_iff.2 hcall) hexecuted.1
    cases hrun : d.heading.executed with
    | true => rfl
    | false => rw [hrun] at hpos; exact absurd hpos (Nat.lt_irrefl 0)

/-- **The nodes of a project make a forest, whatever is done to it.** In any history of a project, with
what its executor does while it runs:

* a node that was built is outermost if it has no parent and only then, belongs to the target of its
  parent, is attached once at its place if it was ever configured and else nowhere, and is run at most
  once and only if it is outermost;
* no node encloses itself, and the element tree of a node is made of those of all its children, a
  recursion that comes to its end;
* the recorded failures are those of the calls of the executor, in the order in which the calls came to
  their end, and the calls that were made are those that did. -/
theorem acts_keep_forest {ex : Option (Executor β)} {name : String} {events : List Event}
    {p : Project β} (acts : Acts ex (Project.new name) events p) :
    (∀ n, .built n ∈ events → ∃ d, p.nodes[n]? = some d ∧ InForest events p n d) ∧
      (∀ n, ¬ TransGen p.Encloses n n) ∧
      WellFounded (fun child n => child ∈ p.listAt (.under n)) ∧
      (∀ depth n, p.renderNode depth n = p.elementText (p.renderNode (depth + 1)) depth n) ∧
      p.failures = events.filterMap Event.failure? ∧
      p.calls.Perm (events.filterMap Event.call?) := by
  have hf : Forest events p := acts.forest (Forest.new name)
  refine ⟨fun n hn => hf.inForest hn, ?_, ?_, ?_, acts.failures, acts.calls⟩
  · -- a node comes after those that enclose it
    have hlt : ∀ {m n}, TransGen p.Encloses m n → m < n := by
      intro m n hmn
      refine TransGen.trans_induction_on hmn ?_ fun _ _ => Nat.lt_trans
      rintro m n ⟨d, hd, hparent⟩
      exact (hf.parent n d.heading m (heading?_of_node hd) hparent).1
    exact fun n hn => Nat.lt_irrefl n (hlt hn)
  · -- children come later, and there are only so many nodes
    refine Subrelation.wf ?_ (measure fun n => p.nodes.length - n).wf
    intro child n hchild
    have hlt := hf.lt_of_child hchild
    exact Nat.sub_lt_sub_left (Nat.lt_trans hlt.1 hlt.2) hlt.1
  · intro depth n
    exact renderNode_eq (fun child hchild => hf.lt_of_child hchild) depth

/-- An executor that builds a task while it runs another one, evaluates it, and fails. -/
def meddler : Executor Unit where
  execute n p :=
    let (p, k) := p.addNode n "isset" "isset" false
    (((p.configure k).asked k).fail "isset" "unset", some "no such file")
  eval _ p := (p, .error "unset")

/-- A project with one task, which is run by an executor that meddles and then collects another. -/
def meddled : Project Unit :=
  let p := (((Project.new "demo").addNode 0 "copy" "copy" true).1.configure 2).execute (some meddler) 2
  ((p.collect 2).addNode 2 "log" "log" true).1.configure 4

/-- What happened to it. -/
def meddledEvents : List Event :=
  [.built 2, .configured 2, .configured 2, .built 3, .configured 3,
    .returned (.eval 3) (some ⟨"isset", "unset"⟩),
    .returned (.execute 2) (some ⟨"copy", "no such file"⟩), .built 4, .configured 4]

theorem acts_keep_forest_meddled :
    Acts (some meddler) (Project.new "demo") meddledEvents meddled ∧
      meddled.failures = [⟨"isset", "unset"⟩, ⟨"copy", "no such file"⟩] ∧
      meddled.listAt (.under 2) = [3, 4] ∧
      ∃ d, meddled.nodes[4]? = some d ∧ d.parent = some 2 ∧ InForest meddledEvents meddled 4 d := by
  let built : Project Unit := ((Project.new "demo").addNode 0 "copy" "copy" true).1.configure 2
  let meddling : Project Unit := ((built.begun 2).addNode 2 "isset" "isset" false).1.configure 3
  have idle : Acts (some meddler) (meddling.asked 3) [] (meddler.eval 3 (meddling.asked 3)).1 := .done _
  have inside : Acts (some meddler) (built.begun 2)
      [.built 3, .configured 3, .returned (.eval 3) (some ⟨"isset", "unset"⟩)]
      (meddler.execute 2 (built.begun 2)).1 := by
    refine .node 2 "isset" "isset" false (by decide) (.configure 3 (by decide) ?_)
    exact (Acts.eval 3 rfl rfl idle (.done _) :)
  have after : Acts (some meddler) (built.execute (some meddler) 2) [.built 4, .configured 4]
      meddled := by
    -- it is not run a second time, and what it collects is not run at all
    refine .executeUnheard 2 (Or.inr rfl) ?_
    rw [execute_of_not_runnable (by rfl)]
    refine .container 2 (.node 2 "log" "log" true (by decide) (.configure 4 (by decide) ?_))
    refine .executeUnheard 4 (Or.inr rfl) ?_
    rw [execute_of_not_runnable (by rfl)]
    exact .done meddled
  have acts : Acts (some meddler) (Project.new "demo") meddledEvents meddled := by
    refine .node 0 "copy" "copy" true (by decide) (.configure 2 (by decide) (.configure 2 (by decide) ?_))
    have again : built.configure 2 = built := configure_of_configured rfl rfl
    show Acts _ (built.configure 2) _ _
    rw [again]
    exact (Acts.execute 2 rfl rfl rfl inside after :)
  have hforest := acts_keep_forest acts
  obtain ⟨d, hd, hin⟩ := hforest.1 4 (by decide)
  refine ⟨acts, hforest.2.2.2.2.1, rfl, d, hd, ?_, hin⟩
  cases hd
  rfl

end TaskBuilders.Script
