import TaskBuilders.Proofs.Script.Growth

/-!
# What scripts of builder calls do

A call does what its record says if the calls of its block do: this is shown statement by statement of
the body (`UnderWay`), and then for trees of calls along their structure. The log of the invocations and of
the calls that came to their end is carried beside the nodes.

* `Session.Adds` — what calls add to the log
* `Ran`, `UnderWay` — calls that came to their end, and a call that has not
* `Ready` — projects on which calls can be made
* `BuilderUse.ran_run` — one call, whatever the calls of its block do
* `BuilderCall.ran_run`, `BuilderCall.ran_runAll` — trees of calls
* `script_invocations` — scripts
-/

namespace TaskBuilders.Script

open Project

variable {β : Type}

/-! ## Sessions -/

/-- What calls that came to their end leave in a log. -/
def CallRecord.entry (r : CallRecord) : BuilderUse × NodeId := (r.builder, r.node)

/-- The executor was called for `new`, and the calls of `done` came to their end. -/
structure Session.Adds (s s' : Session β) (new : List Invocation) (done : List (BuilderUse × NodeId)) :
    Prop where
  invocations : s'.invocations = s.invocations ++ new
  calls : s'.project.calls = s.project.calls ++ new.map Invocation.call
  completed : s'.completed = s.completed ++ done

namespace Session

variable {s s' s'' : Session β} {p : Project β} {new new' : List Invocation}
  {done done' : List (BuilderUse × NodeId)}

theorem Adds.refl (s : Session β) : s.Adds s [] [] :=
  ⟨(List.append_nil _).symm, (List.append_nil _).symm, (List.append_nil _).symm⟩

theorem Adds.trans (h : s.Adds s' new done) (h' : s'.Adds s'' new' done') :
    s.Adds s'' (new ++ new') (done ++ done') where
  invocations := by rw [h'.invocations, h.invocations, List.append_assoc]
  calls := by rw [h'.calls, h.calls, List.map_append, List.append_assoc]
  completed := by rw [h'.completed, h.completed, List.append_assoc]

/-- A statement made calls of the executor. -/
theorem adds_become (calls : List Call) (h : p.calls = s.project.calls ++ calls) :
    s.Adds (s.become p) (calls.map fun c => ⟨c, s.project.listAt (.under c.node)⟩) [] where
  invocations := by rw [become, h, List.drop_left]
  calls := by rw [List.map_map]; exact h.trans (by simp [Function.comp_def])
  completed := (List.append_nil _).symm

theorem adds_become_nil (h : p.calls = s.project.calls) : s.Adds (s.become p) [] [] :=
  adds_become [] (h.trans (List.append_nil _).symm)

end Session

/-- Calls came to their end: the nodes are those of their records. -/
structure Ran (s s' : Session β) (handed : NodeId) (new : List NodeId) (records : List CallRecord)
    (size : Nat) : Prop where
  forest : IsForest s'.project
  grown : Grown s.project s'.project handed new
  length : s'.project.nodes.length = s.project.nodes.length + size
  shown : ∀ r ∈ records, s.project.nodes.length ≤ r.node ∧ r.Shown s'.project
  adds : s.Adds s' (records.flatMap CallRecord.invocations) (records.map CallRecord.entry)

namespace Ran

variable {s s' s'' : Session β} {handed : NodeId} {new new' : List NodeId}
  {records records' : List CallRecord} {size size' : Nat}

theorem refl (hf : IsForest s.project) (handed : NodeId) : Ran s s handed [] [] 0 :=
  ⟨hf, .refl _ handed, rfl, fun _ hr => absurd hr List.not_mem_nil, .refl s⟩

theorem trans (hhanded : handed < s.project.nodes.length) (h : Ran s s' handed new records size)
    (h' : Ran s' s'' handed new' records' size') :
    Ran s s'' handed (new ++ new') (records ++ records') (size + size') where
  forest := h'.forest
  grown := h.grown.trans h'.grown
  length := by rw [h'.length, h.length, Nat.add_assoc]
  shown r hr := by
    rcases List.mem_append.1 hr with hr | hr
    · obtain ⟨hle, hshown⟩ := h.shown r hr
      exact ⟨hle, hshown.grown h'.grown (Nat.ne_of_gt (Nat.lt_of_lt_of_le hhanded hle))⟩
    · obtain ⟨hle, hshown⟩ := h'.shown r hr
      exact ⟨Nat.le_trans h.grown.length hle, hshown⟩
  adds := by
    rw [List.flatMap_append, List.map_append]
    exact h.adds.trans h'.adds

end Ran

/-- A call is under way. The calls of its block left `records`, and the executor was called for `own` on
the node of the call itself. -/
structure UnderWay (s q : Session β) (k : NodeId) (d : Node) (children : List NodeId)
    (records : List CallRecord) (size : Nat) (own : List Invocation) : Prop where
  building : Building s.project q.project k d children
  length : q.project.nodes.length = k + 1 + size
  shown : ∀ r ∈ records, k < r.node ∧ r.Shown q.project
  adds : s.Adds q (records.flatMap CallRecord.invocations ++ own) (records.map CallRecord.entry)

namespace UnderWay

variable {s q q' : Session β} {k : NodeId} {d : Node} {children : List NodeId}
  {records : List CallRecord} {size : Nat} {own : List Invocation} {p : Project β} {x : Executor β}

/-- Something changes that calls do not see. -/
theorem same (h : UnderWay s q k d children records size own) (hs : SameView q.project p) :
    UnderWay s (q.become p) k d children records size own where
  building := h.building.same hs
  length := (SameForest.length hs.toSameForest).trans h.length
  shown r hr := by
    obtain ⟨hlt, hshown⟩ := h.shown r hr
    exact ⟨hlt, hshown.of_eq (hs.heading _) (hs.list _)⟩
  adds := by simpa using h.adds.trans (Session.adds_become_nil hs.calls)

/-- The block is run. -/
theorem block (h : UnderWay s q k d [] [] 0 []) {new : List NodeId} (hr : Ran q q' k new records size) :
    UnderWay s q' k d new records size [] where
  building := h.building.block hr.forest hr.grown
  length := by rw [hr.length, h.length]
  shown r hmem := by
    obtain ⟨hle, hshown⟩ := hr.shown r hmem
    exact ⟨Nat.lt_of_lt_of_le h.building.lt_length hle, hshown⟩
  adds := by simpa using h.adds.trans hr.adds

theorem collect (h : UnderWay s q k d [] [] 0 []) :
    UnderWay s (q.become (q.project.collect k)) k d [] [] 0 [] where
  building := h.building.collect
  length := (sameForest_collect q.project k).length.trans h.length
  shown _ hr := absurd hr List.not_mem_nil
  adds := by simpa using h.adds.trans (Session.adds_become_nil (p := q.project.collect k) rfl)

theorem configure (h : UnderWay s q k d children records size own) (hd : d.configured = false) :
    UnderWay s (q.become (q.project.configure k)) k { d with configured := true } children records size
      own where
  building := h.building.configure hd
  length := by
    refine Eq.trans ?_ h.length
    show (q.project.configure k).nodes.length = _
    unfold Project.configure
    split
    · rfl
    · split
      · rfl
      · dsimp only
        split <;> simp [modifyNode, modifyTarget]
  shown r hr := by
    obtain ⟨hlt, hshown⟩ := h.shown r hr
    refine ⟨hlt, hshown.of_eq ?_ ?_⟩
    · rw [Session.become, heading?_configure h.building.own, if_neg (Nat.ne_of_gt hlt)]
    · rw [Session.become, h.building.listAt_configure hd,
        if_neg (h.building.place_ne (Nat.le_of_lt hlt)), List.append_nil]
  adds := by
    simpa using h.adds.trans (Session.adds_become_nil (sameRecords_configure q.project k).calls)

/-- A node that is outermost is run. -/
theorem execute (hx : x.Passive) (h : UnderWay s q k d children records size [])
    (houtermost : d.outermost = true) (hnew : d.executed = false) :
    UnderWay s (q.become (q.project.execute (some x) k)) k { d with executed := true } children records
      size [⟨.execute k, children⟩] := by
  have hrun : q.project.runnable k = true := by
    rw [runnable_eq h.building.own, houtermost, hnew]
    rfl
  have hs : SameView (q.project.begun k) (q.project.execute (some x) k) := by
    rw [execute_some h.building.own hrun]
    exact (hx.execute k _).trans (sameView_settle _ _ _)
  refine ⟨(h.building.begun hrun).same hs, ?_, ?_, ?_⟩
  · refine (SameForest.length hs.toSameForest).trans (Eq.trans ?_ h.length)
    exact List.length_modify ..
  · intro r hr
    obtain ⟨hlt, hshown⟩ := h.shown r hr
    refine ⟨hlt, hshown.of_eq ?_ ((hs.list _).trans (listAt_begun _ k _))⟩
    refine (hs.heading _).trans ?_
    rw [heading?_begun h.building.own, if_neg (Nat.ne_of_gt hlt)]
  · have hadds := h.adds.trans (Session.adds_become [.execute k] hs.calls)
    rw [← h.building.children]
    simpa [Call.node] using hadds

theorem eval (hx : x.Passive) (h : UnderWay s q k d children records size own) :
    UnderWay s (q.become (q.project.eval (some x) k).1) k d children records size
      (own ++ [⟨.eval k, children⟩]) := by
  have hs : SameView (q.project.asked k) (q.project.eval (some x) k).1 := by
    rw [eval_some h.building.own]
    exact (hx.eval k _).trans (sameView_settle _ _ _)
  have hasked : SameForest q.project (q.project.asked k) := .of_eq rfl rfl
  have hbuilding : Building s.project (q.project.asked k) k d children :=
    { h.building with
      forest := h.building.forest.of_same hasked fun k => by simp [asked, List.count_append] }
  refine ⟨hbuilding.same hs, ?_, ?_, ?_⟩
  · exact (SameForest.length hs.toSameForest).trans h.length
  · intro r hr
    obtain ⟨hlt, hshown⟩ := h.shown r hr
    exact ⟨hlt, hshown.of_eq (hs.heading _) (hs.list _)⟩
  · have hadds := h.adds.trans (Session.adds_become [.eval k] hs.calls)
    rw [← h.building.children]
    simpa [Call.node] using hadds

/-- A call comes to its end. -/
theorem ran (h : UnderWay s q k d children records size own) (hk : k = s.project.nodes.length)
    (hd : d.configured = true) {r : CallRecord} {handed : NodeId} (hnode : r.node = k)
    (hchildren : r.children = children) (hid : d.typeId = r.builder.definition.id)
    (htag : d.tag = r.builder.tag) (hplace : d.place = r.on.place handed)
    (hrplace : r.place = r.on.place handed) (hown : own = r.invocations) :
    Ran s { q with completed := q.completed ++ [(r.builder, k)] } handed
      (if r.on = .handed then [k] else []) (records ++ [r]) (size + 1) where
  forest := h.building.forest
  grown := h.building.grown hk hd hplace
  length := by rw [← hk]; exact h.length.trans (by omega)
  shown r' hr' := by
    rcases List.mem_append.1 hr' with hr' | hr'
    · obtain ⟨hlt, hshown⟩ := h.shown r' hr'
      exact ⟨hk ▸ Nat.le_of_lt hlt, hshown.of_eq rfl rfl⟩
    · obtain rfl := List.mem_singleton.1 hr'
      refine ⟨by rw [hnode, hk], ⟨d, ?_, hid, htag, hplace.trans hrplace.symm, hd⟩, ?_⟩
      · rw [hnode]; exact h.building.own
      · rw [hnode, hchildren]; exact h.building.children
  adds := by
    refine ⟨?_, ?_, ?_⟩
    · rw [List.flatMap_append, List.flatMap_singleton, ← hown]
      exact h.adds.invocations
    · rw [List.flatMap_append, List.flatMap_singleton, ← hown]
      exact h.adds.calls
    · rw [List.map_append, ← List.append_assoc, ← h.adds.completed, ← hnode]
      rfl

end UnderWay

/-! ## Where calls can be made -/

/-- A project on which calls can be made: the project and its targets collect nothing, and what is
handed to a container's block does. -/
structure Ready (p : Project β) (site : Site) (handed : NodeId) : Prop where
  forest : IsForest p
  project : ∃ d, p.heading? rootNode = some d ∧ d.target = unnamedTarget ∧ p.collects rootNode = false
  target : ∀ t < p.targets.length, ∃ m d,
    p.site? t = some m ∧ p.heading? m = some d ∧ d.target = t ∧ p.collects m = false
  known : handed < p.nodes.length
  collects : site = .container → p.collects handed = true

namespace Ready

variable {p q : Project β} {site : Site} {handed : NodeId}

/-- Nodes that were there before keep a project ready. -/
theorem keep (h : Ready p site handed) (hf : IsForest q)
    (hheading : ∀ m < p.nodes.length, q.heading? m = p.heading? m)
    (hcollects : ∀ m < p.nodes.length, q.collects m = p.collects m)
    (htargets : q.targets.length = p.targets.length) (hsites : ∀ t, q.site? t = p.site? t)
    {site' : Site} {handed' : NodeId} (hhanded : handed' < q.nodes.length)
    (hcontainer : site' = .container → q.collects handed' = true) : Ready q site' handed' where
  forest := hf
  project := by
    obtain ⟨d, hd, htarget, hcollecting⟩ := h.project
    have hlt := lt_length_of_heading? hd
    exact ⟨d, by rw [hheading _ hlt, hd], htarget, by rw [hcollects _ hlt, hcollecting]⟩
  target t ht := by
    obtain ⟨m, d, hm, hd, htarget, hcollecting⟩ := h.target t (htargets ▸ ht)
    have hlt := lt_length_of_heading? hd
    exact ⟨m, d, by rw [hsites, hm], by rw [hheading _ hlt, hd], htarget,
      by rw [hcollects _ hlt, hcollecting]⟩
  known := hhanded
  collects := hcontainer

theorem grown (h : Ready p site handed) {new : List NodeId} (hf : IsForest q)
    (hg : Grown p q handed new) : Ready q site handed :=
  h.keep hf hg.heading hg.collects hg.targets hg.sites (Nat.lt_of_lt_of_le h.known hg.length)
    fun hsite => by rw [hg.collects handed h.known, h.collects hsite]

/-- **A receiver that admits a builder decides where its node is attached**: what is built directly on
a project or a target stands alone, and all else is attached to what the block is handed. -/
theorem receives (h : Ready p site handed) {on : Receiver} {parent : Parent}
    (hadmits : on.admits p.targets.length site parent.kind = true) :
    ∃ above, p.heading? (on.node p handed) = some above ∧
      (parent.outermost && !p.collects (on.node p handed)) = decide (on ≠ .handed) ∧
      ∀ typeId tag, (newHeading above (on.node p handed) typeId tag (decide (on ≠ .handed))).place =
        on.place handed := by
  cases on with
  | project =>
    obtain ⟨d, hd, htarget, hcollecting⟩ := h.project
    have hroot : parent.outermost = true := hadmits
    refine ⟨d, hd, by rw [hroot, Receiver.node, hcollecting]; rfl, fun typeId tag => ?_⟩
    exact congrArg Place.inTarget htarget
  | target t =>
    rw [Receiver.admits, Bool.and_eq_true, decide_eq_true_eq] at hadmits
    obtain ⟨m, d, hm, hd, htarget, hcollecting⟩ := h.target t hadmits.2
    have hroot : parent.outermost = true := hadmits.1
    have hnode : (Receiver.target t).node p handed = m := by rw [Receiver.node, hm]; rfl
    refine ⟨d, by rw [hnode, hd], by rw [hroot, hnode, hcollecting]; rfl, fun typeId tag => ?_⟩
    exact congrArg Place.inTarget htarget
  | handed =>
    obtain ⟨d, hd⟩ := lt_length_iff.1 h.known
    refine ⟨d, hd, ?_, fun typeId tag => rfl⟩
    show (parent.outermost && !p.collects handed) = false
    cases site with
    | script => cases hadmits
    | container => rw [h.collects rfl, Bool.not_true, Bool.and_false]
    | element =>
      have hinner : parent.outermost = false := by
        rw [Parent.outermost]
        simpa [Receiver.admits] using hadmits
      rw [hinner, Bool.false_and]

end Ready

/-! ## One call -/

namespace BuilderUse

variable {b : BuilderUse} {s : Session β} {x : Executor β} {site : Site} {handed : NodeId}
  {on : Receiver} {block : NodeId → Session β → Session β}

/-- The statements after the construction of a node that write to it, run its block and attach it. -/
def attaching (b : BuilderUse) : List BuilderStep :=
  (if b.params.isEmpty then [] else [.assignAttributes])
    ++ (if b.definition.container then [] else [.runInit])
    ++ (if b.definition.returnPolicy = .reference then [.obtainReference] else [])
    ++ [.configure]
    ++ (if b.definition.container then [.runContainer] else [])

/-- The statements after the construction of a node. -/
def statements (b : BuilderUse) : List BuilderStep :=
  b.attaching
    ++ (if b.parent.outermost && !b.definition.condition then [.execute] else [])
    ++ (if b.definition.returnPolicy = .nothing then [] else [.return])

theorem plan_steps (b : BuilderUse) : b.plan.steps = .construct :: b.statements := rfl

theorem construct_notMem_statements (b : BuilderUse) : .construct ∉ b.statements := by
  simp [statements, attaching, apply_ite (BuilderStep.construct ∈ ·)]

/-- A node is built before the other statements are run on it. -/
theorem run_eq (ex : Option (Executor β)) (b : BuilderUse) (receiver : NodeId)
    (block : NodeId → Session β → Session β) (s : Session β) :
    b.run ex receiver block s =
      let n := s.project.nodes.length
      let s' := b.statements.foldl (b.act ex block n)
        (s.become (s.project.addNode receiver b.definition.id b.tag b.parent.outermost).1)
      { s' with completed := s'.completed ++ [(b, n)] } := by
  have hfoldl : ∀ (l : List BuilderStep) (s : Session β) (n : NodeId), .construct ∉ l →
      l.foldl (b.step ex receiver block) (s, n) = (l.foldl (b.act ex block n) s, n) := by
    intro l
    induction l with
    | nil => exact fun _ _ _ => rfl
    | cons st rest ih =>
      intro s n hl
      rw [List.mem_cons, not_or] at hl
      have hstep : b.step ex receiver block (s, n) st = (b.act ex block n s st, n) := by
        cases st with
        | construct => exact absurd rfl hl.1
        | _ => rfl
      rw [List.foldl_cons, List.foldl_cons, hstep, ih _ _ hl.2]
  have hconstruct : b.step ex receiver block (s, receiver) .construct =
      (s.become (s.project.addNode receiver b.definition.id b.tag b.parent.outermost).1,
        s.project.nodes.length) := by
    rw [← addNode_snd s.project receiver b.definition.id b.tag b.parent.outermost]
    rfl
  rw [run, plan_steps, List.foldl_cons, hconstruct, hfoldl _ _ _ b.construct_notMem_statements]

theorem returnPolicy_eq_bool (d : TaskDefinition) : d.returnPolicy = .bool ↔ d.condition = true := by
  unfold TaskDefinition.returnPolicy
  cases d.condition <;> cases d.reference <;> simp

variable {q : Session β} {k : NodeId} {d : Node} {new : List NodeId} {records : List CallRecord}
  {size : Nat}

/-- The block is run and the node attached, the block of a container after that and any other before. -/
theorem attaches (x : Executor β) (b : BuilderUse) (block : NodeId → Session β → Session β)
    (h : UnderWay s q k d [] [] 0 []) (hd : d.configured = false)
    (hblock : ∀ q' d', UnderWay s q' k d' [] [] 0 [] →
      (b.definition.container = true → q'.project.collects k = true) → b.hasBlock = true →
      Ran q' (block k q') k new records size)
    (hnone : b.hasBlock = false → new = [] ∧ records = [] ∧ size = 0) :
    UnderWay s (b.attaching.foldl (b.act (some x) block k) q) k { d with configured := true } new records
      size [] := by
  have href : ∀ {q d children records size}, UnderWay s q k d children records size [] →
      UnderWay s ((if b.definition.returnPolicy = .reference then [.obtainReference] else []).foldl
        (b.act (some x) block k) q) k d children records size [] := by
    intro q d children records size h
    split
    · exact h.same (sameView_takeReference q.project k)
    · exact h
  have hassigned : UnderWay s ((if b.params.isEmpty then [] else [.assignAttributes]).foldl
      (b.act (some x) block k) q) k d [] [] 0 [] := by
    split
    · exact h
    · exact h.same (sameView_assign b k q.project)
  rw [attaching, List.foldl_append, List.foldl_append, List.foldl_append, List.foldl_append]
  generalize (if b.params.isEmpty then [] else [BuilderStep.assignAttributes]).foldl
    (b.act (some x) block k) q = q at hassigned ⊢
  cases hc : b.definition.container with
  | false =>
    have hinit : UnderWay s (if b.hasBlock then block k q else q) k d new records size [] := by
      cases hb : b.hasBlock with
      | true => exact hassigned.block (hblock q d hassigned (by rw [hc]; nofun) hb)
      | false =>
        obtain ⟨rfl, rfl, rfl⟩ := hnone hb
        exact hassigned
    exact (href hinit).configure hd
  | true =>
    have hinit : ∀ q', UnderWay s q' k { d with configured := true } [] [] 0 [] →
        UnderWay s (if b.hasBlock then block k (q'.become (q'.project.collect k)) else q') k
          { d with configured := true } new records size [] := by
      intro q' hconfigured
      cases hb : b.hasBlock with
      | true =>
        have hcollects : (q'.project.collect k).collects k = true := by
          rw [collects_collect, if_pos rfl, decide_eq_true_eq]
          exact hconfigured.building.lt_length
        have hcollect := hconfigured.collect
        exact hcollect.block (hblock _ _ hcollect (fun _ => hcollects) hb)
      | false =>
        obtain ⟨rfl, rfl, rfl⟩ := hnone hb
        exact hconfigured
    exact hinit _ ((href hassigned).configure hd)

/-- What is built directly on a project or a target is run, unless it is a condition. -/
theorem executes (b : BuilderUse) (block : NodeId → Session β → Session β) (hx : x.Passive)
    (hroot : on ≠ .handed → b.parent.outermost = true)
    (h : UnderWay s q k d new records size []) (houtermost : d.outermost = decide (on ≠ .handed))
    (hnew : d.executed = false) : ∃ e : Bool, UnderWay s
      ((if b.parent.outermost && !b.definition.condition then [.execute] else []).foldl
        (b.act (some x) block k) q) k { d with executed := e } new records size
      (if b.definition.condition = false ∧ on ≠ .handed then [⟨.execute k, new⟩] else []) := by
  have hsame : UnderWay s q k { d with executed := false } new records size [] := by rwa [← hnew]
  by_cases hdirect : on ≠ .handed
  · rw [hroot hdirect, Bool.true_and]
    cases b.definition.condition with
    | true => exact ⟨false, hsame⟩
    | false =>
      rw [if_pos (⟨rfl, hdirect⟩ : false = false ∧ on ≠ .handed)]
      exact ⟨true, h.execute hx (houtermost.trans (decide_eq_true hdirect)) hnew⟩
  · rw [if_neg (fun hc => hdirect hc.2 : ¬ (b.definition.condition = false ∧ on ≠ .handed))]
    refine ⟨false, ?_⟩
    split
    · -- it was collected, so it is not run although its body says so
      have hinner : q.project.runnable k = false := by
        rw [runnable_eq h.building.own, houtermost, decide_eq_false hdirect, Bool.false_and]
      show UnderWay s (q.become (q.project.execute (some x) k)) k _ new records size []
      rw [execute_of_not_runnable hinner]
      exact hsame.same (.refl _)
    · exact hsame

/-- Conditions are evaluated. -/
theorem evaluates (b : BuilderUse) (block : NodeId → Session β → Session β) (hx : x.Passive)
    {own : List Invocation}
    (h : UnderWay s q k d new records size own) : UnderWay s
      ((if b.definition.returnPolicy = .nothing then [] else [.return]).foldl
        (b.act (some x) block k) q) k d new records size
      (own ++ if b.definition.condition then [⟨.eval k, new⟩] else []) := by
  have hreturns : b.plan.returns = b.definition.returnPolicy := rfl
  cases hc : b.definition.condition with
  | true =>
    have hbool := (returnPolicy_eq_bool b.definition).2 hc
    rw [hbool, if_neg nofun]
    show UnderWay s (if b.plan.returns = .bool then _ else q) k d new records size _
    rw [if_pos (hreturns.trans hbool)]
    exact h.eval hx
  | false =>
    have hbool : b.definition.returnPolicy ≠ .bool := by
      rw [Ne, returnPolicy_eq_bool, hc]
      exact Bool.false_ne_true
    rw [if_neg Bool.false_ne_true, List.append_nil]
    split
    · exact h
    · show UnderWay s (if b.plan.returns = .bool then _ else q) k d new records size _
      rwa [if_neg (by rwa [hreturns])]

/-- **A call does what its record says**, if the calls of its block do. -/
theorem ran_run (hx : x.Passive) (hready : Ready s.project site handed)
    (hadmits : on.admits s.project.targets.length site b.parent.kind = true)
    (hblock : ∀ q, Ready q.project b.site s.project.nodes.length →
      q.project.nodes.length = s.project.nodes.length + 1 →
      q.project.targets.length = s.project.targets.length → b.hasBlock = true →
      Ran q (block s.project.nodes.length q) s.project.nodes.length new records size)
    (hnone : b.hasBlock = false → new = [] ∧ records = [] ∧ size = 0) :
    Ran s (b.run (some x) (on.node s.project handed) block s) handed
      (if on = .handed then [s.project.nodes.length] else [])
      (records ++ [⟨b, on, s.project.nodes.length, on.place handed, new⟩]) (size + 1) := by
  rw [run_eq]
  generalize hk : s.project.nodes.length = k at hblock
  obtain ⟨above, habove, halone, hplace⟩ := hready.receives hadmits
  have hroot : on ≠ .handed → b.parent.outermost = true := by
    intro hdirect
    rw [decide_eq_true hdirect, Bool.and_eq_true] at halone
    exact halone.1
  have hbuilding := Building.construct hready.forest habove b.definition.id b.tag b.parent.outermost
  rw [halone, hk] at hbuilding
  generalize hd : newHeading above _ b.definition.id b.tag _ = d at hbuilding
  have hplaced : d.place = on.place handed := by rw [← hd]; exact hplace b.definition.id b.tag
  have hbegun : UnderWay s (s.become (s.project.addNode (on.node s.project handed) b.definition.id b.tag
      b.parent.outermost).1) k d [] [] 0 [] :=
    { building := hbuilding
      length := by
        obtain ⟨node, hnode, _⟩ := exists_node_of_heading? habove
        rw [Session.become, addNode_of_node hnode, ← hk]
        exact List.length_append
      shown := fun _ hr => absurd hr List.not_mem_nil
      adds := Session.adds_become_nil (sameRecords_addNode s.project _ _ _ _).calls }
  have hattached := attaches x b block hbegun (by rw [← hd]; rfl)
    (fun q' d' h hcollects hb => by
      refine hblock q' (hready.keep h.building.forest ?_ ?_ h.building.targets h.building.sites
        h.building.lt_length fun hsite => hcollects ?_) h.length h.building.targets hb
      · rw [hk]; exact h.building.heading
      · rw [hk]; exact h.building.collects
      · unfold BuilderUse.site at hsite
        split at hsite
        · assumption
        · cases hsite) hnone
  obtain ⟨e, hexecuted⟩ := executes b block hx hroot hattached (by rw [← hd]; rfl)
    (by rw [← hd]; rfl)
  have hended := evaluates b block hx hexecuted
  dsimp only
  rw [statements, List.foldl_append, List.foldl_append]
  refine hended.ran (r := ⟨b, on, k, on.place handed, new⟩) hk.symm rfl rfl rfl (by rw [← hd]; rfl)
    (by rw [← hd]; rfl) hplaced rfl ?_
  unfold CallRecord.invocations
  cases b.definition.condition with
  | true => rw [if_neg (by simp)]; rfl
  | false => by_cases hdirect : on = .handed <;> simp [hdirect]

end BuilderUse

/-! ## Trees of calls -/

mutual

/-- **A call and those of its block do what their records say.** -/
theorem BuilderCall.ran_run {x : Executor β} (hx : x.Passive) (c : BuilderCall) {site : Site}
    {handed : NodeId} {s : Session β} (hready : Ready s.project site handed)
    (hfits : c.fits s.project.targets.length site = true) :
    Ran s (c.run (some x) handed s) handed (if c.on = .handed then [s.project.nodes.length] else [])
      (c.records s.project.nodes.length handed) c.size := by
  match c with
  | .call b on block =>
    rw [BuilderCall.fits, Bool.and_eq_true, Bool.and_eq_true] at hfits
    obtain ⟨⟨hadmits, hgiven⟩, hinner⟩ := hfits
    rw [BuilderCall.run, BuilderCall.records, BuilderCall.size]
    refine b.ran_run hx hready hadmits (fun q hq hlength htargets _ => ?_) fun hb => ?_
    · have hran := BuilderCall.ran_runAll hx block hq (htargets.symm ▸ hinner)
      rwa [hlength] at hran
    · rw [hb, Bool.false_or, List.isEmpty_iff] at hgiven
      subst hgiven
      exact ⟨rfl, rfl, rfl⟩

theorem BuilderCall.ran_runAll {x : Executor β} (hx : x.Passive) (calls : List BuilderCall) {site : Site}
    {handed : NodeId} {s : Session β} (hready : Ready s.project site handed)
    (hfits : allFit s.project.targets.length site calls = true) :
    Ran s (BuilderCall.runAll (some x) handed calls s) handed
      (childNodes s.project.nodes.length calls) (recordsAll s.project.nodes.length handed calls)
      (sizeAll calls) := by
  match calls with
  | [] =>
    rw [BuilderCall.runAll, recordsAll, sizeAll, childNodes]
    exact .refl hready.forest handed
  | c :: rest =>
    rw [allFit, Bool.and_eq_true] at hfits
    have hfirst := BuilderCall.ran_run hx c hready hfits.1
    have hrest := BuilderCall.ran_runAll hx rest (hready.grown hfirst.forest hfirst.grown)
      (hfirst.grown.targets.symm ▸ hfits.2)
    rw [hfirst.length] at hrest
    rw [BuilderCall.runAll, recordsAll, sizeAll, childNodes]
    exact hfirst.trans hready.known hrest

end

/-! ## Scripts -/

/-- Items of a script were run: the nodes that were there before are as they were. -/
structure ScriptRan (s s' : Session β) (records : List CallRecord) : Prop where
  ready : Ready s'.project .script rootNode
  length : s.project.nodes.length ≤ s'.project.nodes.length
  old : ∀ m < s.project.nodes.length, s'.project.heading? m = s.project.heading? m ∧
    s'.project.listAt (.under m) = s.project.listAt (.under m)
  shown : ∀ r ∈ records, r.Shown s'.project
  adds : s.Adds s' (records.flatMap CallRecord.invocations) (records.map CallRecord.entry)

theorem ScriptRan.trans {s s' s'' : Session β} {records records' : List CallRecord}
    (h : ScriptRan s s' records) (h' : ScriptRan s' s'' records') :
    ScriptRan s s'' (records ++ records') where
  ready := h'.ready
  length := Nat.le_trans h.length h'.length
  old m hm := by
    obtain ⟨hheading, hlist⟩ := h.old m hm
    obtain ⟨hheading', hlist'⟩ := h'.old m (Nat.lt_of_lt_of_le hm h.length)
    exact ⟨hheading'.trans hheading, hlist'.trans hlist⟩
  shown r hr := by
    rcases List.mem_append.1 hr with hr | hr
    · have hshown := h.shown r hr
      obtain ⟨hheading, hlist⟩ := h'.old r.node hshown.lt_length
      exact hshown.of_eq hheading hlist
    · exact h'.shown r hr
  adds := by
    rw [List.flatMap_append, List.map_append]
    exact h.adds.trans h'.adds

/-- A new project is ready. -/
theorem ready_new (name : String) : Ready (Project.new name : Project β) .script rootNode where
  forest := ⟨[], Forest.new name⟩
  project := ⟨_, rfl, rfl, rfl⟩
  target t ht := by
    obtain rfl : t = 0 := Nat.lt_one_iff.1 ht
    exact ⟨1, _, rfl, rfl, rfl, rfl⟩
  known := Nat.two_pos
  collects := nofun

/-- Declaring a target adds its node. -/
theorem scriptRan_declare {s : Session β} (hready : Ready s.project .script rootNode) (name : String)
    (depends : List String) (body : Option β) :
    ScriptRan s (s.become (s.project.declare name depends body).1) [] := by
  have hheading := heading?_declare s.project name depends body
  have hcollects := collects_declare s.project name depends body
  have hlength : (s.project.declare name depends body).1.nodes.length = s.project.nodes.length + 1 :=
    List.length_append
  have hold : ∀ m < s.project.nodes.length,
      (s.project.declare name depends body).1.heading? m = s.project.heading? m := by
    intro m hm
    rw [hheading, if_neg (Nat.ne_of_lt hm)]
  refine ⟨?_, ?_, ?_, fun _ hr => absurd hr List.not_mem_nil, Session.adds_become_nil rfl⟩
  · obtain ⟨history, hf⟩ := hready.forest
    refine ⟨⟨history, hf.declare name depends body⟩, ?_, ?_, ?_, nofun⟩
    · obtain ⟨d, hd, htarget, hcollecting⟩ := hready.project
      exact ⟨d, (hold _ (lt_length_of_heading? hd)).trans hd, htarget, (hcollects _).trans hcollecting⟩
    · intro t ht
      have ht : t < s.project.targets.length + 1 := by simpa [Session.become, declare] using ht
      rcases Nat.lt_succ_iff_lt_or_eq.1 ht with ht | rfl
      · obtain ⟨m, d, hm, hd, htarget, hcollecting⟩ := hready.target t ht
        refine ⟨m, d, ?_, (hold _ (lt_length_of_heading? hd)).trans hd, htarget,
          (hcollects _).trans hcollecting⟩
        rw [← hm]
        exact congrArg (Option.map Target.node) (List.getElem?_append_left ht)
      · refine ⟨s.project.nodes.length, targetHeading s.project.targets.length, ?_, ?_, rfl, ?_⟩
        · exact congrArg (Option.map Target.node) List.getElem?_concat_length
        · exact (hheading _).trans (if_pos rfl)
        · refine (hcollects _).trans ?_
          rw [Project.collects, List.getElem?_eq_none (Nat.le_refl _)]
          rfl
    · exact Nat.lt_of_lt_of_le hready.known (hlength ▸ Nat.le_succ _)
  · exact hlength ▸ Nat.le_succ _
  · exact fun m hm => ⟨hold m hm, listAt_declare s.project name depends body _⟩

namespace ScriptItem

variable {x : Executor β} {s : Session β}

/-- A call of a script is made directly on the project or a target, so it attaches nothing to a node
that was there before. -/
theorem scriptRan_call (hx : x.Passive) (hready : Ready s.project .script rootNode) {c : BuilderCall}
    (hfits : c.fits s.project.targets.length .script = true) :
    ScriptRan s (c.run (some x) rootNode s) (c.records s.project.nodes.length rootNode) := by
  have hran := BuilderCall.ran_run hx c hready hfits
  have hdirect : c.on ≠ .handed := by
    intro hon
    match c, hon with
    | .call b _ block, rfl => simp [BuilderCall.fits, Receiver.admits] at hfits
  rw [if_neg hdirect] at hran
  refine ⟨hready.grown hran.forest hran.grown, hran.grown.length, ?_,
    fun r hr => (hran.shown r hr).2, hran.adds⟩
  intro m hm
  refine ⟨hran.grown.heading m hm, ?_⟩
  rw [hran.grown.list m hm, ite_self, List.append_nil]

/-- **A script does what the records of its calls say.** -/
theorem scriptRan_foldl (hx : x.Passive) (items : List (ScriptItem β))
    (hready : Ready s.project .script rootNode)
    (hfits : allFit s.project.targets.length items = true) :
    ScriptRan s (items.foldl (run (some x)) s) (recordsFrom s.project.nodes.length items) := by
  induction items generalizing s with
  | nil =>
    exact ⟨hready, Nat.le_refl _, fun _ _ => ⟨rfl, rfl⟩, fun _ hr => absurd hr List.not_mem_nil, .refl s⟩
  | cons item rest ih =>
    cases item with
    | target name depends body =>
      have hfirst := scriptRan_declare hready name depends body
      have hrest := ih hfirst.ready (by
        have htargets : (s.project.declare name depends body).1.targets.length =
            s.project.targets.length + 1 := List.length_append
        rw [Session.become, htargets]
        exact hfits)
      have hlength : (s.project.declare name depends body).1.nodes.length =
          s.project.nodes.length + 1 := List.length_append
      rw [Session.become, hlength] at hrest
      exact hfirst.trans hrest
    | call c =>
      rw [allFit, Bool.and_eq_true] at hfits
      have hran := BuilderCall.ran_run hx c hready hfits.1
      have hfirst := scriptRan_call hx hready hfits.1
      have hrest := ih hfirst.ready (hran.grown.targets.symm ▸ hfits.2)
      rw [hran.length] at hrest
      exact hfirst.trans hrest

/-- Each call of a script builds a node of its own. -/
theorem nodup_recordsFrom (items : List (ScriptItem β)) (next : NodeId) :
    ((recordsFrom next items).map CallRecord.node).Nodup ∧
      ∀ r ∈ recordsFrom next items, next ≤ r.node := by
  induction items generalizing next with
  | nil => exact ⟨List.nodup_nil, fun _ hr => absurd hr List.not_mem_nil⟩
  | cons item rest ih =>
    cases item with
    | target name depends body =>
      obtain ⟨hnodup, hle⟩ := ih (next + 1)
      exact ⟨hnodup, fun r hr => Nat.le_of_succ_le (hle r hr)⟩
    | call c =>
      obtain ⟨hnodup, hle⟩ := ih (next + c.size)
      have hperm := c.perm_records next rootNode
      have hrange : ∀ r ∈ c.records next rootNode, next ≤ r.node ∧ r.node < next + c.size :=
        fun r hr => List.mem_range'_1.1 (hperm.subset (List.mem_map_of_mem hr))
      rw [recordsFrom]
      refine ⟨?_, fun r hr => ?_⟩
      · rw [List.map_append, List.nodup_append]
        refine ⟨hperm.nodup_iff.2 List.nodup_range', hnodup, ?_⟩
        intro n hn m hm
        obtain ⟨r, hr, rfl⟩ := List.mem_map.1 hn
        obtain ⟨r', hr', rfl⟩ := List.mem_map.1 hm
        exact Nat.ne_of_lt (Nat.lt_of_lt_of_le (hrange r hr).2 (hle r' hr'))
      · rcases List.mem_append.1 hr with hr | hr
        · exact (hrange r hr).1
        · exact Nat.le_of_add_right_le (hle r hr)

end ScriptItem

/-- **What the builders of a script do.** Take any script whose calls, at any depth, are made on
receivers that admit them, and an executor that leaves the nodes alone. Then

* the calls that came to their end, with the nodes that they built, are those of the records, and each
  call has a node of its own;
* the executor was called for exactly what the records say, in the order in which the calls came to
  their end: once to run what was built directly on the project or a target and is no condition, once to
  evaluate each condition, and then the node had the calls of its block as its children, in their order;
* each node is that of its definition, has the calls of its block as its children, and is attached once,
  to the tasks of the target that it was built on or to the children of what its call was made on. -/
theorem script_invocations {x : Executor β} (hx : x.Passive) (name : String)
    (items : List (ScriptItem β)) (hfits : ScriptItem.allFit 1 items = true) :
    let s := ScriptItem.runAll (some x) name items
    let records := ScriptItem.recordsFrom 2 items
    s.completed = records.map CallRecord.entry ∧
      (records.map CallRecord.node).Nodup ∧
      s.invocations = records.flatMap CallRecord.invocations ∧
      s.project.calls = s.invocations.map Invocation.call ∧
      ∀ r ∈ records, (∃ d, s.project.nodes[r.node]? = some d ∧ d.typeId = r.builder.definition.id ∧
          d.tag = r.builder.tag ∧ d.children = r.children) ∧
        ∀ place, (s.project.listAt place).count r.node = if place = r.place then 1 else 0 := by
  intro s records
  have hran : ScriptRan { project := .new name } s records :=
    ScriptItem.scriptRan_foldl hx items (ready_new name) hfits
  refine ⟨hran.adds.completed, (ScriptItem.nodup_recordsFrom items 2).1, hran.adds.invocations, ?_,
    fun r hr => ?_⟩
  · rw [hran.adds.invocations]
    exact hran.adds.calls
  · obtain ⟨⟨heading, hheading, hid, htag, hplace, hconfigured⟩, hchildren⟩ := hran.shown r hr
    obtain ⟨d, hd, rfl⟩ := exists_node_of_heading? hheading
    refine ⟨⟨d, hd, hid, htag, ?_⟩, fun place => ?_⟩
    · rw [listAt, hd] at hchildren
      exact hchildren
    · obtain ⟨history, hf⟩ := hran.ready.forest
      rw [hf.attached r.node d.heading hheading place, hconfigured, hplace]
      simp [eq_comm]

/-- An executor that runs nothing and finds every condition true. -/
def idler : Executor Unit where
  execute _ p := (p, some "not run")
  eval _ p := (p, .ok true)

theorem idler_passive : idler.Passive := ⟨fun _ p => .refl p, fun _ p => .refl p⟩

/-- A builder of a definition that is called with a block. -/
def blockUse (d : TaskDefinition) (kind : ParentKind) : BuilderUse where
  definition := d
  parent := ⟨kind, "dsl.TaskContainer"⟩
  tag := d.id
  element := d.id
  rootContainer := "dsl.TaskContainer"
  params := [⟨"todir", .string, "string"⟩]
  values := [some (.text "out")]
  hasBlock := true

/-- A target with a container, which collects a task with a nested element and a condition; in its block
a task is built on the project, too. -/
def sequentialScript : List (ScriptItem Unit) :=
  [.target "build" [] none,
    .call (.call (blockUse { id := "sequential", container := true } .root) (.target 1)
      [.call (blockUse { id := "copy", reference := true } .root) .handed
        [.call (blockUse { id := "fileset" } .owner) .handed [],
          .call (blockUse { id := "isset", condition := true } .container) .handed []],
        .call (blockUse { id := "echo" } .root) .project []])]

theorem script_invocations_sequential : ScriptItem.allFit 1 sequentialScript = true ∧
    (ScriptItem.runAll (some idler) "demo" sequentialScript).invocations =
      [⟨.eval 6, []⟩, ⟨.execute 7, []⟩, ⟨.execute 3, [4]⟩] ∧
    ∃ r ∈ ScriptItem.recordsFrom 2 sequentialScript, r.node = 4 ∧ r.place = .under 3 ∧
      r.children = [5, 6] ∧ ∀ place,
        ((ScriptItem.runAll (some idler) "demo" sequentialScript).project.listAt place).count 4 =
          if place = .under 3 then 1 else 0 := by
  have hscript := script_invocations idler_passive "demo" sequentialScript (by decide)
  have hmem : ∃ r ∈ ScriptItem.recordsFrom 2 sequentialScript, r.node = 4 ∧ r.place = .under 3 ∧
      r.children = [5, 6] := by
    refine ⟨_, List.mem_of_getElem? (i := 2) rfl, rfl, rfl, rfl⟩
  obtain ⟨r, hr, hnode, hplace, hchildren⟩ := hmem
  refine ⟨by decide, hscript.2.2.1.trans (by rfl), r, hr, hnode, hplace, hchildren, ?_⟩
  rw [← hnode, ← hplace]
  exact (hscript.2.2.2.2 r hr).2

end TaskBuilders.Script
