import TaskBuilders.Proofs.Script.BuilderCall
import TaskBuilders.Proofs.Script.Forest

/-!
# What calls do to the nodes of a project

A call builds its node first and attaches it before or after its block is run. While it does so, the nodes
that were there before keep their headings, and nothing is attached to them but the new node. `Building`
tells this of a call that is under way and `Grown` of calls that came to their end; the first turns into
the second at the end of a call, and the second into the first when a block is run.

* `Project.SameView`, `Executor.Passive` — executors that leave the forest alone
* `Grown` — calls that came to their end
* `CallRecord.Shown` — what a call leaves of its node
* `Building` — a call that is under way, with one lemma for each statement of its body
-/

namespace TaskBuilders.Script

open Project

variable {β : Type}

/-! ## Changes that calls do not see -/

namespace Project

variable {p p' p'' : Project β} {n k : NodeId} {d : Node}

/-- The nodes, where they are attached, what they collect, the nodes of the targets and the calls of the
executor are the same. -/
structure SameView (p p' : Project β) : Prop extends SameForest p p' where
  collects : ∀ k, p'.collects k = p.collects k
  sites : ∀ t, p'.site? t = p.site? t
  calls : p'.calls = p.calls

theorem SameView.refl (p : Project β) : SameView p p :=
  ⟨.refl p, fun _ => rfl, fun _ => rfl, rfl⟩

theorem SameView.trans (h : SameView p p') (h' : SameView p' p'') : SameView p p'' :=
  ⟨h.toSameForest.trans h'.toSameForest, fun k => (h'.collects k).trans (h.collects k),
    fun t => (h'.sites t).trans (h.sites t), h'.calls.trans h.calls⟩

theorem sameView_setAttribute (p : Project β) (n : NodeId) (name : String) (v : AttributeValue) :
    SameView p (p.setAttribute n name v) :=
  ⟨sameForest_setAttribute p n name v, collects_setAttribute p n name v, fun _ => rfl, rfl⟩

theorem sameView_takeReference (p : Project β) (n : NodeId) : SameView p (p.takeReference n).1 := by
  refine ⟨sameForest_takeReference p n, collects_takeReference p n, fun t => ?_,
    (sameRecords_takeReference p n).calls⟩
  rcases p.takeReference_cases n with h | ⟨k, id, h⟩
  · rw [h]
  · rw [h]; rfl

theorem sameView_settle (p : Project β) (tag : String) (cause : Option String) :
    SameView p (p.settle tag cause) := by
  refine ⟨sameForest_settle p tag cause, fun k => ?_, fun t => ?_, calls_settle p tag cause⟩
  · cases cause <;> rfl
  · cases cause <;> rfl

/-- Giving attributes to a node changes no view. -/
theorem sameView_assign (b : BuilderUse) (n : NodeId) (p : Project β) :
    SameView p (b.assign n p) := by
  unfold BuilderUse.assign
  generalize b.plan.params.zip b.values = given
  induction given generalizing p with
  | nil => exact .refl p
  | cons a rest ih =>
    rw [List.foldl_cons]
    refine SameView.trans ?_ (ih _)
    cases a.2 with
    | none => exact .refl p
    | some v => exact sameView_setAttribute p n a.1.name v

theorem site?_configure (p : Project β) (n : NodeId) (t : TargetId) :
    (p.configure n).site? t = p.site? t := by
  unfold configure
  split
  · rfl
  · split
    · rfl
    · dsimp only
      split
      · rfl
      · show ((p.targets.modify _ _)[t]?).map Target.node = _
        rw [List.getElem?_modify, site?]
        cases p.targets[t]? with
        | none => rfl
        | some target =>
          simp only [Option.map_eq_map, Option.map_some]
          split <;> rfl

theorem collects_begun (p : Project β) (n k : NodeId) : (p.begun n).collects k = p.collects k :=
  collects_modifyNode (f := ({ · with executed := true })) (by intro; rfl) p n k

/-- The nodes of a project are a forest, with some history. -/
def IsForest (p : Project β) : Prop := ∃ h, Forest h p

theorem IsForest.of_same (hf : IsForest p) (h : SameForest p p')
    (hcalls : ∀ k, p'.calls.count (.execute k) = p.calls.count (.execute k)) : IsForest p' := by
  obtain ⟨history, hf⟩ := hf
  exact ⟨history, hf.of_same h hcalls (fun _ => id) fun _ => .rfl⟩

end Project

/-- An executor that leaves the nodes of a project where they are and makes no calls of its own. It may
write to them. -/
structure Executor.Passive (x : Executor β) : Prop where
  execute : ∀ n p, SameView p (x.execute n p).1
  eval : ∀ n p, SameView p (x.eval n p).1

/-! ## Growth -/

/-- Nodes were built. Those that were there before are as they were, but `new` is attached to `handed`. -/
structure Grown (p p' : Project β) (handed : NodeId) (new : List NodeId) : Prop where
  length : p.nodes.length ≤ p'.nodes.length
  heading : ∀ m < p.nodes.length, p'.heading? m = p.heading? m
  collects : ∀ m < p.nodes.length, p'.collects m = p.collects m
  list : ∀ m < p.nodes.length,
    p'.listAt (.under m) = p.listAt (.under m) ++ if m = handed then new else []
  targets : p'.targets.length = p.targets.length
  sites : ∀ t, p'.site? t = p.site? t

namespace Grown

variable {p p' p'' : Project β} {handed : NodeId} {new new' : List NodeId}

theorem refl (p : Project β) (handed : NodeId) : Grown p p handed [] where
  length := Nat.le_refl _
  heading _ _ := rfl
  collects _ _ := rfl
  list _ _ := by rw [ite_self, List.append_nil]
  targets := rfl
  sites _ := rfl

theorem trans (h : Grown p p' handed new) (h' : Grown p' p'' handed new') :
    Grown p p'' handed (new ++ new') where
  length := Nat.le_trans h.length h'.length
  heading m hm := by rw [h'.heading m (Nat.lt_of_lt_of_le hm h.length), h.heading m hm]
  collects m hm := by rw [h'.collects m (Nat.lt_of_lt_of_le hm h.length), h.collects m hm]
  list m hm := by
    rw [h'.list m (Nat.lt_of_lt_of_le hm h.length), h.list m hm, List.append_assoc]
    by_cases hh : m = handed
    · rw [if_pos hh, if_pos hh, if_pos hh]
    · rw [if_neg hh, if_neg hh, if_neg hh, List.append_nil]
  targets := h'.targets.trans h.targets
  sites t := (h'.sites t).trans (h.sites t)

end Grown

/-- What a call leaves of its node: it was built for the definition, is attached at its place, and has
the calls of its block as its children. -/
structure CallRecord.Shown (p : Project β) (r : CallRecord) : Prop where
  heading : ∃ d, p.heading? r.node = some d ∧ d.typeId = r.builder.definition.id ∧
    d.tag = r.builder.tag ∧ d.place = r.place ∧ d.configured = true
  children : p.listAt (.under r.node) = r.children

namespace CallRecord.Shown

variable {p p' : Project β} {r : CallRecord}

theorem of_eq (h : r.Shown p) (hheading : p'.heading? r.node = p.heading? r.node)
    (hlist : p'.listAt (.under r.node) = p.listAt (.under r.node)) : r.Shown p' :=
  ⟨hheading ▸ h.heading, hlist.trans h.children⟩

theorem lt_length (h : r.Shown p) : r.node < p.nodes.length := by
  obtain ⟨d, hd, _⟩ := h.heading
  exact lt_length_of_heading? hd

theorem grown {handed : NodeId} {new : List NodeId} (h : r.Shown p) (hg : Grown p p' handed new)
    (hne : r.node ≠ handed) : r.Shown p' := by
  refine h.of_eq (hg.heading r.node h.lt_length) ?_
  rw [hg.list r.node h.lt_length, if_neg hne, List.append_nil]

end CallRecord.Shown

/-- A call is under way: its node `k` has the heading `d` and the children `children`. The nodes before
it are as they were, but it may be attached to one of them. -/
structure Building (p q : Project β) (k : NodeId) (d : Node) (children : List NodeId) : Prop where
  forest : IsForest q
  own : q.heading? k = some d
  heading : ∀ m < k, q.heading? m = p.heading? m
  collects : ∀ m < k, q.collects m = p.collects m
  list : ∀ m < k, q.listAt (.under m) =
    p.listAt (.under m) ++ if d.configured = true ∧ d.place = .under m then [k] else []
  children : q.listAt (.under k) = children
  targets : q.targets.length = p.targets.length
  sites : ∀ t, q.site? t = p.site? t

namespace Building

variable {p q q' : Project β} {k : NodeId} {d : Node} {children new : List NodeId}

theorem lt_length (h : Building p q k d children) : k < q.nodes.length := lt_length_of_heading? h.own

/-- A node is not attached to itself or to a later one. -/
theorem place_ne (h : Building p q k d children) {m : NodeId} (hm : k ≤ m) : d.place ≠ .under m := by
  intro hplace
  obtain ⟨history, hf⟩ := h.forest
  have hparent : d.parent = some m := by
    unfold Node.place at hplace
    split at hplace
    · next j hj => rw [hj, Place.under.inj hplace]
    · cases hplace
  exact absurd (hf.parent k d m h.own hparent).1 (Nat.not_lt.2 hm)

/-- A node is built. -/
theorem construct {parent : NodeId} {above : Node} (hf : IsForest p)
    (habove : p.heading? parent = some above) (typeId tag : String) (outermost : Bool) :
    Building p (p.addNode parent typeId tag outermost).1 p.nodes.length
      (newHeading above parent typeId tag (outermost && !p.collects parent)) [] := by
  obtain ⟨history, hf⟩ := hf
  have htargets : (p.addNode parent typeId tag outermost).1.targets = p.targets := by
    unfold addNode
    split <;> rfl
  have hnone : p.listAt (.under p.nodes.length) = [] := by
    rw [listAt, List.getElem?_eq_none (Nat.le_refl _)]
    rfl
  refine ⟨⟨_, hf.addNode (lt_length_of_heading? habove) typeId tag outermost⟩, ?_, ?_, ?_, ?_, ?_, ?_, ?_⟩
  · rw [heading?_addNode habove, if_pos rfl]
  · intro m hm
    rw [heading?_addNode habove, if_neg (Nat.ne_of_lt hm)]
  · exact fun m _ => collects_addNode p parent typeId tag outermost m
  · intro m _
    rw [listAt_addNode, if_neg (by rintro ⟨h, _⟩; exact Bool.noConfusion h), List.append_nil]
  · rw [listAt_addNode, hnone]
  · rw [htargets]
  · intro t
    rw [site?, htargets, site?]

/-- Something changes that calls do not see. -/
theorem same (h : Building p q k d children) (hs : SameView q q') : Building p q' k d children where
  forest := h.forest.of_same hs.toSameForest fun _ => by rw [hs.calls]
  own := by rw [hs.heading, h.own]
  heading m hm := by rw [hs.heading, h.heading m hm]
  collects m hm := by rw [hs.collects, h.collects m hm]
  list m hm := by rw [hs.list, h.list m hm]
  children := by rw [hs.list, h.children]
  targets := hs.targets.trans h.targets
  sites t := (hs.sites t).trans (h.sites t)

/-- The calls of a block are made. -/
theorem block (h : Building p q k d children) (hf : IsForest q') (hg : Grown q q' k new) :
    Building p q' k d (children ++ new) where
  forest := hf
  own := by rw [hg.heading k h.lt_length, h.own]
  heading m hm := by rw [hg.heading m (Nat.lt_trans hm h.lt_length), h.heading m hm]
  collects m hm := by rw [hg.collects m (Nat.lt_trans hm h.lt_length), h.collects m hm]
  list m hm := by
    rw [hg.list m (Nat.lt_trans hm h.lt_length), if_neg (Nat.ne_of_lt hm), List.append_nil, h.list m hm]
  children := by rw [hg.list k h.lt_length, if_pos rfl, h.children]
  targets := hg.targets.trans h.targets
  sites t := (hg.sites t).trans (h.sites t)

/-- The node is to collect what is built under it. -/
theorem collect (h : Building p q k d children) : Building p (q.collect k) k d children := by
  have hs := sameForest_collect q k
  refine ⟨h.forest.of_same hs fun _ => rfl, ?_, ?_, ?_, ?_, ?_, h.targets, h.sites⟩
  · rw [hs.heading, h.own]
  · intro m hm
    rw [hs.heading, h.heading m hm]
  · intro m hm
    rw [collects_collect, if_neg (Nat.ne_of_lt hm), h.collects m hm]
  · intro m hm
    rw [hs.list, h.list m hm]
  · rw [hs.list, h.children]

/-- What the node's being attached does to the lists under nodes. -/
theorem listAt_configure (h : Building p q k d children) (hd : d.configured = false) (m : NodeId) :
    (q.configure k).listAt (.under m) =
      q.listAt (.under m) ++ if d.place = .under m then [k] else [] := by
  obtain ⟨history, hf⟩ := h.forest
  rw [Project.listAt_configure h.own
    (fun j hj => Nat.lt_trans (hf.parent k d j h.own hj).1 h.lt_length) (hf.target k d h.own)]
  by_cases hplace : d.place = .under m
  · rw [if_pos ⟨hd, hplace.symm⟩, if_pos hplace]
  · rw [if_neg fun hc => hplace hc.2.symm, if_neg hplace, List.append_nil]

/-- The node is attached. -/
theorem configure (h : Building p q k d children) (hd : d.configured = false) :
    Building p (q.configure k) k { d with configured := true } children := by
  have hheading := heading?_configure h.own
  have hlist := h.listAt_configure hd
  refine ⟨?_, by rw [hheading, if_pos rfl], ?_, ?_, ?_, ?_, ?_, ?_⟩
  · obtain ⟨history, hf⟩ := h.forest
    exact ⟨_, hf.configure h.lt_length⟩
  · intro m hm
    rw [hheading, if_neg (Nat.ne_of_lt hm), h.heading m hm]
  · intro m hm
    rw [collects_configure, h.collects m hm]
  · intro m hm
    have hplace : ({ d with configured := true } : Node).place = d.place := rfl
    rw [hlist, h.list m hm, hd, hplace, if_neg (by rintro ⟨h, _⟩; exact Bool.noConfusion h),
      List.append_nil]
    simp only [true_and]
  · rw [hlist, if_neg (h.place_ne (Nat.le_refl k)), List.append_nil, h.children]
  · rw [length_targets_configure, h.targets]
  · intro t
    rw [site?_configure, h.sites]

/-- The node is handed to the executor. -/
theorem begun (h : Building p q k d children) (hrun : q.runnable k = true) :
    Building p (q.begun k) k { d with executed := true } children := by
  have hheading := heading?_begun h.own
  refine ⟨?_, by rw [hheading, if_pos rfl], ?_, ?_, ?_, ?_, h.targets, h.sites⟩
  · obtain ⟨history, hf⟩ := h.forest
    exact ⟨history, hf.start h.own hrun (Or.inr rfl)⟩
  · intro m hm
    rw [hheading, if_neg (Nat.ne_of_lt hm), h.heading m hm]
  · intro m hm
    rw [collects_begun, h.collects m hm]
  · intro m hm
    rw [listAt_begun, h.list m hm]
    rfl
  · rw [listAt_begun, h.children]

/-- At its end a call has attached its node, and has done nothing else to the nodes before it. -/
theorem grown (h : Building p q k d children) (hk : k = p.nodes.length) (hd : d.configured = true)
    {handed : NodeId} {on : Receiver} (hplace : d.place = on.place handed) :
    Grown p q handed (if on = .handed then [k] else []) where
  length := by rw [← hk]; exact Nat.le_of_lt h.lt_length
  heading m hm := h.heading m (hk ▸ hm)
  collects m hm := h.collects m (hk ▸ hm)
  list m hm := by
    rw [h.list m (hk ▸ hm), hd, hplace]
    cases on with
    | handed => simp [Receiver.place, eq_comm]
    | project => simp [Receiver.place]
    | target t => simp [Receiver.place]
  targets := h.targets
  sites := h.sites

end Building

end TaskBuilders.Script
