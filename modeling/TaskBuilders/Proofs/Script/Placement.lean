import TaskBuilders.Script.Project

/-!
# Where nodes are attached

A node is attached to one list: to the children of its parent, or to the tasks of its target when it
has no parent. What the operations of a project do to nodes is told by two views of it: the headings of
its nodes, without what is written into them and what is attached to them, and the lists at all places.

* `Project.heading?`, `Project.listAt` — the two views
* `Project.SameForest` — two projects with the same views
* `Project.heading?_addNode`, `Project.listAt_configure`, … — what each operation does to them
-/

namespace TaskBuilders.Script

variable {β : Type}

/-- A place where nodes are attached. -/
inductive Place where
  /-- Among the children of a node. -/
  | under (parent : NodeId)
  /-- Among the tasks of a target. -/
  | inTarget (target : TargetId)
deriving Repr, DecidableEq

/-- Where a node is attached when it is configured. -/
def Node.place (d : Node) : Place :=
  match d.parent with
  | some m => .under m
  | none => .inTarget d.target

/-- A node without what is written into it and what is attached to it. -/
def Node.heading (d : Node) : Node :=
  { d with attributes := ∅, text := "", children := [], collecting := false }

namespace Project

variable {p p' p'' : Project β} {n k : NodeId} {d : Node}

/-- The heading of a node. -/
def heading? (p : Project β) (n : NodeId) : Option Node := (p.nodes[n]?).map Node.heading

/-- Whether a node collects the tasks that are built under it. -/
def collects (p : Project β) (n : NodeId) : Bool := (p.nodes[n]?).elim false (·.collecting)

/-- What is attached at a place. -/
def listAt (p : Project β) : Place → List NodeId
  | .under m => (p.nodes[m]?).elim [] (·.children)
  | .inTarget t => (p.targets[t]?).elim [] (·.tasks)

theorem heading?_of_node (h : p.nodes[n]? = some d) : p.heading? n = some d.heading := by
  rw [heading?, h, Option.map_some]

theorem exists_node_of_heading? (h : p.heading? n = some d) :
    ∃ node, p.nodes[n]? = some node ∧ node.heading = d := Option.map_eq_some_iff.1 h

theorem lt_length_iff : n < p.nodes.length ↔ ∃ d, p.heading? n = some d := by
  constructor
  · intro h
    exact ⟨_, heading?_of_node (List.getElem?_eq_getElem h)⟩
  · rintro ⟨d, hd⟩
    obtain ⟨node, hnode, _⟩ := exists_node_of_heading? hd
    exact (List.getElem?_eq_some_iff.1 hnode).1

theorem lt_length_of_heading? (h : p.heading? n = some d) : n < p.nodes.length :=
  lt_length_iff.2 ⟨d, h⟩

/-! ## Projects with the same nodes in the same places -/

/-- The nodes have the same headings and are attached in the same places. -/
structure SameForest (p p' : Project β) : Prop where
  heading : ∀ k, p'.heading? k = p.heading? k
  list : ∀ place, p'.listAt place = p.listAt place
  targets : p'.targets.length = p.targets.length

theorem SameForest.refl (p : Project β) : SameForest p p := ⟨fun _ => rfl, fun _ => rfl, rfl⟩

theorem SameForest.trans (h : SameForest p p') (h' : SameForest p' p'') : SameForest p p'' :=
  ⟨fun k => (h'.heading k).trans (h.heading k), fun place => (h'.list place).trans (h.list place),
    h'.targets.trans h.targets⟩

theorem SameForest.lt_length (h : SameForest p p') : n < p'.nodes.length ↔ n < p.nodes.length := by
  rw [lt_length_iff, lt_length_iff, h.heading]

theorem SameForest.length (h : SameForest p p') : p'.nodes.length = p.nodes.length := by
  refine Nat.le_antisymm (Nat.le_of_not_lt fun hlt => ?_) (Nat.le_of_not_lt fun hlt => ?_)
  · exact Nat.lt_irrefl _ (h.lt_length.1 hlt)
  · exact Nat.lt_irrefl _ (h.lt_length.2 hlt)

/-- Nodes and targets alone decide what the views show. -/
theorem SameForest.of_eq (hnodes : p'.nodes = p.nodes) (htargets : p'.targets = p.targets) :
    SameForest p p' where
  heading k := by rw [heading?, hnodes]; rfl
  list place := by
    cases place with
    | under m => rw [listAt, hnodes]; rfl
    | inTarget t => rw [listAt, htargets]; rfl
  targets := by rw [htargets]

/-! ## Changing one node -/

theorem getElem?_modifyNode (p : Project β) (n k : NodeId) (f : Node → Node) :
    (p.modifyNode n f).nodes[k]? = if k = n then (p.nodes[k]?).map f else p.nodes[k]? := by
  show (p.nodes.modify n f)[k]? = _
  rw [List.getElem?_modify]
  by_cases hk : k = n
  · simp [hk]
  · simp [hk, Ne.symm hk]

/-- A change that shows in the heading as `g` shows in one heading. -/
theorem heading?_modifyNode {f g : Node → Node} (hf : ∀ d, (f d).heading = g d.heading)
    (p : Project β) (n k : NodeId) :
    (p.modifyNode n f).heading? k = if k = n then (p.heading? k).map g else p.heading? k := by
  rw [heading?, getElem?_modifyNode]
  by_cases hk : k = n
  · rw [if_pos hk, if_pos hk, heading?, Option.map_map, Option.map_map]
    exact congrArg (Option.map · _) (funext hf)
  · rw [if_neg hk, if_neg hk, heading?]

theorem collects_modifyNode {f : Node → Node} (hf : ∀ d, (f d).collecting = d.collecting)
    (p : Project β) (n k : NodeId) : (p.modifyNode n f).collects k = p.collects k := by
  rw [collects, getElem?_modifyNode, collects]
  by_cases hk : k = n
  · rw [if_pos hk]
    cases p.nodes[k]? with
    | none => rfl
    | some d => exact hf d
  · rw [if_neg hk]

theorem listAt_modifyNode {f : Node → Node} (hf : ∀ d, (f d).children = d.children)
    (p : Project β) (n : NodeId) (place : Place) :
    (p.modifyNode n f).listAt place = p.listAt place := by
  cases place with
  | inTarget t => rfl
  | under m =>
    rw [listAt, getElem?_modifyNode, listAt]
    by_cases hm : m = n
    · rw [if_pos hm]
      cases p.nodes[m]? with
      | none => rfl
      | some d => exact hf d
    · rw [if_neg hm]

/-- A change that touches neither headings nor children. -/
theorem sameForest_modifyNode {f : Node → Node} (hheading : ∀ d, (f d).heading = d.heading)
    (hchildren : ∀ d, (f d).children = d.children) (p : Project β) (n : NodeId) :
    SameForest p (p.modifyNode n f) where
  heading k := by
    rw [heading?_modifyNode (g := id) hheading, Option.map_id_fun, id, ite_self]
  list := listAt_modifyNode hchildren p n
  targets := rfl

/-- A child is added to a node that exists. -/
theorem listAt_addChild {m : NodeId} (hm : m < p.nodes.length) (n : NodeId) (place : Place) :
    (p.modifyNode m fun d => { d with children := d.children ++ [n] }).listAt place =
      if place = .under m then p.listAt place ++ [n] else p.listAt place := by
  cases place with
  | inTarget t => rw [if_neg nofun]; rfl
  | under k =>
    rw [listAt, getElem?_modifyNode, listAt]
    by_cases hk : k = m
    · rw [if_pos hk, if_pos (by rw [hk]), hk, List.getElem?_eq_getElem hm]
      rfl
    · rw [if_neg hk, if_neg fun h => hk (Place.under.inj h)]

/-- A task is added to a target that exists. -/
theorem listAt_addTask {t : TargetId} (ht : t < p.targets.length) (n : NodeId) (place : Place) :
    (p.modifyTarget t fun d => { d with tasks := d.tasks ++ [n] }).listAt place =
      if place = .inTarget t then p.listAt place ++ [n] else p.listAt place := by
  cases place with
  | under k => rw [if_neg nofun]; rfl
  | inTarget k =>
    show ((p.targets.modify t _)[k]?).elim [] _ = _
    rw [List.getElem?_modify, listAt]
    by_cases hk : t = k
    · rw [if_pos (by rw [hk]), ← hk, List.getElem?_eq_getElem ht]
      simp
    · rw [if_neg fun h => hk (Place.inTarget.inj h).symm]
      simp [hk]

/-! ## Operations that write into nodes -/

theorem sameForest_setAttribute (p : Project β) (n : NodeId) (name : String) (v : AttributeValue) :
    SameForest p (p.setAttribute n name v) :=
  sameForest_modifyNode (by intro; rfl) (by intro; rfl) p n

theorem sameForest_addText (p : Project β) (n : NodeId) (s : String) :
    SameForest p (p.addText n s) :=
  sameForest_modifyNode (by intro; rfl) (by intro; rfl) p n

theorem sameForest_collect (p : Project β) (n : NodeId) : SameForest p (p.collect n) :=
  sameForest_modifyNode (by intro; rfl) (by intro; rfl) p n

/-- Taking a reference changes nothing, or it writes an id into the node. -/
theorem takeReference_cases (p : Project β) (n : NodeId) :
    (p.takeReference n).1 = p ∨ ∃ k id, (p.takeReference n).1 =
      { p with assignedReferences := k }.setAttribute n "id" (.text id) := by
  unfold takeReference
  split
  · split
    · exact Or.inr ⟨_, _, rfl⟩
    · exact Or.inl rfl
  · exact Or.inr ⟨_, _, rfl⟩

theorem sameForest_takeReference (p : Project β) (n : NodeId) :
    SameForest p (p.takeReference n).1 := by
  rcases p.takeReference_cases n with h | ⟨k, id, h⟩
  · rw [h]; exact .refl p
  · rw [h]
    have hcounted : SameForest p { p with assignedReferences := k } := .of_eq rfl rfl
    exact hcounted.trans (sameForest_setAttribute _ n "id" (.text id))

theorem collects_setAttribute (p : Project β) (n : NodeId) (name : String) (v : AttributeValue)
    (k : NodeId) : (p.setAttribute n name v).collects k = p.collects k :=
  collects_modifyNode (by intro; rfl) p n k

theorem collects_takeReference (p : Project β) (n k : NodeId) :
    (p.takeReference n).1.collects k = p.collects k := by
  rcases p.takeReference_cases n with h | ⟨r, id, h⟩
  · rw [h]
  · rw [h, collects_setAttribute]
    rfl

theorem collects_collect (p : Project β) (n k : NodeId) :
    (p.collect n).collects k = if k = n then decide (k < p.nodes.length) else p.collects k := by
  rw [collects, collect, getElem?_modifyNode]
  by_cases hk : k = n
  · rw [if_pos hk, if_pos hk]
    cases h : p.nodes[k]? with
    | none => simpa using h
    | some d => simpa using List.getElem?_eq_some_iff.1 h |>.1
  · rw [if_neg hk, if_neg hk]
    rfl

/-! ## New nodes -/

/-- A node more, to which nothing is attached. -/
theorem heading?_append (p p' : Project β) (node : Node) (hnodes : p'.nodes = p.nodes ++ [node])
    (k : NodeId) : p'.heading? k = if k = p.nodes.length then some node.heading else p.heading? k := by
  rw [heading?, hnodes, heading?]
  by_cases hk : k = p.nodes.length
  · rw [if_pos hk, hk, List.getElem?_concat_length]
    rfl
  · rw [if_neg hk]
    rcases Nat.lt_or_gt_of_ne hk with h | h
    · rw [List.getElem?_append_left h]
    · rw [List.getElem?_eq_none (by simp; omega), List.getElem?_eq_none (by omega)]

/-- A list has one element more, which holds nothing. -/
theorem elim_getElem?_append {α γ : Type} {xs : List α} {x : α} {f : α → γ} {e : γ} (hx : f x = e)
    (k : Nat) : ((xs ++ [x])[k]?).elim e f = (xs[k]?).elim e f := by
  rcases Nat.lt_trichotomy k xs.length with h | h | h
  · rw [List.getElem?_append_left h]
  · rw [h, List.getElem?_concat_length, List.getElem?_eq_none (Nat.le_refl _)]
    exact hx
  · rw [List.getElem?_eq_none (by simp; omega), List.getElem?_eq_none (by omega)]

/-- The heading of a node that is built under another one. -/
def newHeading (above : Node) (parent : NodeId) (typeId tag : String) (alone : Bool) : Node :=
  { typeId, tag, target := above.target, outermost := alone,
    parent := if alone then none else some parent }

theorem addNode_of_node {parent : NodeId} {above : Node} (h : p.nodes[parent]? = some above)
    (typeId tag : String) (outermost : Bool) : p.addNode parent typeId tag outermost =
      ({ p with nodes := p.nodes ++
          [newHeading above parent typeId tag (outermost && !above.collecting)] },
        p.nodes.length) := by
  rw [addNode, h]
  rfl

/-- **Building a node** under one that exists adds a node that belongs to the same target. It has no
parent only if it is to run on its own and is not collected. -/
theorem heading?_addNode {parent : NodeId} {above : Node} (h : p.heading? parent = some above)
    (typeId tag : String) (outermost : Bool) (k : NodeId) :
    (p.addNode parent typeId tag outermost).1.heading? k =
      if k = p.nodes.length then
        some (newHeading above parent typeId tag (outermost && !p.collects parent))
      else p.heading? k := by
  obtain ⟨node, hnode, rfl⟩ := exists_node_of_heading? h
  have hcollects : p.collects parent = node.collecting := by rw [collects, hnode]; rfl
  rw [addNode_of_node hnode, heading?_append p _ _ rfl, hcollects]
  rfl

theorem addNode_snd (p : Project β) (parent : NodeId) (typeId tag : String) (outermost : Bool) :
    (p.addNode parent typeId tag outermost).2 = p.nodes.length := by
  unfold addNode
  split <;> rfl

theorem listAt_addNode (p : Project β) (parent : NodeId) (typeId tag : String) (outermost : Bool)
    (place : Place) : (p.addNode parent typeId tag outermost).1.listAt place = p.listAt place := by
  unfold addNode
  split
  · rfl
  · cases place with
    | under m => exact elim_getElem?_append (f := Node.children) rfl m
    | inTarget t => rfl

theorem collects_addNode (p : Project β) (parent : NodeId) (typeId tag : String) (outermost : Bool)
    (k : NodeId) : (p.addNode parent typeId tag outermost).1.collects k = p.collects k := by
  unfold addNode
  split
  · rfl
  · exact elim_getElem?_append (f := Node.collecting) rfl k

theorem listAt_declare (p : Project β) (name : String) (depends : List String) (body : Option β)
    (place : Place) : (p.declare name depends body).1.listAt place = p.listAt place := by
  cases place with
  | under m => exact elim_getElem?_append (f := Node.children) rfl m
  | inTarget t => exact elim_getElem?_append (f := Target.tasks) rfl t

theorem collects_declare (p : Project β) (name : String) (depends : List String) (body : Option β)
    (k : NodeId) : (p.declare name depends body).1.collects k = p.collects k :=
  elim_getElem?_append (f := Node.collecting) rfl k

/-- The heading of the node of a target. -/
def targetHeading (t : TargetId) : Node := { typeId := "target", tag := "target", target := t }

theorem heading?_declare (p : Project β) (name : String) (depends : List String) (body : Option β)
    (k : NodeId) : (p.declare name depends body).1.heading? k =
      if k = p.nodes.length then some (targetHeading p.targets.length) else p.heading? k :=
  heading?_append p _ (targetHeading p.targets.length) rfl k

/-! ## Attaching nodes -/

/-- A node with another list is the same in its heading. -/
theorem heading?_addChild (p : Project β) (m n k : NodeId) :
    (p.modifyNode m fun d => { d with children := d.children ++ [n] }).heading? k = p.heading? k := by
  have h := heading?_modifyNode (f := fun d => { d with children := d.children ++ [n] }) (g := id)
    (fun _ => rfl) p m k
  rwa [Option.map_id_fun, id, ite_self] at h

theorem configure_of_configured (h : p.heading? n = some d) (hd : d.configured = true) :
    p.configure n = p := by
  obtain ⟨node, hnode, rfl⟩ := exists_node_of_heading? h
  rw [configure, hnode]
  exact if_pos hd

/-- Configuring a node marks it. -/
theorem heading?_configure (h : p.heading? n = some d) (k : NodeId) :
    (p.configure n).heading? k =
      if k = n then some { d with configured := true } else p.heading? k := by
  cases hd : d.configured with
  | true =>
    rw [configure_of_configured h hd]
    by_cases hk : k = n
    · rw [if_pos hk, hk, h, ← hd]
    · rw [if_neg hk]
  | false =>
    obtain ⟨node, hnode, rfl⟩ := exists_node_of_heading? h
    have hmark : ∀ k, (p.modifyNode n ({ · with configured := true })).heading? k =
        if k = n then some { node.heading with configured := true } else p.heading? k := by
      intro k
      rw [heading?_modifyNode (g := ({ · with configured := true })) (fun _ => rfl)]
      by_cases hk : k = n
      · rw [if_pos hk, if_pos hk, hk, h]
        rfl
      · rw [if_neg hk, if_neg hk]
    have hnew : ¬ node.configured = true := by
      have hfalse : node.configured = false := hd
      rw [hfalse]
      exact Bool.false_ne_true
    rw [configure, hnode, ← hmark]
    dsimp only
    rw [if_neg hnew]
    cases node.parent with
    | some m => exact heading?_addChild _ m n k
    | none => rfl

/-- **Configuring a node attaches it at its place**, the first time. -/
theorem listAt_configure (h : p.heading? n = some d)
    (hparent : ∀ m, d.parent = some m → m < p.nodes.length) (htarget : d.target < p.targets.length)
    (place : Place) : (p.configure n).listAt place =
      if d.configured = false ∧ place = d.place then p.listAt place ++ [n] else p.listAt place := by
  cases hd : d.configured with
  | true => rw [configure_of_configured h hd, if_neg (by simp)]
  | false =>
    obtain ⟨node, hnode, rfl⟩ := exists_node_of_heading? h
    have hmark := listAt_modifyNode (f := ({ · with configured := true })) (fun _ => rfl) p n
    have hnew : ¬ node.configured = true := by
      have hfalse : node.configured = false := hd
      rw [hfalse]
      exact Bool.false_ne_true
    rw [configure, hnode]
    dsimp only
    rw [if_neg hnew]
    cases hp : node.parent with
    | some m =>
      have hm : m < (p.modifyNode n ({ · with configured := true })).nodes.length := by
        show m < (p.nodes.modify n _).length
        rw [List.length_modify]
        exact hparent m hp
      have hplace : node.heading.place = .under m := by
        show (match node.parent with | some m => Place.under m | none => _) = _
        rw [hp]
      rw [hplace]
      dsimp only
      rw [listAt_addChild hm, hmark]
      simp
    | none =>
      have hplace : node.heading.place = .inTarget node.target := by
        show (match node.parent with | some m => Place.under m | none => .inTarget node.target) = _
        rw [hp]
      rw [hplace]
      dsimp only
      rw [listAt_addTask (t := node.target) (by exact htarget), hmark]
      simp

theorem collects_configure (p : Project β) (n k : NodeId) :
    (p.configure n).collects k = p.collects k := by
  unfold configure
  split
  · rfl
  · split
    · rfl
    · dsimp only
      split
      · exact (collects_modifyNode (by intro; rfl) _ _ k).trans
          (collects_modifyNode (by intro; rfl) p n k)
      · exact collects_modifyNode (f := ({ · with configured := true })) (fun _ => rfl) p n k

end Project

end TaskBuilders.Script
