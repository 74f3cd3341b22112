import TaskBuilders.Proofs.Dict.Lookup
import TaskBuilders.Proofs.Naming.FreeName
import TaskBuilders.Proofs.Script.Placement

/-!
# Ids of references

A reference goes by the id of its node. A node that has been given none gets one, which is made of the
number of ids that the project has assigned. So an assigned id differs from all that were assigned before it
and from all that nodes were given, save one that was given the very text that the project comes to.

* `Project.takeReference_of_given`, `Project.takeReference_of_none` — what a reference does
* `NodeAct.givenId?_run` — a node keeps its id until another one is set
* `Accounted` — where the ids of nodes and references come from
* `reference_ids` — which ids an assigned one differs from, and that it stays
* `assigned_id_meets_given_id` — an assigned id that another node was given before
-/

namespace TaskBuilders.Script

open Text

variable {β : Type}

/-- The id that a value gives to its node: a text that is not empty. -/
def AttributeValue.givenId? : AttributeValue → Option String
  | .text id => if id = "" then none else some id
  | _ => none

theorem AttributeValue.eq_text_of_givenId? {v : AttributeValue} {id : String}
    (h : v.givenId? = some id) : v = .text id := by
  unfold givenId? at h
  split at h
  · split at h
    · cases h
    · rw [Option.some.inj h]
  · cases h

namespace Project

variable {p : Project β} {m n : NodeId} {id name : String} {v : AttributeValue}

/-! ## Attributes of nodes -/

theorem attribute?_eq (p : Project β) (n : NodeId) (name : String) :
    p.attribute? n name = (p.nodes[n]?).elim none (·.attributes.get? (lowercase name)) := by
  unfold attribute?
  cases p.nodes[n]? <;> rfl

theorem attribute?_addNode (p : Project β) (parent : NodeId) (typeId tag : String) (outermost : Bool)
    (n : NodeId) (name : String) :
    (p.addNode parent typeId tag outermost).1.attribute? n name = p.attribute? n name := by
  rw [attribute?_eq, attribute?_eq]
  unfold addNode
  split
  · rfl
  · exact elim_getElem?_append (f := fun d : Node => d.attributes.get? (lowercase name)) rfl n

theorem attribute?_declare (p : Project β) (target : String) (depends : List String) (body : Option β)
    (n : NodeId) (name : String) :
    (p.declare target depends body).1.attribute? n name = p.attribute? n name := by
  rw [attribute?_eq, attribute?_eq]
  exact elim_getElem?_append (f := fun d : Node => d.attributes.get? (lowercase name)) rfl n

theorem attribute?_setAttribute_self (hn : n < p.nodes.length) (name : String) (v : AttributeValue) :
    (p.setAttribute n name v).attribute? n name = some v := by
  rw [attribute?, setAttribute, getElem?_modifyNode, if_pos rfl, List.getElem?_eq_getElem hn,
    Option.map_some, Option.bind_some, Dict.get?_insert_self]

theorem attribute?_setAttribute_of_ne {name' : String}
    (h : n ≠ m ∨ lowercase name' ≠ lowercase name) :
    (p.setAttribute m name v).attribute? n name' = p.attribute? n name' := by
  rw [attribute?, setAttribute, getElem?_modifyNode, attribute?]
  by_cases hn : n = m
  · rw [if_pos hn]
    cases p.nodes[n]? with
    | none => rfl
    | some d => exact Dict.get?_insert_of_ne _ v (h.resolve_left (absurd hn))
  · rw [if_neg hn]

/-! ## Ids that nodes were given -/

/-- The id that a node goes by. -/
def givenId? (p : Project β) (n : NodeId) : Option String :=
  (p.attribute? n "id").bind AttributeValue.givenId?

theorem lowercase_id : lowercase "id" = "id" := by decide

theorem givenId?_setAttribute_of_ne (h : n ≠ m ∨ lowercase name ≠ "id") :
    (p.setAttribute m name v).givenId? n = p.givenId? n := by
  rw [givenId?, attribute?_setAttribute_of_ne, givenId?]
  rw [lowercase_id]
  exact h.imp_right Ne.symm

theorem givenId?_setAttribute_self (hn : n < p.nodes.length) (hid : id ≠ "") :
    (p.setAttribute n "id" (.text id)).givenId? n = some id := by
  rw [givenId?, attribute?_setAttribute_self hn, Option.bind_some, AttributeValue.givenId?, if_neg hid]

/-- An id that a node has after an attribute was set is the value, or it had it before. -/
theorem givenId?_setAttribute_cases (h : (p.setAttribute m name v).givenId? n = some id) :
    p.givenId? n = some id ∨ n = m ∧ lowercase name = "id" ∧ v = .text id := by
  by_cases hself : n = m ∧ lowercase name = "id"
  · obtain ⟨rfl, hname⟩ := hself
    obtain ⟨v', hv', hid⟩ := Option.bind_eq_some_iff.1 h
    rw [attribute?, setAttribute, getElem?_modifyNode, if_pos rfl] at hv'
    cases hd : p.nodes[n]? with
    | none => rw [hd] at hv'; cases hv'
    | some d =>
      rw [hd, Option.map_some, Option.bind_some, hname, lowercase_id, Dict.get?_insert_self] at hv'
      obtain rfl := Option.some.inj hv'
      exact Or.inr ⟨rfl, hname, AttributeValue.eq_text_of_givenId? hid⟩
  · rw [givenId?_setAttribute_of_ne (Classical.not_and_iff_not_or_not.1 hself)] at h
    exact Or.inl h

/-! ## Taking a reference -/

/-- The id that is assigned as the `k`-th. -/
def numberedId (k : Nat) : String := "ref" ++ toString k

theorem numberedId_ne_empty (k : Nat) : numberedId k ≠ "" := by
  intro h
  exact absurd (String.append_eq_empty_iff.1 h).1 (by decide)

/-- The project after it has assigned one more id, to a node. -/
def assignId (p : Project β) (n : NodeId) : Project β :=
  { p with assignedReferences := p.assignedReferences + 1 }.setAttribute n "id"
    (.text (numberedId (p.assignedReferences + 1)))

/-- **A reference goes by the id that its node was given.** -/
theorem takeReference_of_given (h : p.givenId? n = some id) : p.takeReference n = (p, id) := by
  obtain ⟨v, hv, hid⟩ := Option.bind_eq_some_iff.1 h
  obtain rfl := AttributeValue.eq_text_of_givenId? hid
  have hne : id ≠ "" := by
    rintro rfl
    cases hid
  unfold takeReference
  simp only [hv, if_neg hne]

/-- **A node without an id gets the next one.** -/
theorem takeReference_of_none (h : p.givenId? n = none) :
    p.takeReference n = (p.assignId n, numberedId (p.assignedReferences + 1)) := by
  unfold takeReference
  split
  · next id hid =>
    rw [givenId?, hid, Option.bind_some, AttributeValue.givenId?] at h
    split at h
    · next hempty => rw [if_pos hempty]; rfl
    · cases h
  · rfl

theorem givenId?_takeReference_self (hn : n < p.nodes.length) :
    (p.takeReference n).1.givenId? n = some (p.takeReference n).2 := by
  cases h : p.givenId? n with
  | some id => rw [takeReference_of_given h, h]
  | none =>
    rw [takeReference_of_none h]
    exact givenId?_setAttribute_self (p := { p with assignedReferences := _ }) hn
      (numberedId_ne_empty _)

end Project

open Project

/-! ## What a script does -/

/-- What a script does to the nodes of its project and to the ids of references. -/
inductive NodeAct (β : Type) where
  | build (parent : NodeId) (typeId tag : String) (outermost : Bool)
  | declare (name : String) (depends : List String) (body : Option β)
  | set (n : NodeId) (name : String) (v : AttributeValue)
  | refer (n : NodeId)

/-- A reference that was taken. -/
structure Taken where
  node : NodeId
  id : String
  /-- The node had been given no id, and the project assigned one. -/
  assigned : Bool
deriving Repr, DecidableEq

/-- The reference that a project takes to a node. -/
def Project.reference (p : Project β) (n : NodeId) : Taken :=
  ⟨n, (p.takeReference n).2, (p.givenId? n).isNone⟩

namespace NodeAct

/-- The project after an act. -/
def run (p : Project β) : NodeAct β → Project β
  | build parent typeId tag outermost => (p.addNode parent typeId tag outermost).1
  | declare name depends body => (p.declare name depends body).1
  | set n name v => p.setAttribute n name v
  | refer n => (p.takeReference n).1

/-- The reference that an act takes. -/
def taken? (p : Project β) : NodeAct β → Option Taken
  | refer n => some (p.reference n)
  | _ => none

/-- The act sets another id of the node. -/
def SetsIdOf (n : NodeId) : NodeAct β → Prop
  | set m name _ => m = n ∧ lowercase name = "id"
  | _ => False

/-- **A node keeps its id until another one is set.** -/
theorem givenId?_run {p : Project β} {n : NodeId} {id : String} (h : p.givenId? n = some id)
    {a : NodeAct β} (ha : ¬ a.SetsIdOf n) : (a.run p).givenId? n = some id := by
  cases a with
  | build parent typeId tag outermost =>
    rw [run, givenId?, attribute?_addNode]
    exact h
  | declare name depends body =>
    rw [run, givenId?, attribute?_declare]
    exact h
  | set m name v =>
    rw [run, givenId?_setAttribute_of_ne, h]
    exact (Classical.not_and_iff_not_or_not.1 ha).imp_left Ne.symm
  | refer m =>
    rw [run]
    cases hm : p.givenId? m with
    | some id' => rwa [takeReference_of_given hm]
    | none =>
      have hne : n ≠ m := by
        rintro rfl
        rw [h] at hm
        cases hm
      rw [takeReference_of_none hm, assignId, givenId?_setAttribute_of_ne (Or.inl hne)]
      exact h

end NodeAct

namespace Project

/-- The project after acts in their order. -/
def acted (p : Project β) (acts : List (NodeAct β)) : Project β := acts.foldl NodeAct.run p

/-- The references that acts take, in their order. -/
def references (p : Project β) : List (NodeAct β) → List Taken
  | [] => []
  | a :: acts => (a.taken? p).toList ++ (a.run p).references acts

theorem givenId?_acted {p : Project β} {n : NodeId} {id : String} (h : p.givenId? n = some id)
    {acts : List (NodeAct β)} (hacts : ∀ a ∈ acts, ¬ a.SetsIdOf n) :
    (p.acted acts).givenId? n = some id := by
  induction acts generalizing p with
  | nil => exact h
  | cons a acts ih =>
    obtain ⟨ha, hacts⟩ := List.forall_mem_cons.1 hacts
    exact ih (NodeAct.givenId?_run h ha) hacts

end Project

/-! ## Where ids come from -/

/-- One of the acts sets the id of a node to a text. -/
def SetsId (acts : List (NodeAct β)) (n : NodeId) (id : String) : Prop :=
  ∃ name, .set n name (.text id) ∈ acts ∧ lowercase name = "id"

theorem SetsId.append {acts : List (NodeAct β)} {n : NodeId} {id : String} (h : SetsId acts n id)
    (later : List (NodeAct β)) : SetsId (acts ++ later) n id := by
  obtain ⟨name, hmem, hname⟩ := h
  exact ⟨name, List.mem_append_left _ hmem, hname⟩

/-- A project counts the ids that it has assigned. What nodes and references go by was set, or it is one of
those. -/
structure Accounted (acts : List (NodeAct β)) (taken : List Taken) (p : Project β) : Prop where
  count : p.assignedReferences = taken.countP (·.assigned)
  given : ∀ n id, p.givenId? n = some id →
    SetsId acts n id ∨ ∃ k ≤ p.assignedReferences, id = numberedId k
  taken : ∀ r ∈ taken, r.assigned = false ∧ SetsId acts r.node r.id ∨
    ∃ k ≤ p.assignedReferences, r.id = numberedId k

namespace Accounted

variable {acts : List (NodeAct β)} {taken : List Taken} {p : Project β}

theorem new (name : String) : Accounted (β := β) [] [] (Project.new name) where
  count := rfl
  given n id h := by
    -- the nodes of the project and of the unnamed target have no attributes
    obtain ⟨v, hv, _⟩ := Option.bind_eq_some_iff.1 h
    obtain ⟨d, hd, hattribute⟩ := Option.bind_eq_some_iff.1 hv
    have hempty : ∀ d ∈ (Project.new (β := β) name).nodes, d.attributes = ∅ := by
      rintro d (_ | ⟨_, _ | ⟨_, hnil⟩⟩)
      · rfl
      · rfl
      · cases hnil
    rw [hempty d (List.mem_of_getElem? hd), Dict.get?_empty] at hattribute
    cases hattribute
  taken := nofun

/-- Acts that leave the ids alone. -/
theorem same (h : Accounted acts taken p) (a : NodeAct β) {p' : Project β}
    (hcount : p'.assignedReferences = p.assignedReferences)
    (hgiven : ∀ n id, p'.givenId? n = some id → p.givenId? n = some id ∨ SetsId [a] n id) :
    Accounted (acts ++ [a]) taken p' where
  count := hcount.trans h.count
  given n id hid := by
    rw [hcount]
    rcases hgiven n id hid with hbefore | ⟨name, hmem, hname⟩
    · exact (h.given n id hbefore).imp_left (·.append _)
    · exact Or.inl ⟨name, List.mem_append_right _ hmem, hname⟩
  taken r hr := by
    rw [hcount]
    exact (h.taken r hr).imp_left (And.imp_right (·.append _))

theorem refer (h : Accounted acts taken p) (n : NodeId) :
    Accounted (acts ++ [.refer n]) (taken ++ [p.reference n]) (p.takeReference n).1 := by
  cases hn : p.givenId? n with
  | some id =>
    have href : p.reference n = ⟨n, id, false⟩ := by
      rw [Project.reference, takeReference_of_given hn, hn]
      rfl
    have hsame : Accounted (acts ++ [.refer n]) taken p :=
      h.same (.refer n) rfl fun _ _ hid => Or.inl hid
    rw [takeReference_of_given hn, href]
    refine ⟨?_, hsame.given, fun r hr => ?_⟩
    · rw [List.countP_append, ← h.count]
      rfl
    · rcases List.mem_append.1 hr with hr | hr
      · exact hsame.taken r hr
      · obtain rfl := List.mem_singleton.1 hr
        exact (hsame.given n id hn).imp_left fun hset => ⟨rfl, hset⟩
  | none =>
    have href : p.reference n = ⟨n, numberedId (p.assignedReferences + 1), true⟩ := by
      rw [Project.reference, takeReference_of_none hn, hn]
      rfl
    have hcount : (p.assignId n).assignedReferences = p.assignedReferences + 1 := rfl
    rw [takeReference_of_none hn, href]
    refine ⟨?_, fun m id hid => ?_, fun r hr => ?_⟩
    · rw [hcount, List.countP_append, ← h.count]
      rfl
    · rw [hcount]
      rcases givenId?_setAttribute_cases hid with hbefore | ⟨_, _, hv⟩
      · rcases h.given m id hbefore with hset | ⟨k, hk, hid⟩
        · exact Or.inl (hset.append _)
        · exact Or.inr ⟨k, Nat.le_succ_of_le hk, hid⟩
      · exact Or.inr ⟨_, Nat.le_refl _, (AttributeValue.text.inj hv).symm⟩
    · rw [hcount]
      rcases List.mem_append.1 hr with hr | hr
      · rcases h.taken r hr with ⟨hfound, hset⟩ | ⟨k, hk, hid⟩
        · exact Or.inl ⟨hfound, hset.append _⟩
        · exact Or.inr ⟨k, Nat.le_succ_of_le hk, hid⟩
      · obtain rfl := List.mem_singleton.1 hr
        exact Or.inr ⟨_, Nat.le_refl _, rfl⟩

/-- **Every act keeps the account.** -/
theorem run (h : Accounted acts taken p) (a : NodeAct β) :
    Accounted (acts ++ [a]) (taken ++ (a.taken? p).toList) (a.run p) := by
  cases a with
  | build parent typeId tag outermost =>
    refine (List.append_nil taken).symm ▸ h.same _ ?_ fun n id hid => Or.inl ?_
    · show (p.addNode parent typeId tag outermost).1.assignedReferences = _
      unfold addNode
      split <;> rfl
    · rwa [NodeAct.run, givenId?, attribute?_addNode] at hid
  | declare name depends body =>
    refine (List.append_nil taken).symm ▸ h.same _ rfl fun n id hid => Or.inl ?_
    rwa [NodeAct.run, givenId?, attribute?_declare] at hid
  | set m name v =>
    refine (List.append_nil taken).symm ▸ h.same _ rfl fun n id hid => ?_
    refine (givenId?_setAttribute_cases hid).imp_right ?_
    rintro ⟨rfl, hname, rfl⟩
    exact ⟨name, List.mem_singleton_self _, hname⟩
  | refer n => exact h.refer n

theorem acted (h : Accounted acts taken p) (later : List (NodeAct β)) :
    Accounted (acts ++ later) (taken ++ p.references later) (p.acted later) := by
  induction later generalizing acts taken p with
  | nil => rwa [references, List.append_nil, List.append_nil]
  | cons a later ih =>
    have hrest := ih (h.run a)
    rwa [List.append_assoc, List.append_assoc] at hrest

end Accounted

/-- **Ids of references.** An assigned id is numbered by the ids that were assigned before it. It differs from
the id of every reference that was taken already, unless that node's id had been set to the very text. A
reference to a node goes by the same id as long as no other one is set, and taking it again changes
nothing. -/
theorem reference_ids (name : String) (acts : List (NodeAct β)) (n : NodeId) :
    let p := (Project.new name).acted acts
    let taken := (Project.new (β := β) name).references acts
    ((p.reference n).assigned = true →
      (p.reference n).id = numberedId (taken.countP (·.assigned) + 1) ∧
      ∀ r ∈ taken, r.id = (p.reference n).id → r.assigned = false ∧ SetsId acts r.node r.id) ∧
    (n < p.nodes.length → ∀ later : List (NodeAct β), (∀ a ∈ later, ¬ a.SetsIdOf n) →
      let p' := (p.takeReference n).1.acted later
      p'.takeReference n = (p', (p.reference n).id)) := by
  intro p taken
  have hp : Accounted acts taken p := (Accounted.new name).acted acts
  refine ⟨fun hassigned => ?_, fun hn later hlater => ?_⟩
  · have hnone : p.givenId? n = none := Option.isNone_iff_eq_none.1 hassigned
    have hid : (p.reference n).id = numberedId (p.assignedReferences + 1) := by
      rw [Project.reference, takeReference_of_none hnone]
    rw [hid, ← hp.count]
    refine ⟨rfl, fun r hr hmeets => ?_⟩
    refine (hp.taken r hr).resolve_right ?_
    rintro ⟨k, hk, hr⟩
    -- numbers that were assigned before are smaller
    have hnumber := Naming.append_toString_inj.1 (hr.symm.trans hmeets)
    omega
  · exact takeReference_of_given (givenId?_acted (givenId?_takeReference_self hn) hlater)

/-- **A node that was given the text of the next id**: another node is assigned the same. -/
theorem assigned_id_meets_given_id :
    let acts : List (NodeAct Unit) := [.build 0 "path" "path" true, .build 0 "path" "path" true,
      .set 2 "id" (.text "ref1"), .refer 2]
    let p := (Project.new "demo").acted acts
    let taken := (Project.new "demo").references acts
    taken = [⟨2, "ref1", false⟩] ∧ p.reference 3 = ⟨3, "ref1", true⟩ ∧
    ¬ ∀ r ∈ taken, r.node ≠ 3 → r.id ≠ (p.reference 3).id := by
  intro acts p taken
  have htaken : taken = [⟨2, "ref1", false⟩] := by decide +kernel
  have hreference : p.reference 3 = ⟨3, "ref1", true⟩ := by decide +kernel
  refine ⟨htaken, hreference, fun h => ?_⟩
  rw [htaken, hreference] at h
  exact h _ (List.mem_singleton_self _) (by decide) rfl

end TaskBuilders.Script
