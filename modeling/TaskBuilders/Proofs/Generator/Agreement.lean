import Mathlib.Data.List.Nodup
import TaskBuilders.Proofs.Generator.Request
import TaskBuilders.Proofs.Generator.Written
import TaskBuilders.Proofs.Naming.FreeName

/-!
# Library and source agree

Two tables keep builders apart: the library has one builder for a tag on a class, whatever the case
of the tag, and the table of functions has the name of each function once. They are kept in step
with each other and with what is written.

* `Registered` — everything that can host builders is a class of the library
* `Agrees` — the builder under a class and a key stands for the two forms that were written there
* `library_agrees_with_source` — both hold after every sequence of requests
-/

namespace TaskBuilders.Generator

open Naming Source Text

/-! ## Hosts are classes -/

/-- Everything that can host builders is a class of the library. -/
structure Registered (g : Generator) : Prop where
  root : g.library.resolves g.rootContainer = true
  owner : ∀ id t, g.resolved.get? id = some t → g.library.resolves t.className = true
  container : ∀ c ∈ g.containersDone, ∃ name, g.containerNames.get? c = some name ∧
    g.library.resolves name = true

theorem Registered.hosts {g : Generator} (h : Registered g) {parent : Parent}
    (hp : g.Hosts parent) : g.library.resolves parent.type = true := by
  cases hp with
  | root => exact h.root
  | owner _ ht => exact h.owner _ _ ht
  | container hdone hname =>
    obtain ⟨name, hname', hresolves⟩ := h.container _ hdone
    obtain rfl := Option.some.inj (hname.symm.trans hname')
    exact hresolves

/-- A larger library hosts what the smaller one hosts, as long as the table of types, the containers
and the runtime stay. -/
theorem Registered.of_covers {g g' : Generator} (h : Registered g)
    (hcovers : g.library.Covers g'.library) (hemitter : g'.emitter = g.emitter)
    (hresolved : g'.resolved = g.resolved) (hdone : g'.containersDone = g.containersDone)
    (hnames : ∀ c name, g.containerNames.get? c = some name →
      g'.containerNames.get? c = some name) : Registered g' where
  root := by
    rw [rootContainer, hemitter]
    exact hcovers _ h.root
  owner := by
    rw [hresolved]
    exact fun id t ht => hcovers _ (h.owner id t ht)
  container := by
    rw [hdone]
    intro c hc
    obtain ⟨name, hname, hresolves⟩ := h.container c hc
    exact ⟨name, hnames c name hname, hcovers name hresolves⟩

theorem Registered.insert {g g' : Generator} (h : Registered g) {id : String} {t : Target}
    (hcovers : g.library.Covers g'.library) (hemitter : g'.emitter = g.emitter)
    (hresolved : g'.resolved = g.resolved.insert id t)
    (hclass : g'.library.resolves t.className = true)
    (hdone : g'.containersDone = g.containersDone)
    (hnames : g'.containerNames = g.containerNames) : Registered g' where
  root := by
    rw [rootContainer, hemitter]
    exact hcovers _ h.root
  owner := by
    intro i u hu
    rw [hresolved] at hu
    rcases Dict.get?_insert_cases hu with ⟨rfl, rfl⟩ | hu
    · exact hclass
    · exact hcovers _ (h.owner i u hu)
  container := by
    rw [hdone, hnames]
    intro c hc
    obtain ⟨name, hname, hresolves⟩ := h.container c hc
    exact ⟨name, hname, hcovers name hresolves⟩

theorem covers_refl (s : Structure) : s.Covers s := fun _ h => h

theorem Registered.enterTarget {g : Generator} (h : Registered g) (d : TaskDefinition)
    (name : String) (containers : List String) :
    Registered (g.enterTarget d name containers).2 :=
  h.insert (g.library.covers_register _) rfl rfl (g.library.resolves_register _) rfl rfl

/-- Every move keeps the hosts of builders in the library. -/
theorem Registered.move {g g' : Generator} (h : Registered g) (hm : Move g g') :
    Registered g' := by
  cases hm with
  | note memory log => exact h.of_covers (covers_refl _) rfl rfl rfl fun _ _ hc => hc
  | miss memory log _ => exact h.of_covers (covers_refl _) rfl rfl rfl fun _ _ hc => hc
  | nameContainer id =>
    have hs := sameBeyondNames_containerName g id
    refine h.of_covers ?_ hs.emitter hs.resolved hs.containersDone
      fun _ _ hc => get?_containerName_of_some id hc
    rw [hs.library]
    exact covers_refl _
  | @openContainer id name _ _ hnamed =>
    have hcovers := g.library.covers_register { name, capability := id }
    refine ⟨hcovers _ h.root, fun i t ht => hcovers _ (h.owner i t ht), fun c hc => ?_⟩
    rcases List.mem_cons.1 hc with rfl | hc
    · exact ⟨name, hnamed, g.library.resolves_register _⟩
    · obtain ⟨name', hname', hresolves⟩ := h.container c hc
      exact ⟨name', hname', hcovers _ hresolves⟩
  | @openTarget d hnew _ =>
    have hs := sameBeyondNames_nameTarget g d
    have hnamed : Registered (g.nameTarget d).2.2 :=
      h.of_covers (hs.library ▸ covers_refl _) hs.emitter hs.resolved hs.containersDone
        (extends_nameTarget g d).containerNames
    rw [openTarget_eq]
    exact hnamed.enterTarget d _ _
  | @define id t d hresolved _ _ =>
    exact h.insert (covers_refl _) rfl rfl (h.owner id t hresolved :) rfl rfl
  | @place id t hresolved =>
    exact h.insert (covers_refl _) rfl rfl (h.owner id t hresolved :) rfl rfl
  | @build path parent tag id t d hfile hhosts hresolved hdefined hnew hfree =>
    have hs := sameBeyondBuilders_build g path parent tag d t.className
    have hcovers := (declare_of_new (g := g.writeForms path (g.immediate parent tag d t.className))
      (h.hosts hhosts) hnew (d.descriptors t.className g.framework) t.className).2.1
    exact h.of_covers hcovers hs.emitter hs.resolved hs.containersDone
      fun _ _ hc => hs.containerNames ▸ hc

/-! ## Builders stand for what was written -/

/-- The class and the key under which the library keeps a builder. -/
def slot (d : BuilderDecl) : String × String := (d.parent.type, lowercase d.tag)

/-- What was written for a class and a key. -/
def declsAt (g : Generator) (name key : String) : List BuilderDecl :=
  g.decls.filter fun d => slot d = (name, key)

@[simp] theorem slot_toDeferred (b : BuilderDecl) : slot b.toDeferred = slot b := rfl

/-- Both forms of a builder are kept in one place. -/
theorem filter_slot_forms (b : BuilderDecl) (name key : String) (ds : List BuilderDecl) :
    ((b.toDeferred :: b :: ds).filter fun d => slot d = (name, key)) =
      (if slot b = (name, key) then [b.toDeferred, b] else [])
        ++ ds.filter fun d => slot d = (name, key) := by
  by_cases h : slot b = (name, key)
  · simp [h]
  · simp [h]

/-- Nothing was written for no builder, and both forms for a builder. -/
inductive Realises : Option BuilderFunction → List BuilderDecl → Prop where
  | absent : Realises none []
  | present {f : BuilderFunction} {b : BuilderDecl} {ds : List BuilderDecl}
      (immediate : b.form = .immediate) (name : b.name = f.builder)
      (element : b.element = f.initReceiver) (forms : ds.Perm [b.toDeferred, b]) :
      Realises (some f) ds

theorem Realises.perm {f : Option BuilderFunction} {ds ds' : List BuilderDecl}
    (h : Realises f ds) (hp : ds'.Perm ds) : Realises f ds' := by
  cases h with
  | absent => rw [hp.eq_nil]; exact .absent
  | present immediate name element forms => exact .present immediate name element (hp.trans forms)

theorem Realises.eq_nil {ds : List BuilderDecl} (h : Realises none ds) : ds = [] := by
  cases h
  rfl

/-- The library, the table of functions and the source agree. -/
structure Agrees (g : Generator) : Prop where
  errors : g.errors = []
  functions : g.functions.Perm (g.decls.map functionKey)
  distinct : g.functions.Nodup
  slots : ∀ name key, Realises (g.library.functionAt? name key) (g.declsAt name key)

theorem Agrees.of_same {g g' : Generator} (h : Agrees g) (hdecls : g'.decls.Perm g.decls)
    (hfunctions : g'.functions = g.functions) (herrors : g'.errors = g.errors)
    (hat : ∀ name key, g'.library.functionAt? name key = g.library.functionAt? name key) :
    Agrees g' where
  errors := herrors.trans h.errors
  functions := by
    rw [hfunctions]
    exact h.functions.trans (hdecls.map _).symm
  distinct := hfunctions ▸ h.distinct
  slots := by
    intro name key
    rw [hat]
    exact (h.slots name key).perm (hdecls.filter _)

/-- The two forms of a builder have different names. -/
theorem functionKey_toDeferred_ne {b : BuilderDecl} (h : b.form = .immediate) :
    functionKey b.toDeferred ≠ functionKey b := by
  intro he
  have hkey : functionKey b = functionKey b.toDeferred ++ "With" := by
    unfold functionKey BuilderDecl.funcName immediateName
    rw [h, String.append_assoc]
    rfl
  exact append_ne_self (by decide : "With" ≠ "") (hkey.symm.trans he.symm)

/-- Both names of a builder are free, and they differ. -/
theorem nodup_functions_build {g : Generator} (h : g.functions.Nodup) {tag className : String}
    {parent : Parent} {d : TaskDefinition} (hfree : ∀ b ∈ g.plan parent tag d className,
      functionScope parent ++ b.funcName ∉ g.functions) (path : String) :
    (g.build path parent tag d className).functions.Nodup := by
  rw [functions_build, List.nodup_cons, List.nodup_cons, List.mem_cons, not_or]
  rw [plan_eq] at hfree
  exact ⟨⟨functionKey_toDeferred_ne rfl, hfree _ (List.mem_cons_of_mem _ List.mem_cons_self)⟩,
    hfree _ List.mem_cons_self, h⟩

theorem Agrees.build {g : Generator} (h : Agrees g) {path tag className : String}
    {parent : Parent} {d : TaskDefinition} (hfile : g.HasFile path)
    (hclass : g.library.resolves parent.type = true)
    (hnew : g.library.containsFunction parent.type tag = false)
    (hfree : ∀ b ∈ g.plan parent tag d className,
      functionScope parent ++ b.funcName ∉ g.functions) :
    Agrees (g.build path parent tag d className) := by
  have hdecls := decls_build hfile parent tag d className
  obtain ⟨herrors, _, f, hbuilder, helement, hat⟩ :=
    declare_of_new (g := g.writeForms path (g.immediate parent tag d className)) hclass hnew
      (d.descriptors className g.framework) className
  rw [← build_eq] at herrors hat
  generalize himm : g.immediate parent tag d className = b at hdecls
  have hslot : slot b = (parent.type, lowercase tag) := by rw [← himm]; rfl
  refine ⟨herrors.trans h.errors, ?_, ?_, fun name key => ?_⟩
  · rw [functions_build, himm]
    exact ((h.functions.cons _).cons _).trans (hdecls.map functionKey).symm
  · exact nodup_functions_build h.distinct hfree path
  · have hperm := hdecls.filter fun d => slot d = (name, key)
    rw [filter_slot_forms] at hperm
    rw [hat name key]
    by_cases hhere : name = parent.type ∧ key = lowercase tag
    · -- nothing was written here before
      have hslots := h.slots name key
      obtain ⟨rfl, rfl⟩ := hhere
      rw [Structure.containsFunction_eq_false_iff.1 hnew] at hslots
      have hnone : (g.decls.filter fun d => slot d = (parent.type, lowercase tag)) = [] :=
        hslots.eq_nil
      rw [if_pos hslot, hnone, List.append_nil] at hperm
      rw [if_pos ⟨rfl, rfl⟩]
      exact .present (by rw [← himm]; rfl) (by rw [← himm, hbuilder]; rfl)
        (by rw [← himm, helement]; rfl) hperm
    · -- other places are left alone
      have hother : slot b ≠ (name, key) := by
        rw [hslot]
        exact fun he => hhere ⟨(Prod.mk.inj he).1.symm, (Prod.mk.inj he).2.symm⟩
      rw [if_neg hother, List.nil_append] at hperm
      rw [if_neg hhere]
      exact (h.slots name key).perm hperm

/-- Every move keeps library, functions and source in step. -/
theorem Agrees.move {g g' : Generator} (h : Agrees g) (hm : Move g g') (hr : Registered g) :
    Agrees g' := by
  cases hm with
  | note memory log => exact h.of_same (.refl _) rfl rfl fun _ _ => rfl
  | miss memory log _ => exact h.of_same (.refl _) rfl rfl fun _ _ => rfl
  | nameContainer id =>
    have hs := sameBeyondNames_containerName g id
    exact h.of_same (decls_of_perm (.of_eq (g.blocks_containerName id))) hs.functions hs.errors
      fun _ _ => by rw [hs.library]
  | @openContainer id name _ _ _ =>
    obtain ⟨c, _, hperm⟩ := g.blocks_openContainer id name
    exact h.of_same (decls_of_perm_container hperm) rfl rfl (Structure.functionAt?_register rfl)
  | @openTarget d _ _ =>
    obtain ⟨w, _, hperm⟩ := g.blocks_openTarget d
    obtain ⟨traits, hlibrary⟩ := g.library_openTarget d
    obtain ⟨hfunctions, herrors, _, _⟩ := g.openTarget_frame d
    refine h.of_same (decls_of_perm_wrapper hperm) hfunctions herrors fun n k => ?_
    rw [hlibrary]
    exact Structure.functionAt?_register rfl n k
  | define _ _ _ => exact h.of_same (.refl _) rfl rfl fun _ _ => rfl
  | place _ => exact h.of_same (decls_of_perm (g.blocks_ensureFile _ _)) rfl rfl fun _ _ => rfl
  | build hfile hhosts _ _ hnew hfree => exact h.build hfile (hr.hosts hhosts) hnew hfree

/-! ## What the agreement says of each builder -/

/-- Whether a declaration is one form of the builder for a tag on a class, with the name of the
builder and the type it makes. -/
def IsForm (form : BuilderForm) (name tag builder element : String) (d : BuilderDecl) : Bool :=
  decide (d.form = form ∧ d.parent.type = name ∧ d.tag = tag ∧ d.name = builder ∧
    d.element = element)

/-- Forms of a builder are written where the library keeps it. -/
theorem countP_declsAt (g : Generator) (form : BuilderForm) (name tag builder element : String) :
    (g.declsAt name (lowercase tag)).countP (IsForm form name tag builder element) =
      g.decls.countP (IsForm form name tag builder element) := by
  rw [declsAt, List.countP_filter]
  refine List.countP_congr fun d _ => ?_
  rw [Bool.and_eq_true, decide_eq_true_iff]
  refine ⟨And.left, fun h => ⟨h, ?_⟩⟩
  obtain ⟨_, hname, htag, _, _⟩ := decide_eq_true_iff.1 h
  rw [slot, hname, htag]

/-- The library has a builder exactly when both of its forms were written, each once. -/
theorem Agrees.function_iff {g : Generator} (h : Agrees g) (name key builder element : String) :
    (∃ f, g.library.functionAt? name key = some f ∧ f.builder = builder ∧
      f.initReceiver = element) ↔
    ∃ tag, lowercase tag = key ∧
      ∀ form, g.decls.countP (IsForm form name tag builder element) = 1 := by
  have hslots := h.slots name key
  constructor
  · rintro ⟨f, hf, rfl, rfl⟩
    rw [hf] at hslots
    obtain ⟨b, hform, hname, helement, hforms⟩ : ∃ b : BuilderDecl, b.form = .immediate ∧
        b.name = f.builder ∧ b.element = f.initReceiver ∧
        (g.declsAt name key).Perm [b.toDeferred, b] := by
      cases hslots with
      | present hform hname helement hforms => exact ⟨_, hform, hname, helement, hforms⟩
    have hmem : b ∈ g.declsAt name key := hforms.mem_iff.2 (by simp)
    obtain ⟨hclass, hkey⟩ : b.parent.type = name ∧ lowercase b.tag = key :=
      Prod.mk.inj (of_decide_eq_true (List.mem_filter.1 hmem).2)
    refine ⟨b.tag, hkey, fun form => ?_⟩
    rw [← countP_declsAt, hkey, hforms.countP_eq]
    -- one of the two forms is counted
    cases form with
    | immediate => simp [IsForm, BuilderDecl.toDeferred, hform, hclass, hname, helement]
    | deferred => simp [IsForm, BuilderDecl.toDeferred, hform, hclass, hname, helement]
  · rintro ⟨tag, rfl, hcount⟩
    have hpos : 0 < (g.declsAt name (lowercase tag)).countP
        (IsForm .immediate name tag builder element) := by
      rw [countP_declsAt, hcount]
      exact Nat.one_pos
    obtain ⟨d, hmem, hd⟩ := List.countP_pos_iff.1 hpos
    obtain ⟨_, _, _, rfl, rfl⟩ := of_decide_eq_true hd
    cases hf : g.library.functionAt? name (lowercase tag) with
    | none =>
      rw [hf] at hslots
      rw [hslots.eq_nil] at hmem
      cases hmem
    | some f =>
      rw [hf] at hslots
      cases hslots with
      | present _ hname helement hforms =>
        -- what was counted is one of the two forms, and these share name and element
        have hd := hforms.mem_iff.1 hmem
        rcases List.mem_cons.1 hd with rfl | hd
        · exact ⟨f, rfl, hname.symm, helement.symm⟩
        · obtain rfl := List.mem_singleton.1 hd
          exact ⟨f, rfl, hname.symm, helement.symm⟩

/-- Where the name of a builder must be its own: among the methods of its receiver, or in the
package. -/
def scope (d : BuilderDecl) : Option String :=
  if d.parent.kind = .owner then some d.parent.type else none

theorem functionKey_eq (d : BuilderDecl) :
    functionKey d = ((scope d).map (· ++ ".")).getD "" ++ d.funcName := by
  unfold functionKey functionScope scope
  split <;> rfl

/-- No two builders of one scope share a name. -/
theorem Agrees.nodup_scoped {g : Generator} (h : Agrees g) :
    (g.decls.map fun d => (scope d, d.funcName)).Nodup := by
  have hkeys : (g.decls.map functionKey).Nodup := h.functions.nodup_iff.1 h.distinct
  refine List.Nodup.of_map (fun s : Option String × String =>
    (s.1.map (· ++ ".")).getD "" ++ s.2) ?_
  rw [List.map_map]
  exact (List.map_congr_left fun d _ => functionKey_eq d) ▸ hkeys

/-! ## Fresh runs -/

theorem Registered.fresh {p : Provider} {g : Generator} (h : Fresh p g) : Registered g where
  root := by
    rw [h.library]
    have hfirst := Structure.resolves_register { runtime := g.runtime } { name := g.rootContainer }
    exact Structure.covers_register _ _ _ (Structure.covers_register _ _ _ hfirst)
  owner := by
    intro id t ht
    rw [h.resolved] at ht
    cases ht
  container := by
    intro c hc
    rw [h.containersDone] at hc
    cases hc

/-- A fresh run has no builders. -/
theorem functionAt?_of_fresh {p : Provider} {g : Generator} (h : Fresh p g) (name key : String) :
    g.library.functionAt? name key = none := by
  rw [h.library, rootClasses, List.foldl_cons, List.foldl_cons, List.foldl_cons, List.foldl_nil,
    Structure.functionAt?_register rfl, Structure.functionAt?_register rfl,
    Structure.functionAt?_register rfl]
  rfl

theorem Agrees.fresh {p : Provider} {g : Generator} (h : Fresh p g) : Agrees g := by
  have hdecls : g.decls = [] := by
    rw [decls, builders, blocks, h.files]
    rfl
  refine ⟨h.errors, by rw [h.functions, hdecls]; exact .nil, by rw [h.functions]; exact .nil, ?_⟩
  intro name key
  rw [functionAt?_of_fresh h, declsAt, hdecls]
  exact .absent

/-- **Library and source agree after every sequence of requests.** The library has a builder on a
class under a key exactly when both of its forms were written for a tag with that key, each once;
no two builders of one scope share a name; and no builder could not be declared. -/
theorem library_agrees_with_source {p : Provider} {o : GeneratorOptions} {g₀ : Generator}
    (hp : p.Faithful) (hnew : Generator.new p o = .ok g₀) (rs : List Request) :
    let g := g₀.serveAll rs
    (∀ name key builder element,
      (∃ f, g.library.functionAt? name key = some f ∧ f.builder = builder ∧
        f.initReceiver = element) ↔
      ∃ tag, lowercase tag = key ∧
        ∀ form, g.decls.countP (IsForm form name tag builder element) = 1) ∧
    (g.decls.map fun d => (scope d, d.funcName)).Nodup ∧
    g.errors = [] := by
  obtain ⟨_, h⟩ := keeps_serveAll (I := fun g => Registered g ∧ Agrees g) hp hnew
    (fun _ hf => ⟨.fresh hf, .fresh hf⟩)
    (fun _ _ hm hi => ⟨hi.1.move hm, hi.2.move hm hi.1⟩) rs
  exact ⟨h.function_iff, h.nodup_scoped, h.errors⟩

/-- Types that nest each other, under tags that clash by their case and by the name of a form. -/
def mutualShops : List TaskDefinition :=
  [{ id := "lib.Shop", executable := true, capabilities := ["lib.Stock"],
     nested := [⟨"item", "lib.Item"⟩, ⟨"ITEM", "lib.Shop"⟩, ⟨"itemWith", "lib.Item"⟩] },
   { id := "lib.Item", reference := true, nested := [⟨"shop", "lib.Shop"⟩] }]

theorem library_agrees_with_source_mutualShops :
    (Provider.static mutualShops).Faithful ∧
    ∃ g₀, Generator.new (Provider.static mutualShops)
        { importPath := "example.com/out", runtimePath := "example.com/rt" } = .ok g₀ ∧
      let g := g₀.serveAll [.tagAlias ⟨"shop", "lib.Shop", true⟩,
        .constructors "lib.Item" "SHOP" true, .defaults ["lib.Shop", "lib.Item"]]
      (g.decls.map fun d => (scope d, d.funcName)).Nodup ∧ g.errors = [] := by
  obtain ⟨g₀, hnew⟩ := exists_new (Provider.static mutualShops)
    (o := { importPath := "example.com/out", runtimePath := "example.com/rt" })
    (by decide) (by decide)
  have hp := Provider.faithful_static mutualShops
  exact ⟨hp, g₀, hnew, (library_agrees_with_source hp hnew _).2⟩

end TaskBuilders.Generator
