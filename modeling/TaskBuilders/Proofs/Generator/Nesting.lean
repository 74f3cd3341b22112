import TaskBuilders.Proofs.Generator.Methods
import TaskBuilders.Proofs.Generator.Settlement
import TaskBuilders.Proofs.Text.Line

/-!
# What resolving a type leaves

Resolving a type enters it and all types that are nested in it, however deep. The builders that it writes
are methods of the types that it enters: whatever a type had for methods before stays, and no function of
the package is added. The table of functions tells methods from functions of the package, because the
names of methods have no dots.

* `Indexed` — the table of functions lists the builders by their names
* `Indexed.mem_method_iff`, `Indexed.mem_package_iff` — what the table says about methods and functions
* `Leaves` — new builders hang off certain parents or off new types, and new types were asked for or are
  nested in another one
* `leaves_resolveClass` — resolving a type leaves methods of new types only
-/

namespace TaskBuilders

open Naming QualifiedName Text

/-! ## Names of builders -/

namespace QualifiedName

theorem undivided_append_left_iff {lead s : String} (hlead : Whole lead) :
    Undivided (lead ++ s) ↔ Undivided s := by
  rw [Undivided, lastDivider?_append, lastDivider?_eq_none_iff.2 hlead, Option.or_none, Undivided]

theorem undivided_append_right_iff {s trail : String} (htrail : Whole trail) :
    Undivided (s ++ trail) ↔ Undivided s := by
  rw [Undivided, lastDivider?_append, lastDivider?_eq_none_iff.2 htrail, Option.none_or, Undivided]

theorem Undivided.dropLeading {lead s : String} (hlead : Whole lead) (h : Undivided s) :
    Undivided (dropLeading lead s) := by
  unfold Text.dropLeading
  split
  · next rest hrest =>
    have hs : s = lead ++ String.ofList rest := by
      rw [← String.toList_inj]
      simpa using eq_append_of_afterLeading? hrest
    exact (undivided_append_left_iff hlead).1 (hs ▸ h)
  · exact h

theorem Undivided.dropTrailing {s trail : String} (htrail : Whole trail) (h : Undivided s) :
    Undivided (dropTrailing trail s) := by
  unfold Text.dropTrailing
  split
  · next rest hrest =>
    have hs : s = String.ofList rest.reverse ++ trail := by
      rw [← String.toList_inj, ← List.reverse_inj]
      simpa using eq_append_of_afterLeading? hrest
    exact (undivided_append_right_iff htrail).1 (hs ▸ h)
  · exact h

end QualifiedName

theorem undivided_capabilityLabel (type : String) : Undivided (capabilityLabel type) :=
  .dropTrailing (by decide) (.dropLeading whole_marker (undivided_identOf type))

/-- The name of a declaration is that of the builder for its tag. -/
def BuilderDecl.Planned (b : BuilderDecl) : Prop := b.name = builderName b.parent b.tag

namespace BuilderDecl.Planned

variable {b : BuilderDecl}

theorem toDeferred (h : b.Planned) : b.toDeferred.Planned := h

theorem undivided_funcName (h : b.Planned) : Undivided b.funcName := by
  have hbase := whole_exported_camelCase b.tag
  have hname : Undivided b.name := by
    rw [h, builderName]
    split
    · exact (undivided_append_left_iff (hbase.append (by decide))).2 (undivided_capabilityLabel _)
    · exact hbase.undivided
  unfold funcName
  cases b.form with
  | immediate => exact (undivided_append_right_iff (by decide)).2 hname
  | deferred => exact hname

theorem whole_funcName (h : b.Planned) (howner : b.parent.kind = .owner) : Whole b.funcName := by
  have hname : Whole b.name := by
    rw [h, builderName]
    simp only [howner, reduceCtorEq, if_false]
    exact whole_exported_camelCase b.tag
  unfold funcName
  cases b.form with
  | immediate => exact hname.append (by decide)
  | deferred => exact hname

end BuilderDecl.Planned

namespace Generator

variable {g g' g'' : Generator}

theorem planned_immediate (g : Generator) (parent : Parent) (tag : String) (d : TaskDefinition)
    (className : String) : (g.immediate parent tag d className).Planned := rfl

/-- A name behind a receiver in the table of functions is that of a method. -/
theorem method_of_functionKey {b : BuilderDecl} (h : b.Planned) {type name : String}
    (hname : Whole name) (he : functionKey b = type ++ "." ++ name) :
    b.parent = ⟨.owner, type⟩ ∧ b.funcName = name := by
  rw [functionKey, functionScope] at he
  split at he
  · next howner =>
    obtain ⟨htype, hfunc⟩ := (append_dot_inj (h.whole_funcName howner) hname).1 he
    exact ⟨by rw [← howner, ← htype], hfunc⟩
  · rw [String.empty_append] at he
    exact absurd (he ▸ h.undivided_funcName) (not_undivided_append_dot hname type)

/-- A name without dots in the table of functions is that of a function of the package. -/
theorem package_of_functionKey {b : BuilderDecl} {name : String} (hname : Whole name)
    (he : functionKey b = name) : b.parent.kind ≠ .owner ∧ b.funcName = name := by
  rw [functionKey, functionScope] at he
  split at he
  · rw [← he] at hname
    exact absurd hname (not_whole_append_dot _ _)
  · next hkind => exact ⟨hkind, by rwa [String.empty_append] at he⟩

/-- The table of functions lists the builders, which have the names of their tags. -/
structure Indexed (g : Generator) : Prop where
  tabled : Tabled g
  planned : ∀ b ∈ g.decls, b.Planned

namespace Indexed

theorem move (h : Indexed g) (hm : Move g g') : Indexed g' where
  tabled := h.tabled.move hm
  planned := by
    intro b hb
    rcases hm.builds with ⟨hperm, _⟩ | ⟨path, parent, tag, d, className, hfile, _, _, _, rfl⟩
    · exact h.planned b (hperm.subset hb)
    · have hplanned := g.planned_immediate parent tag d className
      rcases (mem_decls_build hfile).1 hb with rfl | rfl | hb
      · exact hplanned.toDeferred
      · exact hplanned
      · exact h.planned b hb

theorem load (h : Indexed g) (l : Loading) : Indexed (g.load l) where
  tabled := h.tabled.load l
  planned := by
    rw [decls, builders, blocks, files_load]
    exact h.planned

theorem fresh {p : Provider} (h : Fresh p g) : Indexed g where
  tabled := .fresh h
  planned := by
    intro b hb
    rw [decls, builders, blocks, h.files] at hb
    cases hb

theorem performAll {p : Provider} {o : GeneratorOptions} {g₀ : Generator} (hf : p.Faithful)
    (hnew : Generator.new p o = .ok g₀) (ops : List Operation) : Indexed (g₀.performAll ops) := by
  have hfresh := fresh_of_new hnew
  exact keeps_performAll (fun _ _ hm h => h.move hm) ops g₀ (hfresh.provider ▸ hf.safe)
    (fun l _ _ h => h.load l) (.fresh hfresh)

/-- A method is in the table if and only if it was written. -/
theorem mem_method_iff (h : Indexed g) {type name : String} (hname : Whole name) :
    type ++ "." ++ name ∈ g.functions ↔
      ∃ b ∈ g.decls, b.parent = ⟨.owner, type⟩ ∧ b.funcName = name := by
  rw [h.tabled.functions.mem_iff, List.mem_map]
  constructor
  · rintro ⟨b, hb, he⟩
    exact ⟨b, hb, method_of_functionKey (h.planned b hb) hname he⟩
  · rintro ⟨b, hb, hparent, rfl⟩
    exact ⟨b, hb, by simp [functionKey, functionScope, hparent]⟩

/-- A function of the package is in the table if and only if it was written. -/
theorem mem_package_iff (h : Indexed g) {name : String} (hname : Whole name) :
    name ∈ g.functions ↔ ∃ b ∈ g.decls, b.parent.kind ≠ .owner ∧ b.funcName = name := by
  rw [h.tabled.functions.mem_iff, List.mem_map]
  constructor
  · rintro ⟨b, hb, he⟩
    exact ⟨b, hb, package_of_functionKey hname he⟩
  · rintro ⟨b, hb, hkind, rfl⟩
    exact ⟨b, hb, by simp [functionKey, functionScope, hkind]⟩

end Indexed

/-! ## What is left behind -/

/-- A type is nested in the definition of another type of the table. -/
def NestedElsewhere (g : Generator) (id : String) : Prop :=
  ∃ other t d, other ≠ id ∧ g.resolved.get? other = some t ∧ t.definition = some d ∧
    ∃ e ∈ d.nested, e.type = id

theorem NestedElsewhere.extend {id : String} (h : g.NestedElsewhere id) (he : Extends g g') :
    g'.NestedElsewhere id := by
  obtain ⟨other, t, d, hne, ht, hd, hnested⟩ := h
  obtain ⟨t', ht', _, hd'⟩ := he.resolved other t ht
  exact ⟨other, t', d, hne, ht', hd' d hd, hnested⟩

/-- New builders hang off parents of one kind or are methods of types that are new, and types that are new
were asked for or are nested in another one. -/
structure Leaves (own : Parent → Prop) (asked : String → Prop) (g g' : Generator) : Prop where
  keeps : Extends g g'
  decls : ∀ b ∈ g'.decls, b ∈ g.decls ∨ own b.parent ∨ ∃ id t, g.resolved.get? id = none ∧
    g'.resolved.get? id = some t ∧ b.parent = ⟨.owner, t.className⟩
  entries : ∀ id t, g'.resolved.get? id = some t → g.resolved.get? id = none →
    asked id ∨ g'.NestedElsewhere id

namespace Leaves

variable {own : Parent → Prop} {asked : String → Prop}

theorem refl (g : Generator) : Leaves own asked g g where
  keeps := .refl g
  decls := fun _ hb => Or.inl hb
  entries := fun _ _ ht hnew => by rw [hnew] at ht; cases ht

theorem trans (h : Leaves own asked g g') (h' : Leaves own asked g' g'') :
    Leaves own asked g g'' where
  keeps := h.keeps.trans h'.keeps
  decls := by
    intro b hb
    rcases h'.decls b hb with hb | hown | ⟨id, t, hnew, ht, hparent⟩
    · rcases h.decls b hb with hb | hown | ⟨id, t, hnew, ht, hparent⟩
      · exact Or.inl hb
      · exact Or.inr (Or.inl hown)
      · obtain ⟨t', ht', hclass, _⟩ := h'.keeps.resolved id t ht
        exact Or.inr (Or.inr ⟨id, t', hnew, ht', hclass ▸ hparent⟩)
    · exact Or.inr (Or.inl hown)
    · refine Or.inr (Or.inr ⟨id, t, ?_, ht, hparent⟩)
      cases hid : g.resolved.get? id with
      | none => rfl
      | some u =>
        obtain ⟨u', hu', _⟩ := h.keeps.resolved id u hid
        rw [hnew] at hu'
        cases hu'
  entries := by
    intro id t ht hnew
    cases hid : g'.resolved.get? id with
    | none => exact h'.entries id t ht hid
    | some u => exact (h.entries id u hid hnew).imp_right fun hn => hn.extend h'.keeps

theorem mono {own' : Parent → Prop} {asked' : String → Prop} (h : Leaves own asked g g')
    (hown : ∀ parent, own parent → own' parent) (hasked : ∀ id, asked id → asked' id) :
    Leaves own' asked' g g' where
  keeps := h.keeps
  decls := fun b hb => (h.decls b hb).imp_right (Or.imp_left (hown b.parent))
  entries := fun id t ht hnew => (h.entries id t ht hnew).imp_left (hasked id)

/-- No type is new. -/
theorem of_sameTypes (he : Extends g g') (hs : SameTypes g g')
    (hdecls : ∀ b ∈ g'.decls, b ∈ g.decls ∨ own b.parent) : Leaves own asked g g' where
  keeps := he
  decls := fun b hb => (hdecls b hb).imp_right Or.inl
  entries := by
    intro id t ht hnew
    obtain ⟨u, hu, _⟩ := hs.definition ht
    rw [hnew] at hu
    cases hu

/-- A type that was asked for because another one nests it. -/
theorem nested {id other : String} {t : Target} {d : TaskDefinition}
    (h : Leaves own (· = id) g g') (ht : g.resolved.get? other = some t) (hd : t.definition = some d)
    (hnested : ∃ e ∈ d.nested, e.type = id) : Leaves own asked g g' where
  keeps := h.keeps
  decls := h.decls
  entries := by
    intro i u hu hnew
    rcases h.entries i u hu hnew with rfl | hn
    · have hne : other ≠ i := by
        rintro rfl
        rw [hnew] at ht
        cases ht
      exact Or.inr (NestedElsewhere.extend ⟨other, t, d, hne, ht, hd, hnested⟩ h.keeps)
    · exact Or.inr hn

/-- The methods of a type that is new. -/
theorem of_new {id type : String} {t : Target} (h : Leaves (· = ⟨.owner, type⟩) asked g g')
    (hnew : g.resolved.get? id = none) (ht : g'.resolved.get? id = some t)
    (htype : t.className = type) : Leaves (fun _ => False) asked g g' where
  keeps := h.keeps
  decls := by
    intro b hb
    rcases h.decls b hb with hb | hown | hnew'
    · exact Or.inl hb
    · exact Or.inr (Or.inr ⟨id, t, hnew, ht, htype ▸ hown⟩)
    · exact Or.inr (Or.inr hnew')
  entries := h.entries

end Leaves

theorem decls_lookup (g : Generator) (id : String) : (g.lookup id).2.decls = g.decls := by
  rcases g.lookup_cases id with ⟨_, _, _, _, h⟩ | ⟨_, h⟩ | ⟨_, _, _, h⟩ | ⟨_, _, _, h⟩ <;> rw [h] <;> rfl

theorem decls_resolveContainer (g : Generator) (id : String) :
    (g.resolveContainer id).decls.Perm g.decls := by
  unfold resolveContainer
  split
  · exact .refl _
  · obtain ⟨c, _, hperm⟩ := blocks_openContainer (g.containerName id).2 id (g.containerName id).1
    exact (decls_of_perm_container hperm).trans (decls_of_perm (.of_eq (g.blocks_containerName id)))

/-- Rendering writes builders under the parent that it is asked for, if it writes any. -/
theorem decls_render {path : String} (hfile : g.HasFile path) (parent : Parent) (tag : String)
    (d : TaskDefinition) (className : String) {b : BuilderDecl}
    (hb : b ∈ (g.render path parent tag d className).decls) : b ∈ g.decls ∨ b.parent = parent := by
  rcases g.render_cases path parent tag d className with h | ⟨log, h⟩ | ⟨_, _, h⟩
  · exact Or.inl (h ▸ hb)
  · rw [h] at hb
    exact Or.inl hb
  · rw [h] at hb
    rcases (mem_decls_build hfile).1 hb with rfl | rfl | hb
    · exact Or.inr rfl
    · exact Or.inr rfl
    · exact Or.inl hb

section

variable {own : Parent → Prop} {asked : String → Prop}

theorem leaves_logging (g : Generator) (r : LogRecord) : Leaves own asked g (g.logging r) :=
  .of_sameTypes (moves_logging g r).extends (sameTypes_logging g r) fun _ hb => Or.inl hb

theorem leaves_lookup (g : Generator) (id : String) : Leaves own asked g (g.lookup id).2 :=
  .of_sameTypes (g.moves_lookup id).extends (g.sameTypes_lookup id) fun _ hb =>
    Or.inl (g.decls_lookup id ▸ hb)

theorem leaves_containerName (g : Generator) (id : String) :
    Leaves own asked g (g.containerName id).2 :=
  .of_sameTypes (Move.nameContainer g id).extends (g.sameTypes_containerName id) fun _ hb =>
    Or.inl ((decls_of_perm (.of_eq (g.blocks_containerName id))).subset hb)

theorem leaves_resolveContainer (g : Generator) (id : String) :
    Leaves own asked g (g.resolveContainer id) :=
  .of_sameTypes (g.moves_resolveContainer id).extends (g.sameTypes_resolveContainer id) fun _ hb =>
    Or.inl ((g.decls_resolveContainer id).subset hb)

theorem leaves_resolveContainers : ∀ (ids : List String) (g : Generator),
    Leaves own asked g (g.resolveContainers ids)
  | [], g => .refl g
  | id :: ids, g => (g.leaves_resolveContainer id).trans (leaves_resolveContainers ids _)

theorem Builds.leaves_render {path id className : String} {d : TaskDefinition} {parent : Parent}
    (h : Builds path id className d g) (tag : String) (hhosts : g.Hosts parent) (hown : own parent) :
    Leaves own asked g (g.render path parent tag d className) :=
  .of_sameTypes (h.moves_render tag hhosts).extends (g.sameTypes_render path parent tag d className)
    fun b hb => by
      rcases decls_render h.hasFile parent tag d className hb with hb | he
      · exact Or.inl hb
      · exact Or.inr (he.symm ▸ hown)

end

/-! ## Constructors -/

/-- Builders under containers are functions of the package. -/
theorem leaves_renderInContainer {asked : String → Prop} {path id : String} {t : Target}
    {d : TaskDefinition} (h : Builds path id t.className d g) (tag capability : String) :
    Leaves (·.kind ≠ .owner) asked g (renderInContainer path t d tag g capability) := by
  refine .of_sameTypes (h.moves_renderInContainer tag capability).extends
    (sameTypes_renderInContainer path t d tag g capability) fun b hb => ?_
  unfold renderInContainer at hb
  split at hb
  · exact Or.inl hb
  · have hopen : Leaves (·.kind ≠ .owner) asked g
        ((g.resolveContainer capability).containerName capability).2 :=
      (g.leaves_resolveContainer capability).trans (leaves_containerName _ _)
    rcases decls_render (hopen.keeps.hasFile path h.hasFile) _ tag d t.className hb with hb | he
    · have hname := blocks_containerName (g.resolveContainer capability) capability
      exact Or.inl ((g.decls_resolveContainer capability).subset
        ((decls_of_perm (.of_eq hname)).subset hb))
    · exact Or.inr (by simp [he])

theorem leaves_foldl_renderInContainer {asked : String → Prop} {path id : String} {t : Target}
    {d : TaskDefinition} (tag : String) : ∀ (cs : List String) (g : Generator),
    Builds path id t.className d g →
      Leaves (·.kind ≠ .owner) asked g (cs.foldl (renderInContainer path t d tag) g)
  | [], g, _ => .refl g
  | c :: cs, _, h => (leaves_renderInContainer h tag c).trans
      (leaves_foldl_renderInContainer tag cs _ (h.extend (h.moves_renderInContainer tag c)))

/-- **Constructors are functions of the package**, and no type is entered for them. -/
theorem leaves_generateConstructors {asked : String → Prop} (g : Generator) (id tag : String)
    (topLevel : Bool) :
    Leaves (·.kind ≠ .owner) asked g (g.generateConstructors id tag topLevel) := by
  unfold generateConstructors
  split
  · exact .refl g
  · next t ht =>
    split
    · exact .refl g
    · next d hd =>
      have hplace : Leaves (·.kind ≠ .owner) asked g (g.placeTarget id t) :=
        .of_sameTypes (Move.place ht).extends (sameTypes_placeTarget ht) fun _ hb =>
          Or.inl ((decls_of_perm (g.blocks_ensureFile _ _)).subset hb)
      have hbuilds : Builds (g.targetPath t) id t.className d (g.placeTarget id t) :=
        ⟨hasFile_ensureFile g _ _, _, Dict.get?_insert_self _ _ _, rfl, hd⟩
      split
      · have hmoves := hbuilds.moves_render tag .root
        exact (hplace.trans (hbuilds.leaves_render tag .root (by simp))).trans
          (leaves_foldl_renderInContainer (t := { t with id }) tag d.capabilities _
            (hbuilds.extend hmoves))
      · exact hplace.trans (leaves_foldl_renderInContainer (t := { t with id }) tag d.capabilities _
          hbuilds)

/-! ## Resolution -/

/-- A resolver that leaves methods of new types only. -/
def Resolver.Leaving (r : Resolver) : Prop :=
  ∀ id g, g.provider.Faithful → Leaves (fun _ => False) (· = id) g (r id g).2

theorem leaves_renderElement {asked : String → Prop} {owner : Target} {path : String}
    (hpath : owner.file = some path) (e : NestedElement) (hfile : g.HasFile path)
    (hhosts : g.Hosts ⟨.owner, owner.className⟩) :
    Leaves (· = ⟨.owner, owner.className⟩) asked g (renderElement owner e g).2 := by
  rcases renderElement_cases owner e g with ⟨_, h⟩ | ⟨t, d, ht, hd, h⟩ | h
  · rw [h]
    exact .refl g
  · have htarget : g.targetPath owner = path := by rw [targetPath, hpath, Option.getD_some]
    have hbuilds : Builds path e.type t.className d g := ⟨hfile, t, ht, rfl, hd⟩
    rw [h, htarget]
    exact hbuilds.leaves_render e.tag hhosts rfl
  · rw [h]
    exact .refl g

/-- The nested elements of a type leave methods of the type and of new ones. -/
theorem leaves_renderNested {r : Resolver} (hmoves : r.ByMoves) (hr : r.Leaving) {owner : Target}
    {path : String} {d : TaskDefinition} (hpath : owner.file = some path) :
    ∀ (es : List NestedElement) (g : Generator), g.provider.Faithful → g.HasFile path →
      g.Hosts ⟨.owner, owner.className⟩ →
      (∃ t, g.resolved.get? owner.id = some t ∧ t.definition = some d) → es ⊆ d.nested →
      Leaves (· = ⟨.owner, owner.className⟩) (fun _ => False) g (renderNested r owner es g).2
  | [], g, _, _, _, _, _ => .refl g
  | e :: es, g, hp, hfile, hhosts, howner, hes => by
    obtain ⟨he, hes⟩ := List.cons_subset.1 hes
    have hrest : ∀ g', Moves g g' →
        Leaves (· = ⟨.owner, owner.className⟩) (fun _ => False) g g' →
        Leaves (· = ⟨.owner, owner.className⟩) (fun _ => False) g (renderNested r owner es g').2 := by
      intro g' hm hl
      obtain ⟨t, ht, hd⟩ := howner
      obtain ⟨t', ht', _, hd'⟩ := hm.extends.resolved owner.id t ht
      exact hl.trans (leaves_renderNested hmoves hr hpath es g' (hm.extends.provider ▸ hp)
        (hm.extends.hasFile path hfile) (hm.extends.hosts hhosts) ⟨t', ht', hd' d hd⟩ hes)
    have hstep := hmoves e.type g hp
    have hleaves : Leaves (· = ⟨.owner, owner.className⟩) (fun _ => False) g (r e.type g).2 := by
      obtain ⟨t, ht, hd⟩ := howner
      exact ((hr e.type g hp).mono (fun _ h => h.elim) fun _ h => h).nested ht hd ⟨e, he, rfl⟩
    unfold renderNested
    split
    · exact hrest g .refl (.refl g)
    · split
      · next h => rw [h] at hleaves; exact hleaves
      · next h =>
        rw [h] at hleaves hstep
        exact hrest _ (hstep.trans (moves_logging _ _)) (hleaves.trans (leaves_logging _ _))
      · next g' h =>
        rw [h] at hleaves hstep
        have hfile' := hstep.extends.hasFile path hfile
        have hhosts' := hstep.extends.hosts hhosts
        have helement := hstep.trans (moves_renderElement hpath e hfile' hhosts')
        have hrender := hleaves.trans (leaves_renderElement hpath e hfile' hhosts')
        split
        · next h' => rw [h'] at hrender; exact hrender
        · next h' => rw [h'] at hrender helement; exact hrest _ helement hrender

theorem leaves_openTarget {d : TaskDefinition} (hnew : g.resolved.get? d.id = none)
    (hfound : g.Finds d.id d) {own : Parent → Prop} :
    Leaves own (· = d.id) g (g.openTarget d).2 where
  keeps := (Move.openTarget hnew hfound).extends
  decls := by
    intro b hb
    obtain ⟨w, _, hperm⟩ := g.blocks_openTarget d
    exact Or.inl ((decls_of_perm_wrapper hperm).subset hb)
  entries := by
    intro id t ht hid
    obtain ⟨path, hresolved⟩ := g.resolved_openTarget d
    rw [hresolved] at ht
    rcases Dict.get?_insert_cases ht with ⟨rfl, _⟩ | ht
    · exact Or.inl rfl
    · rw [hid] at ht
      cases ht

theorem leaves_addTarget {r : Resolver} (hmoves : r.ByMoves) (hr : r.Leaving) {d : TaskDefinition}
    (hp : g.provider.Faithful) (hnew : g.resolved.get? d.id = none) (hfound : g.Finds d.id d) :
    Leaves (fun _ => False) (· = d.id) g (addTarget r d g).2 := by
  have hopen : Leaves (fun _ => False) (· = d.id) g (g.openTarget d).2 := leaves_openTarget hnew hfound
  obtain ⟨path, hpath, hfile, hhosts⟩ := g.openTarget_hosts d
  have hentry : (g.openTarget d).2.resolved.get? d.id = some (g.openTarget d).1 :=
    Dict.get?_insert_self _ d.id _
  have hnested := leaves_renderNested hmoves hr hpath d.nested (g.openTarget d).2
    (hopen.keeps.provider ▸ hp) hfile hhosts ⟨_, hentry, rfl⟩ (List.Subset.refl _)
  -- the methods of the type are methods of a new type
  have hnested : Leaves (fun _ => False) (· = d.id) g
      (renderNested r (g.openTarget d).1 d.nested (g.openTarget d).2).2 := by
    obtain ⟨t, ht, hclass, _⟩ := hnested.keeps.resolved d.id _ hentry
    exact ((hopen.mono (fun _ h => h.elim) fun _ h => h).trans
      (hnested.mono (fun _ h => h) fun _ h => h.elim)).of_new hnew ht hclass
  rcases addTarget_cases r d g with ⟨c, g', hr', h⟩ | ⟨g', hr', h⟩
  · rw [hr'] at hnested
    rw [h]
    exact hnested
  · rw [hr'] at hnested
    rw [h]
    exact hnested.trans ((leaves_resolveContainers d.capabilities g').trans
      (leaves_resolveContainers d.nestedTypes _))

theorem leaving_resolveWithin : ∀ n, (resolveWithin n).Leaving
  | 0, _, g, _ => .refl g
  | n + 1, id, g, hp => by
    have hlookup : Leaves (fun _ => False) (· = id) g (g.lookup id).2 := g.leaves_lookup id
    have hsame := g.resolved_lookup id
    unfold resolveWithin
    split
    · next t ht =>
      split
      · exact .refl g
      · next hundefined =>
        have hnone : t.definition = none := by simpa using hundefined
        split
        · next g' h => rw [h] at hlookup; exact hlookup
        · next d g' h =>
          have hfound : g.Finds id d :=
            finds_of_lookup (by rw [ht, Option.bind_some, hnone]) (by rw [h])
          rw [h] at hlookup hsame
          refine hlookup.trans ⟨(Move.define (hsame ▸ ht) hnone ?_).extends, fun _ hb => Or.inl hb, ?_⟩
          · rwa [Finds, hlookup.keeps.provider]
          · intro i u hu hnew
            rcases Dict.get?_insert_cases hu with ⟨rfl, _⟩ | hu
            · exact Or.inl rfl
            · rw [hnew] at hu
              cases hu
    · next hnew =>
      split
      · next g' h => rw [h] at hlookup; exact hlookup
      · next d g' h =>
        obtain ⟨m, hm⟩ : g.Finds id d := finds_of_lookup (by rw [hnew, Option.bind_none]) (by rw [h])
        obtain rfl := hp id m d hm
        rw [h] at hlookup hsame
        have hprovider := hlookup.keeps.provider
        refine hlookup.trans (leaves_addTarget (byMoves_resolveWithin n) (leaving_resolveWithin n)
          (hprovider ▸ hp) (hsame ▸ hnew) ⟨m, ?_⟩)
        rw [hprovider]
        exact hm

/-- **Resolving a type leaves methods of new types only**, and types are new because they are nested in
others. -/
theorem leaves_resolveClass (hp : g.provider.Faithful) (id : String) :
    Leaves (fun _ => False) (· = id) g (g.resolveClass id).2 := leaving_resolveWithin _ id g hp

end Generator

end TaskBuilders
