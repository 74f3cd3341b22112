import TaskBuilders.Proofs.Definition.NestedElements
import TaskBuilders.Proofs.Generator.Account
import TaskBuilders.Proofs.Generator.Nesting
import TaskBuilders.Proofs.Generator.Notes

/-!
# What types carry

The builders of a type's class are its methods: they are under one name in the library, in the table of
functions and in what is written, as long as the type is called like no container. So the methods tell
which nested elements of the type were built.

* `Coherent` — library, tables and what is written follow each other and the provider
* `Coherent.containsFunction_iff` — the builders of a type's class are its methods
* `Carries` — the methods of a type are those of the elements that were built
* `Carries.render` — one more element is built if it suits
-/

namespace TaskBuilders

open Naming NestedElement QualifiedName Text

namespace BuilderDecl.Planned

variable {b : BuilderDecl} {e : NestedElement}

/-- A method is called by the tag and the form of its builder. -/
theorem funcName_eq_method (h : b.Planned) (howner : b.parent.kind = .owner) (htag : b.tag = e.tag) :
    b.funcName = e.method b.form := by
  have hname : b.name = exported (camelCase e.tag) := by
    rw [h, builderName, howner, htag]
    rfl
  rw [funcName, hname]
  cases b.form with
  | immediate => rfl
  | deferred => rfl

end BuilderDecl.Planned

namespace Generator

variable {g g' : Generator}

/-! ## Where the builders of a class are -/

/-- The library, the tables and what is written follow each other and the provider, and all builders hang
off hosts. -/
structure Coherent (g : Generator) : Prop where
  truthful : Truthful g
  defined : Defined g
  declared : Declared g
  indexed : Indexed g
  hosted : ∀ b ∈ g.decls, g.Hosts b.parent

namespace Coherent

theorem move (h : Coherent g) (hm : Move g g') : Coherent g' where
  truthful := h.truthful.move hm
  defined := h.defined.move hm
  declared := h.declared.move hm
  indexed := h.indexed.move hm
  hosted := by
    intro b hb
    rcases hm.builds with ⟨hperm, _⟩ | ⟨path, parent, tag, d, className, hfile, hhosts, _, _, rfl⟩
    · exact hm.extends.hosts (h.hosted b (hperm.subset hb))
    · rcases (mem_decls_build hfile).1 hb with rfl | rfl | hb
      · exact hm.extends.hosts hhosts
      · exact hm.extends.hosts hhosts
      · exact hm.extends.hosts (h.hosted b hb)

theorem moves (h : Coherent g) (hm : Moves g g') : Coherent g' := hm.keeps (fun _ _ hm h => h.move hm) h

theorem fresh {p : Provider} (hf : p.Faithful) (hs : p.Stateless) (h : Fresh p g) : Coherent g where
  truthful := .fresh hf hs h
  defined := .fresh h
  declared := .fresh h
  indexed := .fresh h
  hosted := by
    intro b hb
    rw [decls, builders, blocks, h.files] at hb
    cases hb

variable {id : String} {t : Target}

/-- The builders of a type's class are its methods: it is called like no container. -/
theorem parent_eq (h : Coherent g) (ht : g.resolved.get? id = some t)
    (hplain : hasLeading "container:" id = false) {b : BuilderDecl} (hb : b ∈ g.decls)
    (htype : b.parent.type = t.className) : b.parent = ⟨.owner, t.className⟩ := by
  have hhosts := h.hosted b hb
  generalize b.parent = parent at hhosts htype
  cases hhosts with
  | root =>
    obtain ⟨ident, hident, hclass⟩ := h.declared.named.types id t ht
    have hne : qualify g.options.importPath ident ≠ g.emitter.runtimeName "TaskContainer" :=
      qualify_ne_runtimeName h.declared.shown.importPath (h.declared.shown.typical _ _ hident)
        (by decide) (by decide)
    exact absurd (hclass.symm.trans htype.symm) hne
  | container _ hnamed =>
    dsimp only at htype
    subst htype
    exact absurd (h.declared.named.eq_containerKey ht hnamed) (ne_containerKey hplain _)
  | owner _ _ =>
    dsimp only at htype
    rw [htype]

/-- A builder of a type's class is the method for its tag. -/
theorem exists_method (h : Coherent g) (ht : g.resolved.get? id = some t)
    (hplain : hasLeading "container:" id = false) {key : String} {f : BuilderFunction}
    (hf : g.library.functionAt? t.className key = some f) :
    ∃ b ∈ g.decls, b.parent = ⟨.owner, t.className⟩ ∧ lowercase b.tag = key ∧
      b.element = f.initReceiver := by
  have hslots := h.declared.agrees.slots t.className key
  rw [hf] at hslots
  cases hslots with
  | @present _ b _ _ _ helement hforms =>
    have hmem : b ∈ g.declsAt t.className key := hforms.mem_iff.2 (by simp)
    obtain ⟨hb, hslot⟩ := List.mem_filter.1 hmem
    obtain ⟨htype, hkey⟩ := Prod.mk.inj (of_decide_eq_true hslot)
    exact ⟨b, hb, h.parent_eq ht hplain hb htype, hkey, helement⟩

/-- The class of a type has a builder for a tag if and only if the type has a method for it. -/
theorem containsFunction_iff (h : Coherent g) (ht : g.resolved.get? id = some t)
    (hplain : hasLeading "container:" id = false) (tag : String) :
    g.library.containsFunction t.className tag = true ↔
      ∃ b ∈ g.decls, b.parent = ⟨.owner, t.className⟩ ∧ lowercase b.tag = lowercase tag := by
  rw [Structure.containsFunction_iff]
  constructor
  · rintro ⟨f, hf⟩
    obtain ⟨b, hb, hparent, hkey, _⟩ := h.exists_method ht hplain hf
    exact ⟨b, hb, hparent, hkey⟩
  · rintro ⟨b, hb, hparent, hkey⟩
    have hslots := h.declared.agrees.slots t.className (lowercase tag)
    cases hf : g.library.functionAt? t.className (lowercase tag) with
    | some f => exact ⟨f, rfl⟩
    | none =>
      have hmem : b ∈ g.declsAt t.className (lowercase tag) :=
        List.mem_filter.2 ⟨hb, by simp [slot, hparent, hkey]⟩
      rw [hf] at hslots
      rw [hslots.eq_nil] at hmem
      cases hmem

end Coherent

/-! ## What a type carries -/

/-- The methods of a type are both forms of the builders for the elements that were built. -/
structure Carries (g : Generator) (type : String) (built : List NestedElement) : Prop where
  sound : ∀ b ∈ g.decls, b.parent = ⟨.owner, type⟩ → ∃ e ∈ built, b.tag = e.tag ∧
    ∃ t, g.resolved.get? e.type = some t ∧ b.element = t.className
  complete : ∀ e ∈ built, ∀ form, ∃ b ∈ g.decls, b.parent = ⟨.owner, type⟩ ∧ b.tag = e.tag ∧
    b.form = form

namespace Carries

variable {type id : String} {built : List NestedElement} {t : Target}

/-- A type that gets no methods carries what it carried. -/
theorem keep (h : Carries g type built) (he : Extends g g')
    (hmethods : ∀ b ∈ g'.decls, b.parent = ⟨.owner, type⟩ → b ∈ g.decls) :
    Carries g' type built where
  sound := by
    intro b hb hparent
    obtain ⟨e, hmem, htag, t, ht, helement⟩ := h.sound b (hmethods b hb hparent) hparent
    obtain ⟨t', ht', hclass, _⟩ := he.resolved e.type t ht
    exact ⟨e, hmem, htag, t', ht', hclass ▸ helement⟩
  complete := by
    intro e hmem form
    obtain ⟨b, hb, hrest⟩ := h.complete e hmem form
    exact ⟨b, he.decls hb, hrest⟩

/-- The names of a type's methods are those of the elements that were built. -/
theorem method_iff (h : Carries g type built) (hi : Indexed g) (name : String) :
    (∃ b ∈ g.decls, b.parent = ⟨.owner, type⟩ ∧ b.funcName = name) ↔
      ∃ e ∈ built, name ∈ e.methods := by
  constructor
  · rintro ⟨b, hb, hparent, rfl⟩
    obtain ⟨e, hmem, htag, _⟩ := h.sound b hb hparent
    have hname := (hi.planned b hb).funcName_eq_method (by rw [hparent]) htag
    exact ⟨e, hmem, mem_methods_iff.2 ⟨b.form, hname.symm⟩⟩
  · rintro ⟨e, hmem, hname⟩
    obtain ⟨form, rfl⟩ := mem_methods_iff.1 hname
    obtain ⟨b, hb, hparent, htag, rfl⟩ := h.complete e hmem form
    exact ⟨b, hb, hparent, (hi.planned b hb).funcName_eq_method (by rw [hparent]) htag⟩

/-- The tags of a type's builders are those of the elements that were built. -/
theorem containsFunction_iff (h : Carries g t.className built) (hg : Coherent g)
    (ht : g.resolved.get? id = some t) (hplain : hasLeading "container:" id = false) (tag : String) :
    g.library.containsFunction t.className tag = true ↔
      ∃ e ∈ built, lowercase e.tag = lowercase tag := by
  rw [hg.containsFunction_iff ht hplain]
  constructor
  · rintro ⟨b, hb, hparent, hkey⟩
    obtain ⟨e, hmem, htag, _⟩ := h.sound b hb hparent
    exact ⟨e, hmem, htag ▸ hkey⟩
  · rintro ⟨e, hmem, hkey⟩
    obtain ⟨b, hb, hparent, htag, _⟩ := h.complete e hmem .immediate
    exact ⟨b, hb, hparent, htag ▸ hkey⟩

theorem containsFunction_eq_false_iff (h : Carries g t.className built) (hg : Coherent g)
    (ht : g.resolved.get? id = some t) (hplain : hasLeading "container:" id = false) (tag : String) :
    g.library.containsFunction t.className tag = false ↔ Vacant built (lowercase tag) := by
  rw [← Bool.not_eq_true, h.containsFunction_iff hg ht hplain, ← not_vacant_iff, not_not]

/-- The names of an element's methods are free if and only if no element that was built has them. -/
theorem free_iff (h : Carries g type built) (hi : Indexed g) (e : NestedElement) (d : TaskDefinition)
    (className : String) :
    (∀ b ∈ g.plan ⟨.owner, type⟩ e.tag d className,
        functionScope ⟨.owner, type⟩ ++ b.funcName ∉ g.functions) ↔
      ∀ b ∈ built, ∀ name ∈ e.methods, name ∉ b.methods := by
  have hscope : functionScope ⟨.owner, type⟩ = type ++ "." := if_pos rfl
  have htaken : ∀ form, type ++ "." ++ e.method form ∈ g.functions ↔
      ∃ b ∈ built, e.method form ∈ b.methods := fun form =>
    (hi.mem_method_iff (e.whole_method form)).trans (h.method_iff hi _)
  have hplan : (∀ b ∈ g.plan ⟨.owner, type⟩ e.tag d className,
      functionScope ⟨.owner, type⟩ ++ b.funcName ∉ g.functions) ↔
      ∀ form, type ++ "." ++ e.method form ∉ g.functions := by
    have hplanned := g.planned_immediate ⟨.owner, type⟩ e.tag d className
    have himmediate : (g.immediate ⟨.owner, type⟩ e.tag d className).funcName = e.method .immediate :=
      hplanned.funcName_eq_method rfl rfl
    have hdeferred : (g.immediate ⟨.owner, type⟩ e.tag d className).toDeferred.funcName =
        e.method .deferred := hplanned.toDeferred.funcName_eq_method rfl rfl
    simp only [plan_eq, List.forall_mem_cons, List.not_mem_nil, false_implies, implies_true, and_true,
      hscope, himmediate, hdeferred]
    refine ⟨fun h form => ?_, fun h => ⟨h .immediate, h .deferred⟩⟩
    cases form with
    | immediate => exact h.1
    | deferred => exact h.2
  rw [hplan]
  constructor
  · rintro hfree b hb name hname hclash
    obtain ⟨form, rfl⟩ := mem_methods_iff.1 hname
    exact hfree form ((htaken form).2 ⟨b, hb, hclash⟩)
  · intro hfree form hmem
    obtain ⟨b, hb, hclash⟩ := (htaken form).1 hmem
    exact hfree b hb _ (mem_methods_iff.2 ⟨form, rfl⟩) hclash

/-- **Rendering the builder of an element adds it to what a type carries, if it suits.** -/
theorem render (h : Carries g t.className built) (hg : Coherent g) (ht : g.resolved.get? id = some t)
    (hplain : hasLeading "container:" id = false) {e : NestedElement} {u : Target} {d : TaskDefinition}
    {path : String} (hbuilds : Builds path e.type u.className d g)
    (hu : g.resolved.get? e.type = some u) (hd : u.definition = some d)
    (hhosts : g.Hosts ⟨.owner, t.className⟩) :
    Carries (g.render path ⟨.owner, t.className⟩ e.tag d u.className) t.className
      (joining g.provider.defines built e) := by
  have hknown : g.provider.defines e.type = true := by
    rw [Provider.defines, hg.truthful.definition e.type u d hu hd]
    rfl
  have hextends := (hbuilds.moves_render e.tag hhosts).extends
  have hvacant := h.containsFunction_eq_false_iff hg ht hplain e.tag
  have hfree := h.free_iff hg.indexed e d u.className
  by_cases hjoins : e.Suits g.provider.defines built ∧ Vacant built (lowercase e.tag)
  · -- the builder is written in both forms
    have hrender : g.render path ⟨.owner, t.className⟩ e.tag d u.className =
        g.build path ⟨.owner, t.className⟩ e.tag d u.className :=
      render_of_free (hvacant.2 hjoins.2) (hfree.2 hjoins.1.2) path
    rw [joining, if_pos hjoins]
    rw [hrender] at hextends ⊢
    obtain ⟨u', hu', hclass, _⟩ := hextends.resolved e.type u hu
    constructor
    · intro b hb hparent
      rcases (mem_decls_build hbuilds.hasFile).1 hb with rfl | rfl | hb
      · exact ⟨e, by simp, rfl, u', hu', hclass.symm⟩
      · exact ⟨e, by simp, rfl, u', hu', hclass.symm⟩
      · obtain ⟨x, hx, htag, v, hv, helement⟩ := h.sound b hb hparent
        obtain ⟨v', hv', hclass', _⟩ := hextends.resolved x.type v hv
        exact ⟨x, List.mem_append_left _ hx, htag, v', hv', hclass' ▸ helement⟩
    · intro x hx form
      rcases List.mem_append.1 hx with hx | hx
      · obtain ⟨b, hb, hrest⟩ := h.complete x hx form
        exact ⟨b, hextends.decls hb, hrest⟩
      · obtain rfl := List.mem_singleton.1 hx
        cases form with
        | immediate =>
          exact ⟨_, (mem_decls_build hbuilds.hasFile).2 (Or.inr (Or.inl rfl)), rfl, rfl, rfl⟩
        | deferred => exact ⟨_, (mem_decls_build hbuilds.hasFile).2 (Or.inl rfl), rfl, rfl, rfl⟩
  · rw [joining, if_neg hjoins]
    refine h.keep hextends fun b hb _ => ?_
    rcases g.render_cases path ⟨.owner, t.className⟩ e.tag d u.className with he | ⟨log, he⟩ | ⟨hnew, hf, _⟩
    · exact he ▸ hb
    · rw [he] at hb
      exact hb
    · exact absurd ⟨⟨hknown, hfree.1 hf⟩, hvacant.1 hnew⟩ hjoins

end Carries

end Generator

end TaskBuilders
