import TaskBuilders.Proofs.Generator.Agreement
import TaskBuilders.Proofs.Generator.Ownership

/-!
# Methods of a wrapper

The methods of a wrapper come from two places: its own block has those that every element of its kind
has, and the builders of nested elements are written one by one. Builders are told apart from each
other, and so are setters, but nothing tells builders from the methods of the block, or the markers of
containers from the methods that mark texts and conditions.

* `WrapperBlock.nodup_methods_iff` — when the methods of a block are different
* `Tabled` — the table of functions has the name of every builder once
* `methodsOn_nodup_iff` — when the methods of a wrapper are different
* `methodsOn_text_clash` — a nested element can take the name of a method of its owner
-/

namespace TaskBuilders

open Naming QualifiedName Source

/-! ## Methods of a block -/

namespace Source.WrapperBlock

variable {w : WrapperBlock}

/-- The methods of a block that its kind decides. -/
def kindMethods (w : WrapperBlock) : List String :=
  ["DSLNode"] ++ (if w.fields.isEmpty then [] else ["ApplyDSLAttrs"])
    ++ (if w.textInterface.isSome then ["IsDSLTextContainer", "AddText"] else [])
    ++ (if w.conditionInterface.isSome then ["IsDSLCondition"] else [])

/-- A block has setters, the methods of its kind and markers. -/
theorem methods_perm (w : WrapperBlock) : w.methods.Perm
    (w.fields.map (·.setter) ++ (w.kindMethods ++ w.markers.map ("Is" ++ ·))) := by
  rw [methods, kindMethods]
  simp only [List.append_assoc]
  exact List.perm_append_comm_assoc _ _ _

theorem nodup_kindMethods (w : WrapperBlock) : w.kindMethods.Nodup := by
  unfold kindMethods
  split <;> split <;> split <;> decide

/-- Neither methods of a kind nor markers begin like setters. -/
theorem head?_ne_of_mem {name : String} (h : name ∈ w.kindMethods ++ w.markers.map ("Is" ++ ·)) :
    name.toList.head? ≠ some 'S' := by
  rcases List.mem_append.1 h with h | h
  · have hkind : ∀ x ∈ w.kindMethods, x.toList.head? ≠ some 'S' := by
      unfold kindMethods
      split <;> split <;> split <;> decide
    exact hkind name h
  · obtain ⟨m, _, rfl⟩ := List.mem_map.1 h
    rw [String.toList_append]
    nofun

/-- The markers that are methods of a kind. -/
theorem marker_mem_kindMethods {m : String} : "Is" ++ m ∈ w.kindMethods ↔
    w.textInterface.isSome ∧ m = "DSLTextContainer" ∨
      w.conditionInterface.isSome ∧ m = "DSLCondition" := by
  have hother : ∀ x : String, x.toList.head? ≠ some 'I' → "Is" ++ m ≠ x := by
    rintro x hx rfl
    rw [String.toList_append] at hx
    exact hx rfl
  have hmarker (x : String) : "Is" ++ m = "Is" ++ x ↔ m = x := String.append_right_inj _
  have htext : "Is" ++ m = "IsDSLTextContainer" ↔ m = "DSLTextContainer" :=
    hmarker "DSLTextContainer"
  have hcondition : "Is" ++ m = "IsDSLCondition" ↔ m = "DSLCondition" := hmarker "DSLCondition"
  have hnode := hother "DSLNode" (by decide)
  have happly := hother "ApplyDSLAttrs" (by decide)
  have hadd := hother "AddText" (by decide)
  unfold kindMethods
  cases w.fields.isEmpty <;> cases w.textInterface.isSome <;> cases w.conditionInterface.isSome <;>
    simp [hnode, happly, hadd, htext, hcondition]

/-- **When the methods of a block are different**: its containers have different names, and none of them
is called like the interface of texts or conditions that the block satisfies as well. -/
theorem nodup_methods_iff (h : (w.fields.map (·.name)).Nodup) : w.methods.Nodup ↔
    w.markers.Nodup ∧ (w.textInterface.isSome → "DSLTextContainer" ∉ w.markers) ∧
      (w.conditionInterface.isSome → "DSLCondition" ∉ w.markers) := by
  have hsetters : (w.fields.map (·.setter)).Nodup := by
    have hmap : w.fields.map (·.setter) = (w.fields.map (·.name)).map ("Set" ++ ·) := by
      rw [List.map_map]; rfl
    rw [hmap]
    exact h.map fun a b he => (String.append_right_inj _).1 he
  have hmarkers : (w.markers.map ("Is" ++ ·)).Nodup ↔ w.markers.Nodup :=
    List.nodup_map_iff fun a b he => (String.append_right_inj _).1 he
  have hapart : (w.fields.map (·.setter)).Disjoint
      (w.kindMethods ++ w.markers.map ("Is" ++ ·)) := by
    intro name hname hrest
    obtain ⟨f, _, rfl⟩ := List.mem_map.1 hname
    refine head?_ne_of_mem hrest ?_
    rw [Field.setter, String.toList_append]
    rfl
  have hkinds : w.kindMethods.Disjoint (w.markers.map ("Is" ++ ·)) ↔
      (w.textInterface.isSome → "DSLTextContainer" ∉ w.markers) ∧
        (w.conditionInterface.isSome → "DSLCondition" ∉ w.markers) := by
    constructor
    · intro hd
      exact ⟨fun ht hm => hd (marker_mem_kindMethods.2 (Or.inl ⟨ht, rfl⟩)) (List.mem_map_of_mem hm),
        fun hc hm => hd (marker_mem_kindMethods.2 (Or.inr ⟨hc, rfl⟩)) (List.mem_map_of_mem hm)⟩
    · rintro ⟨htext, hcondition⟩ name hname hmarker
      obtain ⟨m, hm, rfl⟩ := List.mem_map.1 hmarker
      rcases marker_mem_kindMethods.1 hname with ⟨ht, rfl⟩ | ⟨hc, rfl⟩
      · exact htext ht hm
      · exact hcondition hc hm
  rw [w.methods_perm.nodup_iff, List.nodup_append', List.nodup_append', hmarkers, hkinds]
  exact ⟨fun hn => hn.2.1.2, fun hn => ⟨hsetters, ⟨w.nodup_kindMethods, hn⟩, hapart⟩⟩

end Source.WrapperBlock

namespace Generator

variable {g g' : Generator}

/-! ## Builders have different names -/

/-- The table of functions has the name of every builder once. -/
structure Tabled (g : Generator) : Prop where
  functions : g.functions.Perm (g.decls.map functionKey)
  distinct : g.functions.Nodup

theorem Tabled.of_same (h : Tabled g) (hdecls : g'.decls.Perm g.decls)
    (hfunctions : g'.functions = g.functions) : Tabled g' :=
  ⟨hfunctions ▸ h.functions.trans (hdecls.map _).symm, hfunctions ▸ h.distinct⟩

theorem Tabled.move (h : Tabled g) (hm : Move g g') : Tabled g' := by
  rcases hm.builds with ⟨hdecls, hfunctions⟩ | ⟨path, parent, tag, d, className, hfile, _, _, hfree, rfl⟩
  · exact h.of_same hdecls hfunctions
  · refine ⟨?_, nodup_functions_build h.distinct hfree path⟩
    rw [functions_build]
    have hdecls := (decls_build hfile parent tag d className).map functionKey
    exact ((h.functions.cons _).cons _).trans hdecls.symm

theorem Tabled.load (h : Tabled g) (l : Loading) : Tabled (g.load l) := by
  refine h.of_same ?_ (g.functions_load l)
  rw [decls, builders, blocks, files_load]
  exact .refl _

theorem Tabled.fresh {p : Provider} (h : Fresh p g) : Tabled g := by
  have hdecls : g.decls = [] := by
    rw [decls, builders, blocks, h.files]
    rfl
  exact ⟨by rw [h.functions, hdecls]; exact .nil, by rw [h.functions]; exact .nil⟩

/-! ## Methods of a wrapper -/

/-- The methods of a type: those of the blocks that write it, and the builders that have it for their
receiver. -/
def methodsOn (g : Generator) (type : String) : List String :=
  (g.wrappers.filter (·.ident = type)).flatMap (·.methods)
    ++ (g.builders.filter (·.receiver = some ("o *" ++ type))).map (·.name)

variable {w : WrapperBlock}

/-- One block writes a wrapper. -/
theorem Resident.filter_wrappers (h : Resident g) (hw : w ∈ g.wrappers) :
    g.wrappers.filter (·.ident = w.ident) = [w] := by
  have hsame : g.wrappers.filter (·.ident = w.ident) = g.wrappers.filter (· = w) :=
    List.filter_congr fun v hv => decide_eq_decide.2
      ⟨fun he => h.eq_of_ident hv hw he, fun he => by rw [he]⟩
  rw [hsame, List.filter_eq, List.count_eq_one_of_mem h.sources.of_map hw]
  rfl

/-- The builders on a wrapper have different names. -/
theorem Resident.nodup_builders (h : Resident g) (hmade : WellMade g) (htable : Tabled g)
    (hw : w ∈ g.wrappers) :
    ((g.builders.filter (·.receiver = some ("o *" ++ w.ident))).map (·.name)).Nodup := by
  obtain ⟨ident, hident⟩ := h.wrappers w hw
  have hkeys : (g.builders.map fun b => functionKey b.decl).Nodup := by
    have hdecls := htable.functions.nodup_iff.1 htable.distinct
    rwa [decls, List.map_map] at hdecls
  have hscoped : ((g.builders.filter (·.receiver = some ("o *" ++ w.ident))).map (·.name)).map
      (qualify g.options.importPath ident ++ "." ++ ·) =
      (g.builders.filter (·.receiver = some ("o *" ++ w.ident))).map fun b => functionKey b.decl := by
    rw [List.map_map]
    refine List.map_congr_left fun b hb => ?_
    obtain ⟨hmem, hreceiver⟩ := List.mem_filter.1 hb
    obtain ⟨howner, htype⟩ := h.of_receiver hmade hmem hw hident (of_decide_eq_true hreceiver)
    rw [functionKey, functionScope, if_pos howner, htype]
    rfl
  refine List.Nodup.of_map (qualify g.options.importPath ident ++ "." ++ ·) ?_
  rw [hscoped]
  exact hkeys.sublist (List.filter_sublist.map _)

/-- **When the methods of a wrapper are different.** After any operations over a provider that answers with
definitions of the identifiers it is asked for, no two methods of a wrapper have one name exactly when its
containers have different names, none of them is called like the interface of texts or conditions that the
wrapper satisfies as well, and no builder on the wrapper is called like a method of its block. -/
theorem methodsOn_nodup_iff {p : Provider} {o : GeneratorOptions} {g₀ : Generator} (hp : p.Faithful)
    (hnew : Generator.new p o = .ok g₀) (ops : List Operation) :
    let g := g₀.performAll ops
    ∀ w ∈ g.wrappers, (g.methodsOn w.ident).Nodup ↔
      w.markers.Nodup ∧
      (w.textInterface.isSome → "DSLTextContainer" ∉ w.markers) ∧
      (w.conditionInterface.isSome → "DSLCondition" ∉ w.markers) ∧
      ∀ b ∈ g.builders, b.receiver = some ("o *" ++ w.ident) → b.name ∉ w.methods := by
  intro g w hw
  have hfresh := fresh_of_new hnew
  have hfaithful : g₀.provider.Faithful := hfresh.provider ▸ hp.safe
  have hresident : Resident g := keeps_performAll (fun _ _ hm h => h.move hm) ops g₀ hfaithful
    (fun l _ _ h => h.load l) (.fresh hfresh)
  have htable : Tabled g := keeps_performAll (fun _ _ hm h => h.move hm) ops g₀ hfaithful
    (fun l _ _ h => h.load l) (.fresh hfresh)
  have hmade : WellMade g := keeps_performAll_of_steps (fun _ _ hm h => h.step hm) ops g₀
    (fun l _ _ h => h.load l) (.fresh hfresh)
  have hfields : (w.fields.map (·.name)).Nodup := hmade.block (wrapper_mem_blocks hw)
  have happart : w.methods.Disjoint
      ((g.builders.filter (·.receiver = some ("o *" ++ w.ident))).map (·.name)) ↔
      ∀ b ∈ g.builders, b.receiver = some ("o *" ++ w.ident) → b.name ∉ w.methods := by
    simp only [List.disjoint_right, List.forall_mem_map, List.mem_filter, decide_eq_true_iff, and_imp]
  rw [methodsOn, hresident.filter_wrappers hw, List.flatMap_singleton, List.nodup_append', happart,
    WrapperBlock.nodup_methods_iff hfields]
  have hbuilders := hresident.nodup_builders hmade htable hw
  exact ⟨fun hn => ⟨hn.1.1, hn.1.2.1, hn.1.2.2, hn.2.2⟩,
    fun hn => ⟨⟨hn.1, hn.2.1, hn.2.2.1⟩, hbuilders, hn.2.2.2⟩⟩

/-- A text whose items have the tag of the method that adds texts, and lists of such items. -/
def noteTypes : List TaskDefinition :=
  [{ id := "x.Note", textContainer := true, nested := [⟨"addText", "x.Item"⟩] },
   { id := "x.Item" },
   { id := "x.List", nested := [⟨"item", "x.Item"⟩] }]

theorem methodsOn_nodup_iff_noteTypes :
    (Provider.static noteTypes).Faithful ∧
    ∃ base g₀,
      Generator.new (.static noteTypes) { importPath := "m/lib", runtimePath := "m/rt" } = .ok base ∧
      Generator.new (.static noteTypes) { importPath := "m/out", runtimePath := "m/rt" } = .ok g₀ ∧
      let g := g₀.performAll
        [.load (.byName (base.serve (.resolve "x.Item")).library), .request (.resolve "x.List")]
      g.wrappers.map (·.ident) = ["DSLList"] ∧ ∀ w ∈ g.wrappers, (g.methodsOn w.ident).Nodup := by
  have hp := Provider.faithful_static noteTypes
  refine ⟨hp, _, _, rfl, rfl, by decide +kernel, fun w hw => ?_⟩
  refine (methodsOn_nodup_iff (o := { importPath := "m/out", runtimePath := "m/rt" }) hp rfl _ w hw).2 ?_
  revert w
  decide +kernel

/-- The methods are not always different. -/
theorem methodsOn_text_clash :
    (Provider.static noteTypes).Faithful ∧
    ∃ g₀, Generator.new (.static noteTypes) { importPath := "m/out", runtimePath := "m/rt" } = .ok g₀ ∧
      let g := g₀.performAll [.request (.resolve "x.Note")]
      (∃ w ∈ g.wrappers, w.ident = "DSLNote") ∧ ¬ (g.methodsOn "DSLNote").Nodup := by
  refine ⟨Provider.faithful_static noteTypes, _, rfl, ?_⟩
  decide +kernel

end Generator

end TaskBuilders
