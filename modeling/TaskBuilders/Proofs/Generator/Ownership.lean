import TaskBuilders.Proofs.Generator.Loading
import TaskBuilders.Proofs.Generator.Written
import TaskBuilders.Proofs.Naming.History
import TaskBuilders.Proofs.Source.Package

/-!
# Methods on wrappers

A type of a loaded library has its class in that library, and its methods cannot be written elsewhere.
Builders that are methods go to types whose wrappers were written, under names that belong to these
types. So no two wrappers have the same name, and a method tells its wrapper by its receiver.

* `asks_step`, `asks_load` — names change by requests to the namer only
* `WellMade` — every block is made in a file of the output package
* `Resident` — methods go to wrappers, and wrappers are called after the names of their types
* `Resident.eq_of_ident` — wrappers with one name are the same
* `Resident.receiver_eq` — the receiver of a method is a wrapper that was written
-/

namespace TaskBuilders

open Naming QualifiedName Source

/-! ## Names can be told from their qualified forms -/

namespace Naming.Namer

variable {n : Namer}

/-- All names can be told from their qualified forms. -/
def UndividedNames (n : Namer) : Prop :=
  ∀ key ident, n.names.get? key = some ident → Undivided ident

theorem undividedNames_new (package sourceRoot : String) :
    (new package sourceRoot).UndividedNames := by
  intro key ident h
  cases h

theorem UndividedNames.assign (h : n.UndividedNames) {ident : String} (hident : Undivided ident)
    (key : String) : (n.assign key ident).UndividedNames := by
  intro k i hk
  rcases Dict.get?_insert_cases hk with ⟨rfl, rfl⟩ | hk
  · exact hident
  · exact h k i hk

theorem UndividedNames.mint (h : n.UndividedNames) (key source : String) {s : String}
    (hs : Undivided s) : (n.mint key (marker ++ s) source).2.UndividedNames := by
  unfold Namer.mint
  split
  · exact h
  · exact h.assign (n.typical_choose key source hs).1 key

theorem UndividedNames.claimKey (h : n.UndividedNames) (key qualified : String) :
    (n.claimKey key qualified).2.UndividedNames := by
  unfold Namer.claimKey
  dsimp only
  split
  · exact h
  · exact h.assign (undivided_identOf qualified) key

theorem UndividedNames.serve (h : n.UndividedNames) (r : NameRequest) :
    (n.serve r).2.UndividedNames := by
  cases r with
  | result id => exact h.mint id id (undivided_simpleName id)
  | container id =>
    have hmint := h.mint (containerKey id) (if id = "" then containerKey id else id)
      (undivided_simpleName_container id)
    rw [← String.append_assoc] at hmint
    exact hmint
  | claim id qualified => exact h.claimKey id qualified
  | claimContainer id qualified => exact h.claimKey (containerKey id) qualified

theorem UndividedNames.after (h : n.UndividedNames) (rs : List NameRequest) :
    (n.after rs).UndividedNames := by
  induction rs generalizing n with
  | nil => exact h
  | cons r rs ih => exact ih (h.serve r)

end Naming.Namer

namespace Generator

variable {g g' : Generator}

/-! ## Names change by requests -/

/-- The namer of `g'` is the namer of `g` after some requests. -/
def Asks (g g' : Generator) : Prop := ∃ rs, g'.namer = g.namer.after rs

theorem Asks.of_same (h : g'.namer = g.namer) : Asks g g' := ⟨[], h⟩

theorem Asks.containerName (h : Asks g g') (id : String) : Asks g (g'.containerName id).2 := by
  cases hid : g'.containerNames.get? id with
  | some name => rw [containerName_of_some hid]; exact h
  | none =>
    obtain ⟨rs, hrs⟩ := h
    rw [containerName_of_none hid]
    refine ⟨rs ++ [.container id], ?_⟩
    rw [Namer.after_append, ← hrs]
    rfl

theorem asks_openTarget (g : Generator) (d : TaskDefinition) : Asks g (g.openTarget d).2 := by
  have hnamed : Asks g (g.nameTarget d).2.2 :=
    nameTarget_keeps (I := Asks g) ⟨[.result d.id], rfl⟩ fun _ id h => h.containerName id
  rwa [Asks, (g.openTarget_names d).2]

/-- A step changes names by requests only. -/
theorem asks_step (hm : Step g g') : Asks g g' := by
  cases hm with
  | note _ _ _ | openContainer _ | define _ _ | place _ => exact .of_same rfl
  | nameContainer id => exact Asks.containerName (.of_same rfl) id
  | openTarget _ => exact g.asks_openTarget _
  | build path parent tag d className =>
    exact .of_same (sameBeyondBuilders_build g path parent tag d className).namer

theorem after_pinClasses (cs : List StructureClass) (n : Namer) :
    ∃ rs, cs.foldl pinClass n = n.after rs := by
  induction cs generalizing n with
  | nil => exact ⟨[], rfl⟩
  | cons c cs ih =>
    obtain ⟨rs, hrs⟩ := ih (pinClass n c)
    rw [List.foldl_cons, hrs]
    cases hkey : c.key? with
    | none => exact ⟨rs, by rw [pinClass, hkey]; rfl⟩
    | some key => exact ⟨.claim key c.name :: rs, by rw [pinClass, hkey]; rfl⟩

/-- Loading changes names by requests only. -/
theorem asks_load (g : Generator) (l : Loading) : Asks g (g.load l) := by
  cases h : g.samePackage l with
  | true =>
    rw [load_of_own h]
    exact after_pinClasses l.library.listing g.namer
  | false => exact .of_same (adopts_load h).namer

/-! ## Files of the output package -/

/-- All files are files of the output package, and all blocks are made in such files. -/
def WellMade (g : Generator) : Prop :=
  g.EachFile fun _ f => f.imports.self = g.options.importPath ∧
    ∀ b ∈ f.blocks, Emitter.WellMade g.options.importPath b

theorem WellMade.step (h : WellMade g) (hm : Step g g') : WellMade g' := by
  rw [WellMade, options_step hm]
  refine EachFile.step h hm (fun _ _ => ⟨rfl, fun _ hb => (List.not_mem_nil hb).elim⟩)
    fun _ f make hmake ⟨hself, hblocks⟩ => ?_
  obtain ⟨hmade, hself'⟩ := hmake.yields _ f.imports hself
  refine ⟨hself', fun b hb => ?_⟩
  rcases List.mem_append.1 hb with hb | hb
  · exact hblocks b hb
  · obtain rfl := List.mem_singleton.1 hb
    exact hmade

theorem WellMade.load (h : WellMade g) (l : Loading) : WellMade (g.load l) := by
  rw [WellMade, EachFile, files_load, options_load]
  exact h

theorem WellMade.fresh {p : Provider} (h : Fresh p g) : WellMade g := by
  intro path f hf
  rw [h.files] at hf
  cases hf

theorem WellMade.block (h : WellMade g) {b : Block} (hb : b ∈ g.blocks) :
    Emitter.WellMade g.options.importPath b := by
  obtain ⟨f, hf, hb⟩ := List.mem_flatMap.1 hb
  obtain ⟨path, hpath⟩ := (Dict.mem_values_iff _ _).1 hf
  exact (h path f hpath).2 b hb

/-! ## Wrappers and their types -/

/-- A wrapper of a type whose class is called `ident` in the output package, a name that belongs to the
type. -/
structure Bears (g : Generator) (w : WrapperBlock) (ident : String) : Prop where
  resolved : ∃ t, g.resolved.get? w.source = some t ∧
    t.className = qualify g.options.importPath ident
  owner : g.namer.owners.get? ident = some w.source
  undivided : Undivided ident
  named : w.ident = identOf (qualify g.options.importPath ident)

/-- The classes of `g` are classes of `g'`. -/
def KeepsClasses (g g' : Generator) : Prop :=
  ∀ id t, g.resolved.get? id = some t →
    ∃ t', g'.resolved.get? id = some t' ∧ t'.className = t.className

theorem Bears.keep {w : WrapperBlock} {ident : String} (h : g.Bears w ident)
    (hoptions : g'.options = g.options) (hasks : Asks g g') (hclasses : KeepsClasses g g') :
    g'.Bears w ident := by
  obtain ⟨t, ht, hclass⟩ := h.resolved
  obtain ⟨t', ht', hclass'⟩ := hclasses _ t ht
  obtain ⟨rs, hrs⟩ := hasks
  refine ⟨⟨t', ht', by rw [hclass', hclass, hoptions]⟩, ?_, h.undivided, by rw [hoptions, h.named]⟩
  rw [hrs]
  exact Namer.get?_owners_after h.owner rs

/-- Methods go to wrappers, and wrappers are called after the names of their types. -/
structure Resident (g : Generator) : Prop where
  importPath : g.options.importPath ≠ ""
  package : g.namer.package = g.options.importPath
  undivided : g.namer.UndividedNames
  owned : g.namer.Owned
  sources : (g.wrappers.map (·.source)).Nodup
  wrappers : ∀ w ∈ g.wrappers, ∃ ident, g.Bears w ident
  methods : ∀ b ∈ g.builders, b.decl.parent.kind = .owner → ∃ w ∈ g.wrappers, ∃ ident,
    g.Bears w ident ∧ b.decl.parent.type = qualify g.options.importPath ident

/-- An opened target has the name that its type is given. -/
theorem names_openTarget (g : Generator) (d : TaskDefinition) :
    (g.openTarget d).2.namer.names.get? d.id =
      some (g.namer.mint d.id (marker ++ simpleName d.id) d.id).1 := by
  rw [(g.openTarget_names d).2]
  exact nameTarget_keeps (I := fun g' => g'.namer.names.get? d.id = some _)
    (Namer.get?_names_mint_self _ _ _ _) fun _ id h => names_containerName_of_some id h

namespace Resident

variable {w v : WrapperBlock}

/-- Wrappers with one name are the same. -/
theorem eq_of_ident (h : Resident g) (hw : w ∈ g.wrappers) (hv : v ∈ g.wrappers)
    (he : w.ident = v.ident) : w = v := by
  obtain ⟨i, hi⟩ := h.wrappers w hw
  obtain ⟨j, hj⟩ := h.wrappers v hv
  rw [hi.named, hj.named] at he
  obtain rfl := identOf_qualify_inj h.importPath hi.undivided hj.undivided he
  have hsource : w.source = v.source := Option.some.inj (hi.owner.symm.trans hj.owner)
  exact List.inj_on_of_nodup_map h.sources hw hv hsource

/-- Builders on hosts that are wrappers are methods of wrappers. -/
theorem of_hosts (h : Resident g) {parent : Parent} (hp : g.Hosts parent)
    (howner : parent.kind = .owner) : ∃ w ∈ g.wrappers, ∃ ident, g.Bears w ident ∧
      parent.type = qualify g.options.importPath ident := by
  cases hp with
  | root => cases howner
  | container _ _ => cases howner
  | @owner w t hw ht =>
    obtain ⟨ident, hident⟩ := h.wrappers w hw
    obtain ⟨t', ht', hclass⟩ := hident.resolved
    obtain rfl := Option.some.inj (ht.symm.trans ht')
    exact ⟨w, hw, ident, hident, hclass⟩

/-- A state with the same wrappers, in which builders are new only where they have a host. -/
theorem keep (h : Resident g) (hoptions : g'.options = g.options) (hasks : Asks g g')
    (hclasses : KeepsClasses g g') (hwrappers : g'.wrappers.Perm g.wrappers)
    (hbuilders : ∀ b ∈ g'.builders, b ∈ g.builders ∨ g.Hosts b.decl.parent) : Resident g' := by
  have hbears : ∀ {w ident}, g.Bears w ident → g'.Bears w ident :=
    fun hb => hb.keep hoptions hasks hclasses
  obtain ⟨rs, hrs⟩ := hasks
  refine ⟨by rw [hoptions]; exact h.importPath, ?_, hrs ▸ h.undivided.after rs,
    hrs ▸ h.owned.after rs, (hwrappers.map _).nodup_iff.2 h.sources, fun w hw => ?_,
    fun b hb howner => ?_⟩
  · rw [hrs, Namer.package_after, hoptions, h.package]
  · obtain ⟨ident, hident⟩ := h.wrappers w (hwrappers.subset hw)
    exact ⟨ident, hbears hident⟩
  · have hmethod : ∃ w ∈ g.wrappers, ∃ ident, g.Bears w ident ∧
        b.decl.parent.type = qualify g.options.importPath ident := by
      rcases hbuilders b hb with hb | hhosts
      · exact h.methods b hb howner
      · exact h.of_hosts hhosts howner
    obtain ⟨w, hw, ident, hident, htype⟩ := hmethod
    exact ⟨w, hwrappers.symm.subset hw, ident, hbears hident, by rw [hoptions, htype]⟩

/-- Opening a target writes a wrapper that bears the name of its type. -/
theorem openTarget (h : Resident g) {d : TaskDefinition} (hnew : g.resolved.get? d.id = none) :
    Resident (g.openTarget d).2 := by
  obtain ⟨w, ⟨hsource, hident, _⟩, hperm⟩ := g.blocks_openTarget d
  obtain ⟨path, hresolved⟩ := g.resolved_openTarget d
  have hoptions := (g.openTarget_names d).1
  have hclasses : KeepsClasses g (g.openTarget d).2 := by
    intro id t ht
    have hne : id ≠ d.id := by
      rintro rfl
      rw [hnew] at ht
      cases ht
    exact ⟨t, by rw [hresolved, Dict.get?_insert_of_ne _ _ hne, ht], rfl⟩
  have hbears : ∀ {v ident}, g.Bears v ident → (g.openTarget d).2.Bears v ident :=
    fun hb => hb.keep hoptions (g.asks_openTarget d) hclasses
  obtain ⟨rs, hrs⟩ := g.asks_openTarget d
  have howned := hrs ▸ h.owned.after rs
  have hundivided := hrs ▸ h.undivided.after rs
  have hwrappers : (g.openTarget d).2.wrappers.Perm (w :: g.wrappers) :=
    hperm.filterMap Block.wrapper?
  have hbuilders : (g.openTarget d).2.builders.Perm g.builders := hperm.filterMap Block.builder?
  refine ⟨by rw [hoptions]; exact h.importPath, ?_, hundivided, howned, ?_, fun v hv => ?_,
    fun b hb howner => ?_⟩
  · rw [hrs, Namer.package_after, hoptions, h.package]
  · -- the other wrappers are those of types that were resolved before
    refine (hwrappers.map _).nodup_iff.2 (List.nodup_cons.2 ⟨fun hmem => ?_, h.sources⟩)
    obtain ⟨v, hv, he⟩ := List.mem_map.1 hmem
    obtain ⟨i, hi⟩ := h.wrappers v hv
    obtain ⟨t, ht, _⟩ := hi.resolved
    have hsame : v.source = d.id := he.trans hsource
    rw [hsame, hnew] at ht
    cases ht
  · rcases List.mem_cons.1 (hwrappers.subset hv) with rfl | hv
    · have hname := g.names_openTarget d
      refine ⟨_, ⟨⟨_, by rw [hresolved, hsource]; exact Dict.get?_insert_self _ _ _, ?_⟩, ?_,
        hundivided _ _ hname, ?_⟩⟩
      · rw [hoptions, ← h.package]
        rfl
      · rw [hsource]
        exact howned _ _ hname
      · rw [hident, hoptions, ← h.package]
        rfl
    · obtain ⟨ident, hi⟩ := h.wrappers v hv
      exact ⟨ident, hbears hi⟩
  · obtain ⟨v, hv, ident, hi, htype⟩ := h.methods b (hbuilders.subset hb) howner
    exact ⟨v, hwrappers.symm.subset (List.mem_cons_of_mem w hv), ident, hbears hi,
      by rw [hoptions, htype]⟩

/-- Every move keeps methods on wrappers. -/
theorem move (h : Resident g) (hm : Move g g') : Resident g' := by
  have hoptions := hm.extends.options
  have hasks := asks_step hm.step
  have hclasses : KeepsClasses g g' := by
    intro id t ht
    obtain ⟨t', ht', hclass, _⟩ := hm.extends.resolved id t ht
    exact ⟨t', ht', hclass⟩
  have hkeep : g'.wrappers.Perm g.wrappers → g'.builders.Perm g.builders → Resident g' :=
    fun hw hb => h.keep hoptions hasks hclasses hw fun b hmem => Or.inl (hb.subset hmem)
  cases hm with
  | note _ _ | miss _ _ _ | define _ _ _ => exact hkeep (.refl _) (.refl _)
  | nameContainer id =>
    have hblocks := g.blocks_containerName id
    exact hkeep (.of_eq (by rw [Generator.wrappers, hblocks, Generator.wrappers]))
      (.of_eq (by rw [builders, hblocks, builders]))
  | @openContainer id name _ _ _ =>
    obtain ⟨c, _, hperm⟩ := g.blocks_openContainer id name
    exact hkeep (hperm.filterMap Block.wrapper?) (hperm.filterMap Block.builder?)
  | openTarget hnew _ => exact h.openTarget hnew
  | @place _ t _ =>
    have hperm := g.blocks_ensureFile (g.targetPath t) t.id
    exact hkeep (hperm.filterMap Block.wrapper?) (hperm.filterMap Block.builder?)
  | @build path parent tag _ t d hfile hhosts _ _ _ _ =>
    obtain ⟨i, f, hi, hf, hperm⟩ := blocks_build hfile parent tag d t.className
    refine h.keep hoptions hasks hclasses (hperm.filterMap Block.wrapper?) fun b hb => ?_
    have hb : b ∈ f :: i :: g.builders := (hperm.filterMap Block.builder?).subset hb
    -- both forms have the host for a parent
    rcases List.mem_cons.1 hb with rfl | hb
    · rw [hf.1]; exact Or.inr hhosts
    · rcases List.mem_cons.1 hb with rfl | hb
      · rw [hi.1]; exact Or.inr hhosts
      · exact Or.inl hb

theorem load (h : Resident g) (l : Loading) : Resident (g.load l) := by
  have hclasses : KeepsClasses g (g.load l) := by
    intro id t ht
    cases hsame : g.samePackage l with
    | true => rw [load_of_own hsame]; exact ⟨t, ht, rfl⟩
    | false => exact ⟨t, (adopts_load hsame).kept id t ht, rfl⟩
  have hblocks : (g.load l).blocks = g.blocks := by rw [blocks, blocks, files_load]
  refine h.keep (g.options_load l) (g.asks_load l) hclasses ?_ fun b hb => Or.inl ?_
  · rw [Generator.wrappers, hblocks, Generator.wrappers]
  · rwa [builders, hblocks] at hb

theorem fresh {p : Provider} (h : Fresh p g) : Resident g := by
  have hblocks : g.blocks = [] := by rw [blocks, h.files]; rfl
  have hwrappers : g.wrappers = [] := by rw [Generator.wrappers, hblocks]; rfl
  have hbuilders : g.builders = [] := by rw [builders, hblocks]; rfl
  refine ⟨h.importPath, by rw [h.namer]; rfl, h.namer ▸ Namer.undividedNames_new _ _,
    h.namer ▸ Namer.owned_new _ _, by rw [hwrappers]; exact .nil,
    by rw [hwrappers]; exact fun _ hw => (List.not_mem_nil hw).elim,
    by rw [hbuilders]; exact fun _ hb => (List.not_mem_nil hb).elim⟩

/-! ### Receivers -/

/-- A class of the output package needs no import in its files. -/
theorem not_foreign {package ident : String} (hp : package ≠ "") (h : Undivided ident) :
    ¬ ImportTable.Foreign package (qualify package ident) := by
  rintro ⟨hne, hother⟩
  rw [qualify_of_ne hp, packageOf] at hne hother
  by_cases hwhole : Whole ident
  · rw [parse_append_dot hwhole] at hother
    exact hother rfl
  · rw [parse_of_undivided (undivided_append_dot h hwhole package)] at hne
    exact hne rfl

/-- **The receiver of a method is a wrapper that was written.** -/
theorem receiver_eq (h : Resident g) (hmade : WellMade g) {b : BuilderBlock} (hb : b ∈ g.builders)
    (howner : b.decl.parent.kind = .owner) : ∃ w ∈ g.wrappers, ∃ ident, g.Bears w ident ∧
      b.decl.parent.type = qualify g.options.importPath ident ∧
      b.receiver = some ("o *" ++ w.ident) := by
  obtain ⟨w, hw, ident, hident, htype⟩ := h.methods b hb howner
  obtain ⟨parentType, hreceiver, hparent⟩ := hmade.block (builder_mem_blocks hb)
  rw [htype] at hparent
  refine ⟨w, hw, ident, hident, htype, ?_⟩
  rw [hreceiver, hparent (not_foreign h.importPath hident.undivided), Emitter.receiver,
    if_pos howner, hident.named]

/-- A builder with a wrapper for its receiver is a method of the wrapper's class. -/
theorem of_receiver (h : Resident g) (hmade : WellMade g) {b : BuilderBlock} (hb : b ∈ g.builders)
    (hw : w ∈ g.wrappers) {ident : String} (hident : g.Bears w ident)
    (hreceiver : b.receiver = some ("o *" ++ w.ident)) : b.decl.parent.kind = .owner ∧
      b.decl.parent.type = qualify g.options.importPath ident := by
  have howner : b.decl.parent.kind = .owner := by
    obtain ⟨parentType, hmade, _⟩ := hmade.block (builder_mem_blocks hb)
    refine Decidable.byContradiction fun hne => ?_
    rw [hreceiver, Emitter.receiver, if_neg hne] at hmade
    cases hmade
  obtain ⟨v, hv, i, hi, htype, hv'⟩ := h.receiver_eq hmade hb howner
  have he : w.ident = v.ident :=
    (String.append_right_inj _).1 (Option.some.inj (hreceiver.symm.trans hv'))
  obtain rfl := h.eq_of_ident hw hv he
  obtain ⟨t, ht, hclass⟩ := hident.resolved
  obtain ⟨u, hu, hclass'⟩ := hi.resolved
  obtain rfl := Option.some.inj (ht.symm.trans hu)
  exact ⟨howner, by rw [htype, ← hclass', hclass]⟩

end Resident

end Generator

end TaskBuilders
