import TaskBuilders.Proofs.Generator.Registration

/-!
# Builders for a tag

Writing the builders that produce a type goes from parent to parent: the root container first, if the type
may stand there, and then the containers of its capabilities, which are opened when their turn comes. A
parent may find a name taken that an earlier one has used.

* `turns` — the parents in their order, each with the state that it finds
* `Confined` — what one tag adds, and under which classes
* `complete_of_turn` — a parent gets a builder, or a name is taken, or its class is not there
* `constructors_complete_and_confined` — what holds after all turns
* `constructors_lose_builder` — an output package that is the configured runtime package
-/

namespace TaskBuilders

open Text

namespace Generator

variable {g g' g'' : Generator} {path tag : String} {t : Target} {d : TaskDefinition}

/-! ## Turns -/

/-- The turns of the containers of capabilities, each with the state that it finds. -/
def containerTurns (path : String) (t : Target) (d : TaskDefinition) (tag : String) :
    List String → Generator → List (Parent × Generator)
  | [], _ => []
  | c :: cs, g =>
    let rest := containerTurns path t d tag cs (renderInContainer path t d tag g c)
    if g.needsContainer c then
      let (name, h) := (g.resolveContainer c).containerName c
      (⟨.container, name⟩, h) :: rest
    else rest

/-- The turns of all parents under which builders for a tag produce a resolved type. -/
def turns (g : Generator) (id : String) (t : Target) (d : TaskDefinition) (tag : String)
    (topLevel : Bool) : List (Parent × Generator) :=
  let placed := g.placeTarget id t
  let root : Parent := ⟨.root, placed.rootContainer⟩
  if topLevel && d.topLevel then
    (root, placed) :: containerTurns (g.targetPath t) { t with id } d tag d.capabilities
      (placed.render (g.targetPath t) root tag d t.className)
  else containerTurns (g.targetPath t) { t with id } d tag d.capabilities placed

/-- The parents under which builders produce a definition, by the names that their containers have. -/
def parents (g : Generator) (d : TaskDefinition) (topLevel : Bool) : List Parent :=
  (if topLevel && d.topLevel then [⟨.root, g.rootContainer⟩] else []) ++
    (d.capabilities.filter g.needsContainer).map fun c => ⟨.container, (g.containerName c).1⟩

theorem renderInContainer_of_needed {c : String} (h : g.needsContainer c = true) :
    renderInContainer path t d tag g c =
      ((g.resolveContainer c).containerName c).2.render path
        ⟨.container, ((g.resolveContainer c).containerName c).1⟩ tag d t.className := by
  simp [renderInContainer, h]

theorem generateConstructors_of_some {id : String} (ht : g.resolved.get? id = some t)
    (hd : t.definition = some d) (tag : String) (topLevel : Bool) :
    g.generateConstructors id tag topLevel =
      d.capabilities.foldl (renderInContainer (g.targetPath t) { t with id } d tag)
        (if topLevel && d.topLevel then
          (g.placeTarget id t).render (g.targetPath t) ⟨.root, (g.placeTarget id t).rootContainer⟩ tag d
            t.className
        else g.placeTarget id t) := by
  simp [generateConstructors, ht, hd]

theorem resolveContainer_cases (g : Generator) (c : String) : g.resolveContainer c = g ∨
    g.resolveContainer c = (g.containerName c).2.openContainer c (g.containerName c).1 := by
  unfold resolveContainer
  split
  · exact Or.inl rfl
  · exact Or.inr rfl

/-! ## What stays -/

theorem needsContainer_step (h : Step g g') (c : String) :
    g'.needsContainer c = g.needsContainer c := by
  rw [needsContainer, options_step h, needsContainer]

theorem needsContainer_steps (h : Steps g g') (c : String) :
    g'.needsContainer c = g.needsContainer c := by
  induction h with
  | refl => rfl
  | tail _ hm ih => rw [needsContainer_step hm, ih]

/-- A container keeps its name. -/
theorem get?_containerNames_step {c name : String} (hc : g.containerNames.get? c = some name)
    (h : Step g g') : g'.containerNames.get? c = some name := by
  cases h with
  | note _ _ _ | openContainer _ | define _ _ | place _ => exact hc
  | nameContainer id => exact get?_containerName_of_some id hc
  | @openTarget _ d _ =>
    rw [openTarget_eq, containerNames_enterTarget]
    exact nameTarget_keeps (I := fun g => g.containerNames.get? c = some name) hc
      fun _ id hg => get?_containerName_of_some id hg
  | build path parent tag d className =>
    rw [(sameBeyondBuilders_build g path parent tag d className).containerNames]
    exact hc

theorem containerName_steps {c name : String} (hc : g.containerNames.get? c = some name)
    (h : Steps g g') : (g'.containerName c).1 = name := by
  rw [containerName_of_some (h.keeps (fun _ _ hm hg => get?_containerNames_step hg hm) hc)]

/-! ## Parents at their turns -/

/-- A parent has its turn on the way from `g` to `g'`. It finds that it is the root container, or the
container of a capability that is done. -/
structure HasTurn (path : String) (t : Target) (d : TaskDefinition) (tag : String) (g g' : Generator)
    (turn : Parent × Generator) : Prop where
  before : Steps g turn.2
  after : Steps (turn.2.render path turn.1 tag d t.className) g'
  hosts : turn.1 = ⟨.root, turn.2.rootContainer⟩ ∨ turn.1.kind = .container ∧
    ∃ c ∈ turn.2.containersDone, turn.2.containerNames.get? c = some turn.1.type

theorem steps_foldl_renderInContainer (cs : List String) (g : Generator) :
    Steps g (cs.foldl (renderInContainer path t d tag) g) :=
  steps_foldl (steps_renderInContainer path t d tag) cs g

theorem hasTurn_head {c : String} (h : g.needsContainer c = true) (cs : List String) :
    HasTurn path t d tag g ((c :: cs).foldl (renderInContainer path t d tag) g)
      (⟨.container, ((g.resolveContainer c).containerName c).1⟩,
        ((g.resolveContainer c).containerName c).2) where
  before := (g.steps_resolveContainer c).tail (.nameContainer _ c)
  after := by
    rw [List.foldl_cons, renderInContainer_of_needed h]
    exact steps_foldl_renderInContainer cs _
  hosts := by
    have hdone : c ∈ ((g.resolveContainer c).containerName c).2.containersDone := by
      rw [(sameBeyondNames_containerName _ c).containersDone]
      exact mem_containersDone_resolveContainer h
    exact Or.inr ⟨rfl, c, hdone, get?_containerName_self _ c⟩

theorem hasTurn_of_mem_containerTurns : ∀ (cs : List String) (g : Generator)
    {turn : Parent × Generator}, turn ∈ containerTurns path t d tag cs g →
    HasTurn path t d tag g (cs.foldl (renderInContainer path t d tag) g) turn
  | [], _, _, hturn => (List.not_mem_nil hturn).elim
  | c :: cs, g, turn, hturn => by
    have hlater : turn ∈ containerTurns path t d tag cs (renderInContainer path t d tag g c) →
        HasTurn path t d tag g ((c :: cs).foldl (renderInContainer path t d tag) g) turn := by
      intro hturn
      have h := hasTurn_of_mem_containerTurns cs _ hturn
      exact ⟨(steps_renderInContainer path t d tag g c).trans h.before, h.after, h.hosts⟩
    rw [containerTurns] at hturn
    split at hturn
    · next hneeded =>
      rcases List.mem_cons.1 hturn with rfl | hturn
      · exact hasTurn_head hneeded cs
      · exact hlater hturn
    · exact hlater hturn

/-- The containers that get a turn are those of the capabilities that need one, in their order. -/
theorem map_containerTurns : ∀ (cs : List String) (g : Generator) {g' : Generator},
    Steps (cs.foldl (renderInContainer path t d tag) g) g' →
    (containerTurns path t d tag cs g).map Prod.fst =
      (cs.filter g'.needsContainer).map fun c => ⟨.container, (g'.containerName c).1⟩
  | [], _, _, _ => rfl
  | c :: cs, g, g', h => by
    have hrest := map_containerTurns cs (renderInContainer path t d tag g c) h
    have hneeds := needsContainer_steps ((steps_foldl_renderInContainer (c :: cs) g).trans h) c
    rw [containerTurns, List.filter_cons, hneeds]
    split
    · next hneeded =>
      have hturn : HasTurn path t d tag g _ _ := hasTurn_head hneeded cs
      have hname := containerName_steps (get?_containerName_self _ c)
        (((steps_render (fun _ => ⟨c, get?_containerName_self _ c⟩) path tag d t.className).trans
          hturn.after).trans h)
      simp [hrest, hname]
    · exact hrest

/-! ## What a tag adds -/

/-- Outside of some classes nothing changes, and in them only builders for the tag are new, which make
the class `className`. -/
structure Confined (P : String → Prop) (tag className : String) (g g' : Generator) : Prop where
  classes : ∀ name, ¬ P name → g'.library.class? name = g.library.class? name
  functions : ∀ name key f, g'.library.functionAt? name key = some f →
    g.library.functionAt? name key = some f ∨
      P name ∧ key = lowercase tag ∧ f.name = tag ∧ f.initReceiver = className

namespace Confined

variable {P Q : String → Prop} {className : String}

theorem of_library (h : g'.library = g.library) : Confined P tag className g g' :=
  ⟨fun _ _ => by rw [h], fun _ _ _ hf => Or.inl (h ▸ hf)⟩

theorem trans (h : Confined P tag className g g') (h' : Confined P tag className g' g'') :
    Confined P tag className g g'' where
  classes := fun name hname => (h'.classes name hname).trans (h.classes name hname)
  functions := fun name key f hf => by
    rcases h'.functions name key f hf with hf | hnew
    · exact h.functions name key f hf
    · exact Or.inr hnew

theorem mono (h : Confined P tag className g g') (hPQ : ∀ name, P name → Q name) :
    Confined Q tag className g g' :=
  ⟨fun name hname => h.classes name fun hp => hname (hPQ name hp),
    fun name key f hf => (h.functions name key f hf).imp_right fun hnew => ⟨hPQ name hnew.1, hnew.2⟩⟩

/-- A class that is registered without builders. -/
theorem register (c : StructureClass) (hc : c.functions = ∅) (hlibrary : g'.library = g.library.register c)
    (hP : P c.name) : Confined P tag className g g' where
  classes := by
    intro name hname
    have hne : name ≠ c.name := fun he => hname (he ▸ hP)
    rw [hlibrary, Structure.class?_register, if_neg hne]
  functions := by
    intro name key f hf
    rw [hlibrary, Structure.functionAt?_register hc] at hf
    exact Or.inl hf

end Confined

theorem confined_declare {P : String → Prop} {parent : Parent} (hP : P parent.type) (g : Generator)
    (tag : String) (attrs : List AttributeDescriptor) (className : String) :
    Confined P tag className g (g.declare parent tag attrs className) := by
  rcases g.declare_cases parent tag attrs className with ⟨s', hadd, h⟩ | ⟨_, _, h⟩
  · obtain ⟨hclass, hnew⟩ := Structure.of_addFunction hadd
    obtain ⟨s'', hs'', _, hat⟩ := Structure.addFunction_of_new hclass hnew (builderName parent tag)
      g.options.importPath attrs className
    obtain rfl := Except.ok.inj (hadd.symm.trans hs'')
    rw [h]
    refine ⟨fun name hname => ?_, fun name key f hf => ?_⟩
    · have hne : name ≠ parent.type := fun he => hname (he ▸ hP)
      exact Structure.class?_addFunction_of_ne hadd hne
    · have hf : s'.functionAt? name key = some f := hf
      rw [hat] at hf
      split at hf
      · next hplace =>
        obtain rfl := Option.some.inj hf
        exact Or.inr ⟨hplace.1 ▸ hP, hplace.2, rfl, rfl⟩
      · exact Or.inl hf
  · rw [h]
    exact .of_library rfl

theorem confined_render {P : String → Prop} {parent : Parent} (hP : P parent.type) (g : Generator)
    (path tag : String) (d : TaskDefinition) (className : String) :
    Confined P tag className g (g.render path parent tag d className) := by
  rcases g.render_cases path parent tag d className with h | ⟨log, h⟩ | ⟨_, _, h⟩
  · rw [h]; exact .of_library rfl
  · rw [h]; exact .of_library rfl
  · have hforms : Confined P tag className g (g.writeForms path (g.immediate parent tag d className)) :=
      .of_library rfl
    rw [h, build_eq]
    exact hforms.trans (confined_declare hP _ tag _ className)

theorem confined_resolveContainer {P : String → Prop} {c className : String}
    (hP : P ((g.resolveContainer c).containerName c).1) :
    Confined P tag className g ((g.resolveContainer c).containerName c).2 := by
  have hname := sameBeyondNames_containerName (g.resolveContainer c) c
  refine .trans ?_ (.of_library hname.library)
  rcases g.resolveContainer_cases c with h | h
  · rw [h]
    exact .of_library rfl
  · -- the name that the container is opened under is the one that it has afterwards
    have hself : ((g.containerName c).2.openContainer c (g.containerName c).1).containerNames.get? c =
        some (g.containerName c).1 := get?_containerName_self g c
    rw [h, containerName_of_some hself] at hP
    refine .register { name := (g.containerName c).1, capability := c } rfl ?_ hP
    rw [h, ← (sameBeyondNames_containerName g c).library]
    rfl

/-- The containers that get a turn are the only classes that change. -/
theorem confined_containerTurns : ∀ (cs : List String) (g : Generator),
    Confined (fun name => ∃ turn ∈ containerTurns path t d tag cs g, turn.1.type = name) tag t.className g
      (cs.foldl (renderInContainer path t d tag) g)
  | [], _ => .of_library rfl
  | c :: cs, g => by
    have hrest := confined_containerTurns cs (renderInContainer path t d tag g c)
    rw [List.foldl_cons]
    refine .trans ?_ (hrest.mono fun name ⟨turn, hturn, hname⟩ => ⟨turn, ?_, hname⟩)
    · cases hneeded : g.needsContainer c with
      | false =>
        exact .of_library (by simp [renderInContainer, hneeded, logging])
      | true =>
        rw [renderInContainer_of_needed hneeded]
        have hturn : ∃ turn ∈ containerTurns path t d tag (c :: cs) g,
            turn.1.type = ((g.resolveContainer c).containerName c).1 := by
          rw [containerTurns, if_pos hneeded]
          exact ⟨_, List.mem_cons_self, rfl⟩
        exact (confined_resolveContainer hturn).trans (confined_render hturn _ path tag d t.className)
    · rw [containerTurns]
      split
      · exact List.mem_cons_of_mem _ hturn
      · exact hturn

/-! ## One turn -/

/-- **A parent gets a builder, or a name is taken, or its class is not there.** -/
theorem complete_of_turn {parent : Parent} (hkind : parent.kind ≠ .owner) (g : Generator)
    (path tag : String) (d : TaskDefinition) (className : String) :
    (g.render path parent tag d className).library.containsFunction parent.type tag = true ∨
      builderName parent tag ∈ g.functions ∨ immediateName (builderName parent tag) ∈ g.functions ∨
      g.library.resolves parent.type = false := by
  have hscope : functionScope parent = "" := by simp [functionScope, hkind]
  unfold render
  split
  · next hcontains => exact Or.inl hcontains
  · next hcontains =>
    split
    · next b hb =>
      have hplan := List.mem_of_find?_eq_some hb
      have htaken := List.find?_some hb
      rw [hscope, String.empty_append, List.contains_iff_mem] at htaken
      rw [plan_eq, List.mem_cons, List.mem_singleton] at hplan
      rcases hplan with rfl | rfl
      · exact Or.inr (Or.inr (Or.inl htaken))
      · exact Or.inr (Or.inl htaken)
    · cases hclass : g.library.resolves parent.type with
      | false => simp
      | true =>
        left
        obtain ⟨s', hadd, _, hat⟩ := Structure.addFunction_of_new hclass (Bool.eq_false_iff.2 hcontains)
          (builderName parent tag) g.options.importPath (d.descriptors className g.framework) className
        rw [build_eq, declare]
        have hadd' : (g.writeForms path (g.immediate parent tag d className)).library.addFunction
            parent.type tag (builderName parent tag)
            (g.writeForms path (g.immediate parent tag d className)).options.importPath
            (d.descriptors className g.framework) className = .ok s' := hadd
        rw [hadd', Structure.containsFunction_iff]
        exact ⟨_, (hat _ _).trans (if_pos ⟨rfl, rfl⟩)⟩

/-! ## All turns -/

section Turns

variable {id : String} {topLevel : Bool}

theorem hasTurn_of_mem (ht : g.resolved.get? id = some t) (hd : t.definition = some d)
    {turn : Parent × Generator} (hturn : turn ∈ g.turns id t d tag topLevel) :
    HasTurn (g.targetPath t) t d tag g (g.generateConstructors id tag topLevel) turn := by
  have hplace : Steps g (g.placeTarget id t) := .single (.place ht)
  rw [generateConstructors_of_some ht hd]
  unfold turns at hturn
  dsimp only at hturn
  split at hturn
  · next htop =>
    rw [if_pos htop]
    rcases List.mem_cons.1 hturn with rfl | hturn
    · exact ⟨hplace, steps_foldl_renderInContainer _ _, Or.inl rfl⟩
    · have h := hasTurn_of_mem_containerTurns _ _ hturn
      exact ⟨(hplace.trans (steps_render (by simp) _ _ _ _)).trans h.before, h.after, h.hosts⟩
  · next htop =>
    rw [if_neg htop]
    have h := hasTurn_of_mem_containerTurns _ _ hturn
    exact ⟨hplace.trans h.before, h.after, h.hosts⟩

/-- The parents that get a turn. -/
theorem map_turns (ht : g.resolved.get? id = some t) (hd : t.definition = some d) (tag : String)
    (topLevel : Bool) :
    (g.turns id t d tag topLevel).map Prod.fst =
      (g.generateConstructors id tag topLevel).parents d topLevel := by
  have hroot : (g.generateConstructors id tag topLevel).rootContainer = g.rootContainer := by
    rw [rootContainer, (g.steps_generateConstructors id tag topLevel).grows.emitter, rootContainer]
  unfold parents turns
  rw [hroot, generateConstructors_of_some ht hd]
  split
  · rw [List.map_cons, map_containerTurns d.capabilities _ .refl]
    rfl
  · rw [map_containerTurns d.capabilities _ .refl]
    rfl

/-- The parents that get a turn are the only classes that change. -/
theorem confined_turns (ht : g.resolved.get? id = some t) (hd : t.definition = some d) (tag : String)
    (topLevel : Bool) :
    Confined (fun name => ∃ turn ∈ g.turns id t d tag topLevel, turn.1.type = name) tag t.className g
      (g.generateConstructors id tag topLevel) := by
  have hplace : Confined (fun name => ∃ turn ∈ g.turns id t d tag topLevel, turn.1.type = name) tag
      t.className g (g.placeTarget id t) := .of_library rfl
  refine hplace.trans ?_
  rw [generateConstructors_of_some ht hd, turns]
  split
  · refine .trans (confined_render ⟨_, List.mem_cons_self, rfl⟩ _ (g.targetPath t) tag d t.className) ?_
    refine (confined_containerTurns (t := { t with id }) d.capabilities _).mono ?_
    rintro _ ⟨turn, hturn, hname⟩
    exact ⟨turn, List.mem_cons_of_mem _ hturn, hname⟩
  · exact confined_containerTurns (t := { t with id }) d.capabilities _

end Turns

/-- The class of a parent is there at its turn, unless the output package is the configured runtime
package. -/
theorem Anchored.resolves_of_turn {runtimePath : String} (h : Anchored runtimePath g)
    {turn : Parent × Generator} (hturn : HasTurn path t d tag g g' turn)
    (hclass : turn.2.library.resolves turn.1.type = false) : g.options.importPath = runtimePath := by
  have hanchored : Anchored runtimePath turn.2 := hturn.before.keeps (fun _ _ hm h => h.step hm) h
  have hoptions : turn.2.options = g.options :=
    hturn.before.keeps (I := fun h => h.options = g.options) (fun _ _ hm h => (options_step hm).trans h) rfl
  rcases hturn.hosts with hroot | ⟨_, c, hc, hname⟩
  · rw [hroot] at hclass
    exact absurd (hclass.symm.trans hanchored.root) Bool.false_ne_true
  · obtain ⟨name, hname', hresolves⟩ := hanchored.containers c hc
    obtain rfl := Option.some.inj (hname.symm.trans hname')
    refine Decidable.byContradiction fun hne => ?_
    exact absurd (hclass.symm.trans (hresolves (hoptions ▸ hne))) Bool.false_ne_true

/-- **The builders for a tag are complete and confined.** After any operations over any provider, a type
that is resolved with a definition gets its builders under the root container, if that is asked for and the
type may stand there, and under the containers of its capabilities, in this order. Each of these parents
has a builder for the tag afterwards, or one of the two names was taken when its turn came, or its class
was not there, which needs an output package that is the configured runtime package. All builders that are
new are builders for the tag under these parents that make the class of the type; all other classes stay as
they are, and nothing is taken back. -/
theorem constructors_complete_and_confined {p : Provider} {o : GeneratorOptions} {g₀ : Generator}
    (hnew : Generator.new p o = .ok g₀) (ops : List Operation) {id : String} {t : Target}
    {d : TaskDefinition}
    (ht : (g₀.performAll ops).resolved.get? id = some t) (hd : t.definition = some d) (tag : String)
    (topLevel : Bool) :
    let g := g₀.performAll ops
    let g' := g.generateConstructors id tag topLevel
    (g.turns id t d tag topLevel).map Prod.fst = g'.parents d topLevel ∧
    (∀ turn ∈ g.turns id t d tag topLevel,
      g'.library.containsFunction turn.1.type tag = true ∨
      builderName turn.1 tag ∈ turn.2.functions ∨ builderName turn.1 tag ++ "With" ∈ turn.2.functions ∨
      turn.2.library.resolves turn.1.type = false ∧ o.importPath = o.runtimePath) ∧
    (∀ name key f, g'.library.functionAt? name key = some f → g.library.functionAt? name key = none →
      key = lowercase tag ∧ f.name = tag ∧ f.initReceiver = t.className ∧
        ∃ parent ∈ g'.parents d topLevel, parent.type = name) ∧
    (∀ name, (∀ parent ∈ g'.parents d topLevel, parent.type ≠ name) →
      g'.library.class? name = g.library.class? name) ∧
    g.library.Grows g'.library := by
  intro g g'
  have hanchored := anchored_performAll hnew ops
  have himport : g.options.importPath = o.importPath := by
    have hoptions : g.options = g₀.options := keeps_performAll_of_steps
      (I := fun g => g.options = g₀.options) (fun _ _ hm h => (options_step hm).trans h) ops g₀
      (fun l _ g h => (g.options_load l).trans h) rfl
    rw [hoptions, options_of_new hnew]
    rfl
  have hparents := map_turns ht hd tag topLevel
  have hconfined := confined_turns ht hd tag topLevel
  refine ⟨hparents, fun turn hturn => ?_, fun name key f hf hnone => ?_, fun name hname => ?_,
    (g.steps_generateConstructors id tag topLevel).grows.library⟩
  · have h := hasTurn_of_mem ht hd hturn
    have hkind : turn.1.kind ≠ .owner := by
      rcases h.hosts with hroot | ⟨hcontainer, _⟩
      · rw [hroot]; nofun
      · rw [hcontainer]; nofun
    rcases complete_of_turn hkind turn.2 (g.targetPath t) tag d t.className with
      hbuilt | hname | hname | hclass
    · -- what is built at the turn is there at the end
      left
      obtain ⟨f, hf⟩ := Structure.containsFunction_iff.1 hbuilt
      exact Structure.containsFunction_iff.2 ⟨f, h.after.grows.library.functionAt? hf⟩
    · exact Or.inr (Or.inl hname)
    · exact Or.inr (Or.inr (Or.inl hname))
    · exact Or.inr (Or.inr (Or.inr ⟨hclass, himport ▸ hanchored.resolves_of_turn h hclass⟩))
  · rcases hconfined.functions name key f hf with hold | ⟨⟨turn, hturn, hname⟩, hkey, hfunction⟩
    · rw [hnone] at hold
      cases hold
    · have hparent : turn.1 ∈ g'.parents d topLevel := hparents ▸ List.mem_map_of_mem hturn
      exact ⟨hkey, hfunction.1, hfunction.2, turn.1, hparent, hname⟩
  · refine hconfined.classes name fun ⟨turn, hturn, htype⟩ => ?_
    exact hname turn.1 (hparents ▸ List.mem_map_of_mem hturn) htype

/-- A saw that is a tool, and may stand under the root container. -/
def sawDefinition : TaskDefinition :=
  { id := "x.Saw", executable := true, capabilities := ["x.Tool", "io.Writer", "x.Tool"] }

theorem constructors_complete_and_confined_saw :
    ∃ g₀ t, Generator.new (.static [sawDefinition]) { importPath := "m/out", runtimePath := "m/rt" } =
        .ok g₀ ∧
      let g := g₀.performAll [.request (.resolve "x.Saw")]
      let g' := g.generateConstructors "x.Saw" "saw" true
      g.resolved.get? "x.Saw" = some t ∧ t.definition = some sawDefinition ∧
      (g'.parents sawDefinition true).map (·.type) =
        ["m/rt.TaskContainer", "m/out.DSLToolContainer", "m/out.DSLToolContainer"] ∧
      ∀ turn ∈ g.turns "x.Saw" t sawDefinition "saw" true,
        g'.library.containsFunction turn.1.type "saw" = true ∨
        builderName turn.1 "saw" ∈ turn.2.functions ∨ builderName turn.1 "saw" ++ "With" ∈ turn.2.functions := by
  obtain ⟨g₀, hnew⟩ := exists_new (Provider.static [sawDefinition])
    (o := { importPath := "m/out", runtimePath := "m/rt" }) (by decide) (by decide)
  have hevaluate : ((g₀.performAll [.request (.resolve "x.Saw")]).resolved.get? "x.Saw").any
      (fun t => decide (t.definition = some sawDefinition)) = true ∧
      (((g₀.performAll [.request (.resolve "x.Saw")]).generateConstructors "x.Saw" "saw" true).parents
        sawDefinition true).map (·.type) =
          ["m/rt.TaskContainer", "m/out.DSLToolContainer", "m/out.DSLToolContainer"] := by
    obtain rfl := Except.ok.inj hnew
    decide +kernel
  obtain ⟨hresolved, hparents⟩ := hevaluate
  obtain ⟨t, ht, hd⟩ := (Option.any_eq_true _ _).1 hresolved
  have hd := of_decide_eq_true hd
  obtain ⟨_, hcomplete, _⟩ := constructors_complete_and_confined hnew _ ht hd "saw" true
  refine ⟨g₀, t, hnew, ht, hd, hparents, fun turn hturn => ?_⟩
  rcases hcomplete turn hturn with h | h | h | ⟨_, h⟩
  · exact Or.inl h
  · exact Or.inr (Or.inl h)
  · exact Or.inr (Or.inr h)
  · exact absurd h (by decide)

/-! ## An output package that is the runtime package -/

/-- A tool whose container is called like the root container of the runtime package. -/
def toolTypes : List TaskDefinition := [{ id := "x.Tool", executable := true, capabilities := ["x.Work"] }]

/-- A structure of the package that builders run on, which pins the container of a capability to the name
of the root container. -/
def pinningStructure : Structure :=
  { classes := Dict.ofList
      [("m/rt.TaskContainer", { name := "m/rt.TaskContainer", capability := "x.Work" })] }

/-- The container is done with the root container of the runtime package, since their classes have one
name. A library that brings another runtime package lets that class go, and then there is no class that the
builder could be declared on. -/
theorem constructors_lose_builder : ∃ g₀ t d,
    Generator.new (.static toolTypes) { importPath := "m/rt", runtimePath := "m/rt" } = .ok g₀ ∧
    let g := g₀.performAll [.load (.byName pinningStructure), .request (.containers ["x.Work"]),
      .load (.byName { runtime := "m/rt2" }), .request (.resolve "x.Tool")]
    let g' := g.generateConstructors "x.Tool" "tool" false
    g.resolved.get? "x.Tool" = some t ∧ t.definition = some d ∧
    ∃ turn ∈ g.turns "x.Tool" t d "tool" false, turn.1.type = "m/rt.TaskContainer" ∧
      g'.library.containsFunction turn.1.type "tool" = false ∧
      builderName turn.1 "tool" ∉ turn.2.functions ∧
      builderName turn.1 "tool" ++ "With" ∉ turn.2.functions := by
  obtain ⟨g₀, hnew⟩ := exists_new (Provider.static toolTypes)
    (o := { importPath := "m/rt", runtimePath := "m/rt" }) (by decide) (by decide)
  have hevaluate :
      let g := g₀.performAll [.load (.byName pinningStructure), .request (.containers ["x.Work"]),
        .load (.byName { runtime := "m/rt2" }), .request (.resolve "x.Tool")]
      (g.resolved.get? "x.Tool").any (fun t => t.definition.any fun d =>
        (g.turns "x.Tool" t d "tool" false).any fun turn =>
          decide (turn.1.type = "m/rt.TaskContainer" ∧
            (g.generateConstructors "x.Tool" "tool" false).library.containsFunction turn.1.type "tool" =
              false ∧
            builderName turn.1 "tool" ∉ turn.2.functions ∧
            builderName turn.1 "tool" ++ "With" ∉ turn.2.functions)) = true := by
    obtain rfl := Except.ok.inj hnew
    decide +kernel
  obtain ⟨t, ht, hevaluate⟩ := (Option.any_eq_true _ _).1 hevaluate
  obtain ⟨d, hd, hevaluate⟩ := (Option.any_eq_true _ _).1 hevaluate
  obtain ⟨turn, hturn, hlost⟩ := List.any_eq_true.1 hevaluate
  exact ⟨g₀, t, d, hnew, ht, hd, turn, hturn, of_decide_eq_true hlost⟩

end Generator

end TaskBuilders
