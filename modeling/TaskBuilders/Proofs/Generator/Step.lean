import TaskBuilders.Proofs.Generator.Request

/-!
# Runs over any provider

A provider may answer with definitions of other identifiers than the one it is asked for. Then less is
known of the circumstances under which the state changes, but it still changes in few ways.

* `Steps.keeps` — what every step keeps, every run keeps
* `EachFile.step` — what holds of all files
* `steps_serveAll` — requests are served by steps, over any provider
-/

namespace TaskBuilders.Generator

variable {g g' : Generator}

/-! ## Steps -/

/-- What a run does to the state at once, whatever its provider answers. -/
inductive Step : Generator → Generator → Prop where
  /-- Providers remember, the log grows and identifiers turn out to be unknown. -/
  | note (g : Generator) (memory : Memory) (log : List LogRecord) (missing : List String) :
      Step g { g with memory, log, missing }
  /-- The container of a capability is named. -/
  | nameContainer (g : Generator) (id : String) : Step g (g.containerName id).2
  /-- A container that has a name is written. -/
  | openContainer {g : Generator} {id name : String}
      (named : g.containerNames.get? id = some name) : Step g (g.openContainer id name)
  /-- A type is entered and its wrapper written. -/
  | openTarget {g : Generator} {id : String} {d : TaskDefinition} (found : g.Finds id d) :
      Step g (g.openTarget d).2
  /-- A type gets a definition. -/
  | define {g : Generator} {id : String} {t : Target} (resolved : g.resolved.get? id = some t)
      (d : TaskDefinition) :
      Step g { g with resolved := g.resolved.insert id { t with definition := some d } }
  /-- A type gets the file that its builders go to. -/
  | place {g : Generator} {id : String} {t : Target} (resolved : g.resolved.get? id = some t) :
      Step g (g.placeTarget id t)
  /-- A builder is written in both forms and declared; the container that it goes under has a name. -/
  | build (g : Generator) (path : String) (parent : Parent) (tag : String) (d : TaskDefinition)
      (className : String)
      (hosted : parent.kind = .container → ∃ c, g.containerNames.get? c = some parent.type) :
      Step g (g.build path parent tag d className)

/-- A sequence of steps. -/
abbrev Steps : Generator → Generator → Prop := Relation.ReflTransGen Step

/-- **What every step keeps, every run keeps.** -/
theorem Steps.keeps {I : Generator → Prop} (step : ∀ g g', Step g g' → I g → I g')
    (h : Steps g g') (hg : I g) : I g' := by
  induction h with
  | refl => exact hg
  | tail _ hm ih => exact step _ _ hm ih

/-- A move is a step. -/
theorem Move.step (h : Move g g') : Step g g' := by
  cases h with
  | note memory log => exact .note g memory log g.missing
  | @miss id memory log _ => exact .note g memory log (id :: g.missing)
  | nameContainer id => exact .nameContainer g id
  | openContainer _ _ named => exact .openContainer named
  | openTarget _ found => exact .openTarget found
  | define resolved _ _ => exact .define resolved _
  | place resolved => exact .place resolved
  | build _ hosts _ _ _ _ =>
    refine .build g _ _ _ _ _ fun hkind => ?_
    cases hosts with
    | container _ named => exact ⟨_, named⟩
    | root | owner _ _ => cases hkind

/-! ## What stays -/

theorem options_step (h : Step g g') : g'.options = g.options := by
  cases h with
  | note _ _ _ | openContainer _ | define _ _ | place _ => rfl
  | nameContainer id => exact (sameBeyondNames_containerName g id).options
  | openTarget _ => exact (g.openTarget_names _).1
  | build path parent tag d className =>
    exact (sameBeyondBuilders_build g path parent tag d className).options

theorem provider_step (h : Step g g') : g'.provider = g.provider := by
  cases h with
  | note _ _ _ | openContainer _ | define _ _ | place _ => rfl
  | nameContainer id => exact (sameBeyondNames_containerName g id).provider
  | openTarget _ => exact g.provider_openTarget _
  | build path parent tag d className =>
    exact (sameBeyondBuilders_build g path parent tag d className).provider

theorem provider_steps (h : Steps g g') : g'.provider = g.provider := by
  induction h with
  | refl => rfl
  | tail _ hm ih => exact (provider_step hm).trans ih

theorem files_declare (g : Generator) (parent : Parent) (tag : String)
    (attrs : List AttributeDescriptor) (className : String) :
    (g.declare parent tag attrs className).files = g.files := by
  rcases g.declare_cases parent tag attrs className with ⟨_, _, h⟩ | ⟨_, _, h⟩ <;> rw [h]

/-- What holds of new files and is kept by every block that is added holds of all files. -/
theorem EachFile.step {P : String → SourceFile → Prop} (h : g.EachFile P) (hm : Step g g')
    (hnew : ∀ path source, P path (.new path g.options.package g.options.importPath source))
    (hemit : ∀ path f make, g.emitter.Makes make → P path f → P path (f.emit make)) :
    g'.EachFile P := by
  cases hm with
  | note _ _ _ | define _ _ => exact h
  | nameContainer id =>
    rw [EachFile, (sameBeyondNames_containerName g id).files]
    exact h
  | openContainer _ =>
    exact (h.ensureFile (hnew _ _)).editFile fun f => hemit _ f _ (.container _ _)
  | @openTarget _ d _ =>
    have hs := sameBeyondNames_nameTarget g d
    have hnamed : (g.nameTarget d).2.2.EachFile P := by rw [EachFile, hs.files]; exact h
    rw [openTarget_eq]
    refine (hnamed.ensureFile ?_).editFile fun f => hemit _ f _ ?_
    · rw [hs.options]; exact hnew _ _
    · rw [hs.emitter]; exact .wrapper _
  | place _ => exact h.ensureFile (hnew _ _)
  | build path parent tag d className =>
    have hwrite : ∀ (g' : Generator) (b : BuilderDecl), g'.emitter = g.emitter → g'.EachFile P →
        (writeBuilder path g' b).EachFile P := by
      intro g' b he h'
      refine EachFile.editFile (g := { g' with functions := _ }) h' fun f => hemit _ f _ ?_
      rw [he]
      exact .builder b
    rw [build_eq, EachFile, files_declare]
    exact hwrite _ _ rfl (hwrite g _ rfl h)

/-- No builder is taken back. -/
theorem functionAt?_step (h : Step g g') {name key : String} {f : BuilderFunction}
    (hf : g.library.functionAt? name key = some f) :
    g'.library.functionAt? name key = some f := by
  cases h with
  | note _ _ _ | define _ _ | place _ => exact hf
  | nameContainer id => rwa [(sameBeyondNames_containerName g id).library]
  | openContainer _ => exact (Structure.functionAt?_register rfl name key).trans hf
  | @openTarget _ d _ =>
    obtain ⟨traits, hlibrary⟩ := g.library_openTarget d
    rw [hlibrary]
    exact (Structure.functionAt?_register rfl name key).trans hf
  | build path parent tag d className =>
    rw [build_eq]
    rcases declare_cases (g.writeForms path (g.immediate parent tag d className)) parent tag
        (d.descriptors className g.framework) className with ⟨_, hadd, h⟩ | ⟨_, _, h⟩
    · rw [h]
      exact Structure.functionAt?_addFunction hadd hf
    · rw [h]
      exact hf

/-! ## Operations are made of steps -/

theorem steps_logging (g : Generator) (r : LogRecord) : Steps g (g.logging r) :=
  .single (.note g g.memory (g.log ++ [r]) g.missing)

theorem steps_lookup (g : Generator) (id : String) : Steps g (g.lookup id).2 := by
  rcases g.lookup_cases id with ⟨_, _, _, _, h⟩ | ⟨_, h⟩ | ⟨_, m, _, h⟩ | ⟨m, l, _, h⟩
  · rw [h]
  · rw [h]
  · rw [h]; exact .single (.note g m g.log g.missing)
  · rw [h]; exact .single (.note g m l (id :: g.missing))

theorem steps_resolveContainer (g : Generator) (id : String) :
    Steps g (g.resolveContainer id) := by
  unfold resolveContainer
  split
  · exact .refl
  · exact .tail (.single (.nameContainer g id)) (.openContainer (g.get?_containerName_self id))

theorem steps_foldl {α : Type} {f : Generator → α → Generator}
    (hstep : ∀ g a, Steps g (f g a)) :
    ∀ (as : List α) (g : Generator), Steps g (as.foldl f g)
  | [], _ => .refl
  | a :: as, g => (hstep g a).trans (steps_foldl hstep as (f g a))

theorem steps_render {parent : Parent}
    (hosted : parent.kind = .container → ∃ c, g.containerNames.get? c = some parent.type)
    (path tag : String) (d : TaskDefinition) (className : String) :
    Steps g (g.render path parent tag d className) := by
  rcases g.render_cases path parent tag d className with h | ⟨log, h⟩ | ⟨_, _, h⟩
  · rw [h]
  · rw [h]; exact .single (.note g g.memory log g.missing)
  · rw [h]; exact .single (.build g path parent tag d className hosted)

theorem steps_renderInContainer (path : String) (t : Target) (d : TaskDefinition)
    (tag : String) (g : Generator) (capability : String) :
    Steps g (renderInContainer path t d tag g capability) := by
  unfold renderInContainer
  split
  · exact steps_logging g _
  · exact ((g.steps_resolveContainer capability).tail (.nameContainer _ capability)).trans
      (steps_render (fun _ => ⟨capability, get?_containerName_self _ capability⟩) _ _ _ _)

theorem steps_generateConstructors (g : Generator) (id tag : String) (topLevel : Bool) :
    Steps g (g.generateConstructors id tag topLevel) := by
  unfold generateConstructors
  split
  · exact .refl
  · next t ht =>
    split
    · exact .refl
    · next d hd =>
      have hplace : Steps g (g.placeTarget id t) := .single (.place ht)
      have hcontainers := steps_foldl
        (steps_renderInContainer (g.targetPath t) { t with id } d tag) d.capabilities
      refine hplace.trans (.trans ?_ (hcontainers _))
      split
      · exact steps_render (by simp) _ _ _ _
      · exact .refl

/-- A resolver that does nothing but steps. -/
def Resolver.BySteps (r : Resolver) : Prop := ∀ id g, Steps g (r id g).2

theorem steps_renderElement (owner : Target) (e : NestedElement) (g : Generator) :
    Steps g (renderElement owner e g).2 := by
  rcases renderElement_cases owner e g with ⟨_, h⟩ | ⟨_, _, _, _, h⟩ | h
  · rw [h]
  · rw [h]
    exact steps_render (by simp) _ _ _ _
  · rw [h]

theorem steps_renderNested {r : Resolver} (hr : r.BySteps) (owner : Target) :
    ∀ (es : List NestedElement) (g : Generator), Steps g (renderNested r owner es g).2
  | [], _ => .refl
  | e :: es, g => by
    have hrest : ∀ g', Steps g g' → Steps g (renderNested r owner es g').2 :=
      fun g' hm => hm.trans (steps_renderNested hr owner es g')
    have hstep := hr e.type g
    unfold renderNested
    split
    · exact hrest g .refl
    · split
      · next h => rw [h] at hstep; exact hstep
      · next h => rw [h] at hstep; exact hrest _ (hstep.trans (steps_logging _ _))
      · next g' h =>
        rw [h] at hstep
        have helement := steps_renderElement owner e g'
        split
        · next h' => rw [h'] at helement; exact hstep.trans helement
        · next h' => rw [h'] at helement; exact hrest _ (hstep.trans helement)

theorem steps_resolveContainers (g : Generator) (ids : List String) :
    Steps g (g.resolveContainers ids) := steps_foldl steps_resolveContainer ids g

theorem steps_addTarget {r : Resolver} (hr : r.BySteps) {id : String} {d : TaskDefinition}
    (hfound : g.Finds id d) : Steps g (addTarget r d g).2 := by
  have hnested := Relation.ReflTransGen.head (Step.openTarget hfound)
    (steps_renderNested hr (g.openTarget d).1 d.nested (g.openTarget d).2)
  rcases addTarget_cases r d g with ⟨c, g', hr', h⟩ | ⟨g', hr', h⟩
  · rw [hr'] at hnested
    rw [h]
    exact hnested
  · rw [hr'] at hnested
    rw [h]
    exact hnested.trans ((g'.steps_resolveContainers d.capabilities).trans
      (steps_resolveContainers _ _))

theorem bySteps_resolveWithin : ∀ n, (resolveWithin n).BySteps
  | 0, _, _ => .refl
  | n + 1, id, g => by
    have hlookup := g.steps_lookup id
    have hsame := g.resolved_lookup id
    have hprovider := (g.moves_lookup id).extends.provider
    unfold resolveWithin
    split
    · next t ht =>
      split
      · exact .refl
      · split
        · next g' h => rw [h] at hlookup; exact hlookup
        · next d g' h =>
          rw [h] at hlookup hsame
          exact hlookup.tail (.define (hsame ▸ ht) d)
    · next hnew =>
      split
      · next g' h => rw [h] at hlookup; exact hlookup
      · next d g' h =>
        have hfound : g.Finds id d := finds_of_lookup (by rw [hnew, Option.bind_none]) (by rw [h])
        rw [h] at hlookup hprovider
        have hfound' : g'.Finds id d := by rwa [Finds, hprovider]
        exact hlookup.trans (steps_addTarget (bySteps_resolveWithin n) hfound')

theorem steps_resolveClass (g : Generator) (id : String) :
    Steps g (g.resolveClass id).2 := bySteps_resolveWithin _ id g

theorem steps_resolveAlias (g : Generator) (a : TagAlias) :
    Steps g (g.resolveAlias a).2 := by
  have hclass := g.steps_resolveClass a.type
  unfold resolveAlias
  split
  · next g' h => rw [h] at hclass; exact hclass.trans (steps_generateConstructors g' _ _ _)
  · next g' h => rw [h] at hclass; exact hclass.trans (steps_logging g' _)
  · exact hclass

theorem steps_defaultAlias (g : Generator) (id : String) :
    Steps g (g.defaultAlias id).2 := by
  have hlookup := g.steps_lookup id
  unfold defaultAlias
  split
  · next h => rw [h] at hlookup; exact hlookup
  · next d g' h =>
    rw [h] at hlookup
    have hclass := hlookup.trans (g'.steps_resolveClass id)
    split
    · exact hlookup
    · split
      · next h' => rw [h'] at hclass; exact hclass
      · next h' => rw [h'] at hclass; exact hclass
      · next g'' h' =>
        rw [h'] at hclass
        split
        · exact hclass
        · split
          · exact hclass
          · exact hclass.trans (steps_generateConstructors g'' _ _ _)

theorem steps_defaultAliases : ∀ (ids : List String) (g : Generator),
    Steps g (defaultAliases ids g).2
  | [], _ => .refl
  | id :: ids, g => by
    have hfirst := g.steps_defaultAlias id
    unfold defaultAliases
    split
    · next g' h => rw [h] at hfirst; exact hfirst.trans (steps_defaultAliases ids g')
    · exact hfirst

theorem steps_resolveAliases : ∀ (as : List TagAlias) (g : Generator),
    Steps g (resolveAliases as g).2
  | [], _ => .refl
  | a :: as, g => by
    have hfirst := g.steps_resolveAlias a
    unfold resolveAliases
    split
    · next g' h => rw [h] at hfirst; exact hfirst
    · next r g' _ h => rw [h] at hfirst; exact hfirst.trans (steps_resolveAliases as g')

theorem steps_generate (g : Generator) (aliases : List TagAlias) (defaults : List String)
    (cancelled : Cancellation) : Steps g (g.generate aliases defaults cancelled).2 := by
  have haliases := steps_resolveAliases (cancelled.reached aliases) g
  unfold generate
  split
  · next h => rw [h] at haliases; exact haliases
  · next g' h =>
    rw [h] at haliases
    have hdefaults := haliases.trans (steps_defaultAliases defaults g')
    split
    · exact haliases
    · split
      · next h' => rw [h'] at hdefaults; exact hdefaults
      · next h' => rw [h'] at hdefaults; exact hdefaults

theorem steps_serve (g : Generator) (r : Request) : Steps g (g.serve r) := by
  cases r with
  | tagAlias a => exact g.steps_resolveAlias a
  | resolve id => exact g.steps_resolveClass id
  | constructors id tag topLevel => exact g.steps_generateConstructors id tag topLevel
  | defaults ids => exact steps_defaultAliases ids g
  | containers ids => exact g.steps_resolveContainers ids
  | containerName id => exact .single (.nameContainer g id)
  | generate aliases defaults cancelled => exact g.steps_generate aliases defaults cancelled

/-- **Requests are served by steps, over any provider.** -/
theorem steps_serveAll (g : Generator) (rs : List Request) : Steps g (g.serveAll rs) :=
  steps_foldl steps_serve rs g

end TaskBuilders.Generator
