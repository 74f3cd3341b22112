import TaskBuilders.Proofs.Generator.Move

/-!
# Requests

What a run without earlier libraries can be asked for, in any order and any number of times. A
request is served by moves, so what moves keep holds after every sequence of requests.

* `moves_serve`, `moves_serveAll` — requests are served by moves
* `keeps_serveAll` — what holds of a fresh run and is kept by moves holds after all requests
-/

namespace TaskBuilders.Generator

/-- What a run can be asked for. -/
inductive Request where
  | tagAlias (a : TagAlias)
  | resolve (id : String)
  | constructors (id tag : String) (topLevel : Bool)
  | defaults (ids : List String)
  | containers (ids : List String)
  | containerName (id : String)
  | generate (aliases : List TagAlias) (defaults : List String) (cancelled : Cancellation)
deriving Repr, DecidableEq

/-- The state after a request. -/
def serve (g : Generator) : Request → Generator
  | .tagAlias a => (g.resolveAlias a).2
  | .resolve id => (g.resolveClass id).2
  | .constructors id tag topLevel => g.generateConstructors id tag topLevel
  | .defaults ids => (defaultAliases ids g).2
  | .containers ids => g.resolveContainers ids
  | .containerName id => (g.containerName id).2
  | .generate aliases defaults cancelled => (g.generate aliases defaults cancelled).2

/-- The state after several requests. -/
def serveAll (g : Generator) (rs : List Request) : Generator := rs.foldl serve g

variable {g : Generator}

/-! ## Requests are served by moves -/

theorem moves_resolveAlias (hp : g.provider.Faithful) (a : TagAlias) :
    Moves g (g.resolveAlias a).2 := by
  have hclass := moves_resolveClass hp a.type
  unfold resolveAlias
  split
  · next g' h => rw [h] at hclass; exact hclass.trans (moves_generateConstructors g' _ _ _)
  · next g' h => rw [h] at hclass; exact hclass.trans (moves_logging g' _)
  · exact hclass

theorem moves_defaultAlias (hp : g.provider.Faithful) (id : String) :
    Moves g (g.defaultAlias id).2 := by
  have hlookup := g.moves_lookup id
  unfold defaultAlias
  split
  · next h => rw [h] at hlookup; exact hlookup
  · next d g' h =>
    rw [h] at hlookup
    have hclass := hlookup.trans (moves_resolveClass (hlookup.extends.provider ▸ hp) id)
    split
    · exact hlookup
    · split
      · next h' => rw [h'] at hclass; exact hclass
      · next h' => rw [h'] at hclass; exact hclass
      · next g'' h' =>
        rw [h'] at hclass
        split
        · exact hclass
        · split
          · exact hclass
          · exact hclass.trans (moves_generateConstructors g'' _ _ _)

theorem moves_defaultAliases : ∀ (ids : List String) (g : Generator), g.provider.Faithful →
    Moves g (defaultAliases ids g).2
  | [], _, _ => .refl
  | id :: ids, g, hp => by
    have hfirst := moves_defaultAlias hp id
    unfold defaultAliases
    split
    · next g' h =>
      rw [h] at hfirst
      exact hfirst.trans (moves_defaultAliases ids g' (hfirst.extends.provider ▸ hp))
    · exact hfirst

theorem moves_resolveAliases : ∀ (as : List TagAlias) (g : Generator), g.provider.Faithful →
    Moves g (resolveAliases as g).2
  | [], _, _ => .refl
  | a :: as, g, hp => by
    have hfirst := moves_resolveAlias hp a
    unfold resolveAliases
    split
    · next g' h => rw [h] at hfirst; exact hfirst
    · next r g' _ h =>
      rw [h] at hfirst
      exact hfirst.trans (moves_resolveAliases as g' (hfirst.extends.provider ▸ hp))

theorem moves_generate (hp : g.provider.Faithful) (aliases : List TagAlias)
    (defaults : List String) (cancelled : Cancellation) :
    Moves g (g.generate aliases defaults cancelled).2 := by
  have haliases := moves_resolveAliases (cancelled.reached aliases) g hp
  unfold generate
  split
  · next h => rw [h] at haliases; exact haliases
  · next g' h =>
    rw [h] at haliases
    have hdefaults := haliases.trans
      (moves_defaultAliases defaults g' (haliases.extends.provider ▸ hp))
    split
    · exact haliases
    · split
      · next h' => rw [h'] at hdefaults; exact hdefaults
      · next h' => rw [h'] at hdefaults; exact hdefaults

/-- A request is served by moves. -/
theorem moves_serve (hp : g.provider.Faithful) (r : Request) : Moves g (g.serve r) := by
  cases r with
  | tagAlias a => exact moves_resolveAlias hp a
  | resolve id => exact moves_resolveClass hp id
  | constructors id tag topLevel => exact moves_generateConstructors g id tag topLevel
  | defaults ids => exact moves_defaultAliases ids g hp
  | containers ids => exact moves_resolveContainers g ids
  | containerName id => exact .single (.nameContainer g id)
  | generate aliases defaults cancelled => exact moves_generate hp aliases defaults cancelled

/-- **Requests are served by moves.** -/
theorem moves_serveAll (hp : g.provider.Faithful) (rs : List Request) : Moves g (g.serveAll rs) :=
  moves_foldl (P := fun g => g.provider.Faithful) (fun _ _ hm h => hm.extends.provider ▸ h)
    (fun _ r h => moves_serve h r) rs g hp

/-! ## Fresh runs -/

/-- A fresh run has a safe provider, the root classes and an empty table of everything else. -/
structure Fresh (p : Provider) (g : Generator) : Prop where
  provider : g.provider = p.safe
  library : g.library = g.rootClasses.foldl Structure.register { runtime := g.runtime }
  namer : g.namer = .new g.options.importPath g.options.sourceRoot
  importPath : g.options.importPath ≠ ""
  resolved : g.resolved = ∅
  missing : g.missing = []
  files : g.files = ∅
  functions : g.functions = []
  containerNames : g.containerNames = ∅
  containersDone : g.containersDone = []
  errors : g.errors = []

theorem fresh_of_new {p : Provider} {o : GeneratorOptions} (h : Generator.new p o = .ok g) :
    Fresh p g := by
  simp only [Generator.new] at h
  split at h
  · cases h
  · next hpath =>
    split at h
    · cases h
    · obtain rfl := Except.ok.inj h
      exact ⟨rfl, rfl, rfl, hpath, rfl, rfl, rfl, rfl, rfl, rfl, rfl⟩

theorem options_of_new {p : Provider} {o : GeneratorOptions} (h : Generator.new p o = .ok g) :
    g.options = o.withDefaults := by
  simp only [Generator.new] at h
  split at h
  · cases h
  · split at h
    · cases h
    · obtain rfl := Except.ok.inj h
      rfl

/-- Settings with both import paths make a run. -/
theorem exists_new (p : Provider) {o : GeneratorOptions} (himport : o.importPath ≠ "")
    (hruntime : o.runtimePath ≠ "") : ∃ g, Generator.new p o = .ok g := by
  simp only [Generator.new]
  rw [if_neg (show o.withDefaults.importPath ≠ "" from himport),
    if_neg (show o.withDefaults.runtimePath ≠ "" from hruntime)]
  exact ⟨_, rfl⟩

/-- **What holds of a fresh run and is kept by moves holds after all requests.** -/
theorem keeps_serveAll {I : Generator → Prop} {p : Provider} {o : GeneratorOptions}
    {g₀ : Generator} (hp : p.Faithful) (hnew : Generator.new p o = .ok g₀)
    (init : ∀ g, Fresh p g → I g) (step : ∀ g g', Move g g' → I g → I g') (rs : List Request) :
    I (g₀.serveAll rs) := by
  have hfresh := fresh_of_new hnew
  have hfaithful : g₀.provider.Faithful := hfresh.provider ▸ hp.safe
  exact (moves_serveAll hfaithful rs).keeps step (init g₀ hfresh)

end TaskBuilders.Generator
