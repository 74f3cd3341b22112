import TaskBuilders.Proofs.Generator.Stability
import TaskBuilders.Proofs.Structure.Merge

/-!
# Loading libraries

A structure of the output package pins names and changes nothing else. A structure of another package
leaves names and files alone. Its types and its containers count as done, and its builders as declared;
the runtime package may change, but no builder goes away with the old one.

* `load_of_own` — a structure of the output package pins names
* `Elsewhere` — structures that are of another package, whichever class is met first
* `adopts_load` — what a structure of another package adds to the tables
* `containerNames_load` — containers are called as before, or like classes of the structure
* `functionAt?_load` — the builders of the run come before those of the structure
* `Operation` — what a run can be asked for, loading included
* `keeps_performAll`, `keeps_performAll_of_steps` — what operations keep
-/

namespace TaskBuilders.Generator

open Naming

variable {g g' g'' : Generator} {l : Loading}

/-- A structure of the output package pins names. -/
theorem load_of_own (h : g.samePackage l = true) :
    g.load l = { g with namer := l.library.listing.foldl pinClass g.namer } := by
  rw [load, if_pos h, foldl_pinName]

theorem load_of_other (h : g.samePackage l = false) : g.load l = g.adoptLibrary l :=
  if_neg (by rw [h]; decide)

/-! ## Types and containers of another package -/

/-- No generated class of a structure is in the package. -/
def Elsewhere (importPath : String) (s : Structure) : Prop :=
  ∀ c ∈ s.classes.values, isGenerated c → packageOf c.name ≠ importPath

instance (importPath : String) (s : Structure) : Decidable (Elsewhere importPath s) :=
  inferInstanceAs (Decidable (∀ c ∈ s.classes.values, _ → _))

/-- Such a structure is one of another package, whichever class is met first. -/
theorem Elsewhere.samePackage (h : Elsewhere g.options.importPath l.library) :
    g.samePackage l = false := by
  unfold Generator.samePackage
  split
  · next c hc =>
    exact beq_eq_false_iff_ne.2
      (h c (l.mem_asked_iff.1 (List.mem_of_find?_eq_some hc)) (List.find?_some hc))
  · rfl

/-- The types and containers of some classes count as done, and nothing else changes but the library and
its runtime. -/
structure Adopts (cs : List StructureClass) (g g' : Generator) : Prop where
  options : g'.options = g.options
  provider : g'.provider = g.provider
  namer : g'.namer = g.namer
  files : g'.files = g.files
  functions : g'.functions = g.functions
  kept : ∀ id t, g.resolved.get? id = some t → g'.resolved.get? id = some t
  origin : ∀ id t, g'.resolved.get? id = some t → g.resolved.get? id = some t ∨
    ∃ c ∈ cs, c.source ≠ "" ∧ c.source = id ∧ t = ⟨id, none, c.name, none⟩
  types : ∀ c ∈ cs, c.source ≠ "" → ∃ t, g'.resolved.get? c.source = some t
  doneKept : g.containersDone ⊆ g'.containersDone
  containers : ∀ c ∈ cs, c.source = "" → c.capability ≠ "" → c.capability ∈ g'.containersDone

theorem Adopts.of_same (hoptions : g'.options = g.options) (hprovider : g'.provider = g.provider)
    (hnamer : g'.namer = g.namer) (hfiles : g'.files = g.files)
    (hfunctions : g'.functions = g.functions) (hresolved : g'.resolved = g.resolved)
    (hdone : g'.containersDone = g.containersDone) : Adopts [] g g' :=
  ⟨hoptions, hprovider, hnamer, hfiles, hfunctions, by rw [hresolved]; exact fun _ _ h => h,
    by rw [hresolved]; exact fun _ _ h => Or.inl h, nofun, by rw [hdone]; exact fun _ h => h, nofun⟩

theorem Adopts.append {cs cs' : List StructureClass} (h : Adopts cs g g') (h' : Adopts cs' g' g'') :
    Adopts (cs ++ cs') g g'' where
  options := h'.options.trans h.options
  provider := h'.provider.trans h.provider
  namer := h'.namer.trans h.namer
  files := h'.files.trans h.files
  functions := h'.functions.trans h.functions
  kept := fun id t ht => h'.kept id t (h.kept id t ht)
  origin := by
    intro id t ht
    rcases h'.origin id t ht with ht | ⟨c, hc, hsource⟩
    · rcases h.origin id t ht with ht | ⟨c, hc, hsource⟩
      · exact Or.inl ht
      · exact Or.inr ⟨c, List.mem_append_left _ hc, hsource⟩
    · exact Or.inr ⟨c, List.mem_append_right _ hc, hsource⟩
  types := by
    intro c hc hs
    rcases List.mem_append.1 hc with hc | hc
    · obtain ⟨t, ht⟩ := h.types c hc hs
      exact ⟨t, h'.kept _ t ht⟩
    · exact h'.types c hc hs
  doneKept := List.Subset.trans h.doneKept h'.doneKept
  containers := by
    intro c hc hs hcap
    rcases List.mem_append.1 hc with hc | hc
    · exact h'.doneKept (h.containers c hc hs hcap)
    · exact h'.containers c hc hs hcap

theorem Adopts.logging {cs : List StructureClass} (h : Adopts cs g g') (r : LogRecord) :
    Adopts cs g (g'.logging r) :=
  ⟨h.options, h.provider, h.namer, h.files, h.functions, h.kept, h.origin, h.types, h.doneKept,
    h.containers⟩

theorem adopts_adoptClass (g : Generator) (c : StructureClass) : Adopts [c] g (g.adoptClass c) := by
  unfold adoptClass
  split
  · next hs =>
    refine ⟨rfl, rfl, rfl, rfl, rfl, fun _ _ ht => Dict.get?_insertNew_of_some _ _ ht, ?_, ?_,
      fun _ h => h, ?_⟩
    · intro id t ht
      rw [Dict.get?_insertNew] at ht
      by_cases hid : id = c.source
      · rw [if_pos hid, Option.some.injEq] at ht
        cases hold : g.resolved.get? c.source with
        | none =>
          rw [hold, Option.getD_none] at ht
          exact Or.inr ⟨c, List.mem_singleton_self c, hs, hid.symm, by rw [← ht, hid]⟩
        | some u =>
          rw [hold, Option.getD_some] at ht
          exact Or.inl (by rw [hid, hold, ht])
      · rw [if_neg hid] at ht
        exact Or.inl ht
    · intro c' hc' _
      obtain rfl := List.mem_singleton.1 hc'
      exact ⟨_, by rw [Dict.get?_insertNew, if_pos rfl]⟩
    · intro c' hc' hs'
      obtain rfl := List.mem_singleton.1 hc'
      exact absurd hs' hs
  · next hs =>
    have hsource : c.source = "" := Decidable.not_not.1 hs
    have htypes : ∀ c' ∈ [c], c'.source ≠ "" → ∃ t, g.resolved.get? c'.source = some t := by
      intro c' hc' hs'
      obtain rfl := List.mem_singleton.1 hc'
      exact absurd hsource hs'
    split
    · refine ⟨rfl, rfl, rfl, rfl, rfl, fun _ _ ht => ht, fun _ _ ht => Or.inl ht, htypes,
        fun _ h => List.mem_cons_of_mem _ h, fun c' hc' _ _ => ?_⟩
      obtain rfl := List.mem_singleton.1 hc'
      exact List.mem_cons_self
    · next hcap =>
      refine ⟨rfl, rfl, rfl, rfl, rfl, fun _ _ ht => ht, fun _ _ ht => Or.inl ht, htypes,
        fun _ h => h, fun c' hc' _ hcap' => ?_⟩
      obtain rfl := List.mem_singleton.1 hc'
      exact absurd hcap' hcap

theorem adopts_foldl : ∀ (cs : List StructureClass) (g : Generator),
    Adopts cs g (cs.foldl adoptClass g)
  | [], _ => .of_same rfl rfl rfl rfl rfl rfl rfl
  | c :: cs, g => (adopts_adoptClass g c).append (adopts_foldl cs (g.adoptClass c))

/-- Settling the runtime leaves the tables of a run alone. -/
theorem adopts_settleRuntime (g : Generator) (s : Structure) : Adopts [] g (g.settleRuntime s) := by
  unfold settleRuntime
  split
  · exact .of_same rfl rfl rfl rfl rfl rfl rfl
  · split <;> exact .of_same rfl rfl rfl rfl rfl rfl rfl

/-- **A structure of another package adds its types and containers to the tables.** -/
theorem adopts_load (h : g.samePackage l = false) : Adopts l.library.listing g (g.load l) := by
  rw [load_of_other h, adoptLibrary]
  let merged : Generator := { g.settleRuntime l.library with
    library := (g.settleRuntime l.library).library.mergeInOrder l.library l.merged }
  have hmerged : Adopts [] (g.settleRuntime l.library) merged :=
    .of_same rfl rfl rfl rfl rfl rfl rfl
  have hadopted := adopts_foldl l.library.listing merged
  exact (((adopts_settleRuntime g l.library).append hmerged).append hadopted).logging _

/-! ## Names of containers -/

theorem containerNames_settleRuntime (g : Generator) (s : Structure) :
    (g.settleRuntime s).containerNames = g.containerNames ∧
      (g.settleRuntime s).containersDone = g.containersDone := by
  unfold settleRuntime
  split
  · exact ⟨rfl, rfl⟩
  · split <;> exact ⟨rfl, rfl⟩

/-- Containers are called as before, or like classes that were taken over. -/
theorem containerNames_adoptClasses {k name : String} : ∀ (cs : List StructureClass) (g : Generator),
    (cs.foldl adoptClass g).containerNames.get? k = some name →
    g.containerNames.get? k = some name ∨ ∃ c ∈ cs, c.name = name
  | [], _, h => Or.inl h
  | c :: cs, g, h => by
    rcases containerNames_adoptClasses cs (g.adoptClass c) h with h | ⟨c', hc', hname⟩
    · unfold adoptClass at h
      split at h
      · exact Or.inl h
      · split at h
        · rcases Dict.get?_insert_cases h with ⟨_, rfl⟩ | h
          · exact Or.inr ⟨c, List.mem_cons_self, rfl⟩
          · exact Or.inl h
        · exact Or.inl h
    · exact Or.inr ⟨c', List.mem_cons_of_mem _ hc', hname⟩

theorem containerNames_load {k name : String}
    (h : (g.load l).containerNames.get? k = some name) :
    g.containerNames.get? k = some name ∨ ∃ c ∈ l.library.listing, c.name = name := by
  unfold load at h
  split at h
  case isTrue =>
    rw [foldl_pinName] at h
    exact Or.inl h
  case isFalse =>
    have hadopted := containerNames_adoptClasses l.library.listing _ h
    dsimp only at hadopted
    rwa [(containerNames_settleRuntime g l.library).1] at hadopted

/-! ## What loading leaves alone -/

theorem options_load (g : Generator) (l : Loading) : (g.load l).options = g.options := by
  cases h : g.samePackage l with
  | true => rw [load_of_own h]
  | false => exact (adopts_load h).options

theorem provider_load (g : Generator) (l : Loading) :
    (g.load l).provider = g.provider := by
  cases h : g.samePackage l with
  | true => rw [load_of_own h]
  | false => exact (adopts_load h).provider

theorem files_load (g : Generator) (l : Loading) : (g.load l).files = g.files := by
  cases h : g.samePackage l with
  | true => rw [load_of_own h]
  | false => exact (adopts_load h).files

theorem functions_load (g : Generator) (l : Loading) :
    (g.load l).functions = g.functions := by
  cases h : g.samePackage l with
  | true => rw [load_of_own h]
  | false => exact (adopts_load h).functions

/-! ## Builders of another package -/

@[simp] theorem library_adoptClass (g : Generator) (c : StructureClass) :
    (g.adoptClass c).library = g.library := by
  unfold adoptClass
  split
  · rfl
  · split <;> rfl

/-- What taking over one class leaves alone, taking over several leaves alone. -/
theorem foldl_adoptClass {β : Type} {f : Generator → β} (hf : ∀ g c, f (g.adoptClass c) = f g)
    (cs : List StructureClass) (g : Generator) : f (cs.foldl adoptClass g) = f g := by
  induction cs generalizing g with
  | nil => rfl
  | cons c cs ih => rw [List.foldl_cons, ih, hf]

theorem library_foldl_adoptClass (cs : List StructureClass) (g : Generator) :
    (cs.foldl adoptClass g).library = g.library := foldl_adoptClass library_adoptClass cs g

theorem functionAt?_registerRoots (g : Generator) (name key : String) :
    g.registerRoots.library.functionAt? name key = g.library.functionAt? name key := by
  show (g.rootClasses.foldl Structure.register _).functionAt? name key = _
  rw [rootClasses, List.foldl_cons, List.foldl_cons, List.foldl_cons, List.foldl_nil,
    Structure.functionAt?_register rfl, Structure.functionAt?_register rfl,
    Structure.functionAt?_register rfl]
  rfl

/-- No builder goes away with the runtime package that it was declared for. -/
theorem functionAt?_switchRuntime (g : Generator) (runtime name key : String) :
    (g.switchRuntime runtime).library.functionAt? name key = g.library.functionAt? name key := by
  unfold switchRuntime
  rw [functionAt?_registerRoots]
  exact Structure.functionAt?_erase (fun n hn => (List.mem_filter.1 hn).2) _ name key

theorem functionAt?_settleRuntime (g : Generator) (s : Structure) (name key : String) :
    (g.settleRuntime s).library.functionAt? name key = g.library.functionAt? name key := by
  unfold settleRuntime
  split
  · rfl
  · split
    · rfl
    · exact g.functionAt?_switchRuntime s.runtime name key

/-- **The builders of the run come before those of the structure.** -/
theorem functionAt?_load (h : g.samePackage l = false) (name key : String) :
    (g.load l).library.functionAt? name key =
      (g.library.functionAt? name key).or (l.library.functionAt? name key) := by
  rw [load_of_other h]
  show (l.library.listing.foldl adoptClass _).library.functionAt? name key = _
  rw [library_foldl_adoptClass, Structure.mergeInOrder_perm l.merged_perm,
    Structure.functionAt?_merge, functionAt?_settleRuntime]

/-! ## Operations -/

/-- What a run can be asked for, loading included. -/
inductive Operation where
  | request (r : Request)
  | load (l : Loading)

/-- The state after an operation. -/
def perform (g : Generator) : Operation → Generator
  | .request r => g.serve r
  | .load l => g.load l

/-- The state after several operations. -/
def performAll (g : Generator) (ops : List Operation) : Generator := ops.foldl perform g

/-- **What steps and loading keep, all operations keep**, over any provider. -/
theorem keeps_performAll_of_steps {I : Generator → Prop} (step : ∀ g g', Step g g' → I g → I g') :
    ∀ (ops : List Operation) (g : Generator), (∀ l, .load l ∈ ops → ∀ g, I g → I (g.load l)) →
      I g → I (g.performAll ops)
  | [], _, _, hg => hg
  | .request r :: ops, g, load, hg =>
    keeps_performAll_of_steps step ops (g.serve r) (fun l hl => load l (List.mem_cons_of_mem _ hl))
      ((g.steps_serve r).keeps step hg)
  | .load l :: ops, g, load, hg =>
    keeps_performAll_of_steps step ops (g.load l)
      (fun l hl => load l (List.mem_cons_of_mem _ hl)) (load l List.mem_cons_self g hg)

theorem provider_performAll (ops : List Operation) (g : Generator) :
    (g.performAll ops).provider = g.provider :=
  keeps_performAll_of_steps (I := fun g' => g'.provider = g.provider)
    (fun _ _ hm h => (provider_step hm).trans h) ops g
    (fun l _ g' h => (g'.provider_load l).trans h) rfl

/-- **What moves and loading keep, all operations keep**, over a provider that answers with definitions
of the identifiers it is asked for. -/
theorem keeps_performAll {I : Generator → Prop} (step : ∀ g g', Move g g' → I g → I g') :
    ∀ (ops : List Operation) (g : Generator), g.provider.Faithful →
      (∀ l, .load l ∈ ops → ∀ g, I g → I (g.load l)) → I g → I (g.performAll ops)
  | [], _, _, _, hg => hg
  | .request r :: ops, g, hp, load, hg => by
    have hmoves := moves_serve hp r
    exact keeps_performAll step ops (g.serve r) (hmoves.extends.provider ▸ hp)
      (fun l hl => load l (List.mem_cons_of_mem _ hl)) (hmoves.keeps step hg)
  | .load l :: ops, g, hp, load, hg =>
    keeps_performAll step ops (g.load l) ((g.provider_load l).symm ▸ hp)
      (fun l hl => load l (List.mem_cons_of_mem _ hl)) (load l List.mem_cons_self g hg)

end TaskBuilders.Generator
