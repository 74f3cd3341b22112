import TaskBuilders.Proofs.Generator.Agreement
import TaskBuilders.Proofs.Generator.Ownership

/-!
# Libraries that were loaded are not written again

What a loaded library has counts as done: its types need no wrappers, its capabilities no containers and
its classes no builders for the tags that they have. Four tables say so, and nothing that a run does takes
anything out of them.

* `Produced` — the structures that runs leave, and what is read back of them
* `Produced.orderly` — their classes belong to a type or to a capability, never to both
* `adopts_loads`, `functionAt?_loads` — what several libraries leave in the tables
* `loaded_never_written` — nothing of a loaded library is written again
-/

namespace TaskBuilders

open Naming Source Text

/-! ## Structures of runs -/

namespace Structure

variable {s s' other : Structure}

/-- Every class has its name for a key, and belongs to a type or to a capability, not to both. -/
def Orderly (s : Structure) : Prop :=
  ∀ name c, s.class? name = some c → c.name = name ∧ (c.source = "" ∨ c.capability = "")

theorem Orderly.keyed (h : Orderly s) : Keyed s := fun name c hc => (h name c hc).1

theorem Orderly.of_headings (h : Orderly s) (hs : SameHeadings s s') : Orderly s' := by
  intro name c hc
  have hheading := hs name
  rw [hc, Option.map_some] at hheading
  obtain ⟨c', hc', he⟩ := Option.map_eq_some_iff.1 hheading.symm
  obtain ⟨hname, hsource, hcapability⟩ :
      c'.name = c.name ∧ c'.source = c.source ∧ c'.capability = c.capability := by
    simpa [StructureClass.heading] using he
  rw [← hname, ← hsource, ← hcapability]
  exact h name c' hc'

theorem Orderly.register (h : Orderly s) {c : StructureClass}
    (hc : c.source = "" ∨ c.capability = "") : Orderly (s.register c) := by
  intro name c' hc'
  rcases class?_register_cases hc' with ⟨rfl, rfl⟩ | hc'
  · exact ⟨rfl, hc⟩
  · exact h name c' hc'

theorem Orderly.erase (h : Orderly s) (names : List String) (runtime : String) :
    Orderly ⟨runtime, names.foldl Dict.erase s.classes⟩ := by
  intro name c hc
  have hc : (names.foldl Dict.erase s.classes).get? name = some c := hc
  rw [Dict.get?_foldl_erase] at hc
  split at hc
  · cases hc
  · exact h name c hc

/-- Where both structures have a class, the first one says what it belongs to. -/
theorem Orderly.merge (h : Orderly s) (ho : Orderly other) : Orderly (s.merge other) := by
  intro name c hc
  rw [class?_merge] at hc
  cases htheirs : other.class? name with
  | none =>
    rw [htheirs] at hc
    exact h name c hc
  | some theirs =>
    rw [htheirs] at hc
    obtain rfl := Option.some.inj hc
    cases hmine : s.class? name with
    | none => exact ho name theirs htheirs
    | some mine => exact h name mine hmine

end Structure

namespace Generator

variable {g g' g₀ : Generator} {s : Structure} {l : Loading} {ls : List Loading}

open Structure

theorem orderly_namingStep (h : Orderly g.library) (hm : NamingStep g g') : Orderly g'.library := by
  cases hm with
  | none same => exact h.of_headings same.headings
  | nameContainer id => rwa [(sameBeyondNames_containerName g id).library]
  | openContainer _ => exact h.register (Or.inl rfl)
  | openTarget d =>
    obtain ⟨traits, hlibrary⟩ := g.library_openTarget d
    rw [hlibrary]
    exact h.register (Or.inr rfl)

/-- The classes that builders run on belong to nothing. -/
theorem orderly_roots (h : Orderly s) (g : Generator) :
    Orderly (g.rootClasses.foldl Structure.register s) := by
  rw [rootClasses, List.foldl_cons, List.foldl_cons, List.foldl_cons, List.foldl_nil]
  exact ((h.register (Or.inl rfl)).register (Or.inl rfl)).register (Or.inl rfl)

theorem orderly_settleRuntime (h : Orderly g.library) (s : Structure) :
    Orderly (g.settleRuntime s).library := by
  unfold settleRuntime
  split
  · exact h
  · split
    · exact h
    · exact orderly_roots (s := ⟨_, _⟩) (h.erase _ _) _

theorem orderly_load (h : Orderly g.library) (hl : Orderly l.library) : Orderly (g.load l).library := by
  cases hsame : g.samePackage l with
  | true => rw [load_of_own hsame]; exact h
  | false =>
    rw [load_of_other hsame]
    show Orderly (l.library.listing.foldl adoptClass _).library
    rw [library_foldl_adoptClass, mergeInOrder_perm l.merged_perm]
    exact (orderly_settleRuntime h l.library).merge hl

/-- The structures that runs leave, with all the libraries that they load in whatever order, and what is
read back of them. -/
inductive Produced : Structure → Prop where
  | run {p : Provider} {o : GeneratorOptions} {g₀ : Generator} (started : Generator.new p o = .ok g₀)
      (ops : List Operation) (loaded : ∀ l, .load l ∈ ops → Produced l.library) :
      Produced (g₀.performAll ops).library
  | stored {s s' : Structure} (produced : Produced s) (read : decode s.encode = .ok s') : Produced s'

/-- **Classes that runs leave belong to a type or to a capability, never to both.** -/
theorem Produced.orderly (h : Produced s) : Orderly s := by
  induction h with
  | run started ops _ ih =>
    refine keeps_performAll_of_steps (I := fun g => Orderly g.library)
      (fun _ _ hm hg => orderly_namingStep hg hm.namingStep) ops _
      (fun l hl _ hg => orderly_load hg (ih l hl)) ?_
    rw [(fresh_of_new started).library]
    exact orderly_roots (s := ⟨_, ∅⟩) nofun _
  | stored _ read ih =>
    rw [decode_encode_of_keyed ih.keyed] at read
    obtain rfl := Except.ok.inj read
    exact ih

/-! ## Loading several libraries -/

/-- What several libraries leave in the tables of types and containers. -/
theorem adopts_loads : ∀ (ls : List Loading) (g : Generator),
    (∀ l ∈ ls, Elsewhere g.options.importPath l.library) →
    Adopts (ls.flatMap (·.library.listing)) g (ls.foldl load g)
  | [], _, _ => .of_same rfl rfl rfl rfl rfl rfl rfl
  | l :: ls, g, h => by
    obtain ⟨hl, hls⟩ := List.forall_mem_cons.1 h
    have hfirst := adopts_load hl.samePackage
    exact hfirst.append (adopts_loads ls (g.load l) (hfirst.options.symm ▸ hls))

/-- **Of several libraries with a builder under one key, the first one counts.** -/
theorem functionAt?_loads (name key : String) : ∀ (ls : List Loading) (g : Generator),
    (∀ l ∈ ls, Elsewhere g.options.importPath l.library) →
    (ls.foldl load g).library.functionAt? name key =
      (g.library.functionAt? name key).or (ls.findSome? (·.library.functionAt? name key))
  | [], _, _ => Option.or_none.symm
  | l :: ls, g, h => by
    obtain ⟨hl, hls⟩ := List.forall_mem_cons.1 h
    rw [List.foldl_cons, functionAt?_loads name key ls (g.load l) (by rwa [options_load]),
      functionAt?_load hl.samePackage, Option.or_assoc, List.findSome?_cons]
    cases l.library.functionAt? name key <;> rfl

/-! ## Nothing is written again -/

/-- The structure has a class of a type. -/
def HasType (s : Structure) (id : String) : Prop :=
  id ≠ "" ∧ ∃ c ∈ s.classes.values, c.source = id

/-- The structure has a container of a capability. -/
def HasContainer (s : Structure) (capability : String) : Prop :=
  capability ≠ "" ∧ ∃ c ∈ s.classes.values, c.capability = capability

/-- What structures have is in the tables, and nothing of it is written. -/
structure Spares (ls : List Loading) (g : Generator) : Prop where
  types : ∀ l ∈ ls, ∀ id, HasType l.library id → ∃ t, g.resolved.get? id = some t
  containers : ∀ l ∈ ls, ∀ c, HasContainer l.library c → c ∈ g.containersDone
  builders : ∀ name key f, ls.findSome? (·.library.functionAt? name key) = some f →
    g.library.functionAt? name key = some f
  noWrapper : ∀ w ∈ g.wrappers, ∀ l ∈ ls, ¬ HasType l.library w.source
  noContainer : ∀ c ∈ g.containers, ∀ l ∈ ls, ¬ HasContainer l.library c.source
  noBuilder : ∀ d ∈ g.decls, ∀ l ∈ ls, l.library.containsFunction d.parent.type d.tag = false

/-- A place that is free in the library is free in all structures. -/
theorem Spares.free (h : Spares ls g) {name tag : String}
    (hnew : g.library.containsFunction name tag = false) (hl : l ∈ ls) :
    l.library.containsFunction name tag = false := by
  rw [containsFunction_eq_false_iff] at hnew ⊢
  have hnone : ls.findSome? (·.library.functionAt? name (lowercase tag)) = none := by
    cases hfound : ls.findSome? (·.library.functionAt? name (lowercase tag)) with
    | none => rfl
    | some f =>
      rw [h.builders _ _ f hfound] at hnew
      cases hnew
  exact List.findSome?_eq_none_iff.1 hnone l hl

/-- Every move spares what structures have. -/
theorem Spares.move (h : Spares ls g) (hm : Move g g') : Spares ls g' where
  types := by
    intro l hl id hid
    obtain ⟨t, ht⟩ := h.types l hl id hid
    obtain ⟨t', ht', _⟩ := hm.extends.resolved id t ht
    exact ⟨t', ht'⟩
  containers := fun l hl c hc => hm.extends.containersDone c (h.containers l hl c hc)
  builders := fun name key f hf => functionAt?_step hm.step (h.builders name key f hf)
  noWrapper := by
    intro w hw l hl htype
    rcases hm.writes (wrapper_mem_blocks hw) with hw | ⟨v, hv, hnew⟩ | ⟨_, hc, _⟩ | ⟨_, hd⟩
    · exact h.noWrapper w (mem_wrappers.2 hw) l hl htype
    · obtain rfl := Block.wrapper.inj hv
      obtain ⟨t, ht⟩ := h.types l hl _ htype
      rw [hnew] at ht
      cases ht
    · cases hc
    · cases hd
  noContainer := by
    intro c hc l hl hcontainer
    rcases hm.writes (container_mem_blocks hc) with hc | ⟨_, hw, _⟩ | ⟨e, he, hnew⟩ | ⟨_, hd⟩
    · exact h.noContainer c (mem_containers.2 hc) l hl hcontainer
    · cases hw
    · obtain rfl := Block.container.inj he
      exact hnew (h.containers l hl _ hcontainer)
    · cases hd
  noBuilder := by
    rcases hm.builds with ⟨hdecls, _⟩ | ⟨path, parent, tag, d, className, hfile, _, hnew, _, rfl⟩
    · exact fun d hd => h.noBuilder d (hdecls.subset hd)
    · intro b hb l hl
      rcases (mem_decls_build hfile).1 hb with rfl | rfl | hb
      · exact h.free hnew hl
      · exact h.free hnew hl
      · exact h.noBuilder b hb l hl

/-- A fresh run that loads structures of other packages has written nothing of them. -/
theorem Spares.loads {p : Provider} (hfresh : Fresh p g) (horderly : ∀ l ∈ ls, Orderly l.library)
    (helsewhere : ∀ l ∈ ls, Elsewhere g.options.importPath l.library) :
    Spares ls (ls.foldl load g) := by
  have ha := adopts_loads ls g helsewhere
  have hblocks : (ls.foldl load g).blocks = [] := by
    rw [blocks, ha.files, hfresh.files]
    rfl
  have hmem : ∀ l ∈ ls, ∀ c ∈ l.library.classes.values, c ∈ ls.flatMap (·.library.listing) := by
    intro l hl c hc
    rw [← (horderly l hl).keyed.listing_eq] at hc
    exact List.mem_flatMap.2 ⟨l, hl, hc⟩
  refine ⟨?_, ?_, ?_, ?_, ?_, ?_⟩
  · rintro l hl id ⟨hid, c, hc, rfl⟩
    exact ha.types c (hmem l hl c hc) hid
  · rintro l hl capability ⟨hcapability, c, hc, rfl⟩
    obtain ⟨name, hname⟩ := (Dict.mem_values_iff _ _).1 hc
    have hsource := (horderly l hl name c hname).2.resolve_right hcapability
    exact ha.containers c (hmem l hl c hc) hsource hcapability
  · intro name key f hf
    rw [functionAt?_loads name key ls g helsewhere, functionAt?_of_fresh hfresh, Option.none_or, hf]
  · rw [Generator.wrappers, hblocks]
    exact fun _ hw => (List.not_mem_nil hw).elim
  · rw [Generator.containers, hblocks]
    exact fun _ hc => (List.not_mem_nil hc).elim
  · rw [decls, Generator.builders, hblocks]
    exact fun _ hb => (List.not_mem_nil hb).elim

/-- **Nothing of a loaded library is written again.** A fresh run over a provider that answers with
definitions of the identifiers it is asked for loads structures that other runs left, in whatever
order; none of them has a generated class in the output package. Whatever it is asked for then, it
writes no wrapper for a type of these structures, no container for one of their capabilities and no
builder for a tag that one of their classes has, whatever its case. Every builder of theirs stays as
it is in the first structure that has it. And the methods that are written have receivers in the
output package, which are wrappers of the run. -/
theorem loaded_never_written {p : Provider} {o : GeneratorOptions} {g₀ : Generator} (hp : p.Faithful)
    (hnew : Generator.new p o = .ok g₀) (hproduced : ∀ l ∈ ls, Produced l.library)
    (helsewhere : ∀ l ∈ ls, Elsewhere o.importPath l.library) (rs : List Request) :
    let g := (ls.foldl load g₀).serveAll rs
    (∀ w ∈ g.wrappers, ∀ l ∈ ls, ¬ HasType l.library w.source) ∧
    (∀ c ∈ g.containers, ∀ l ∈ ls, ¬ HasContainer l.library c.source) ∧
    (∀ b ∈ g.builders, ∀ l ∈ ls, l.library.containsFunction b.decl.parent.type b.decl.tag = false) ∧
    (∀ name key f, ls.findSome? (·.library.functionAt? name key) = some f →
      g.library.functionAt? name key = some f) ∧
    (∀ b ∈ g.builders, b.decl.parent.kind = .owner → ∃ w ∈ g.wrappers,
      b.receiver = some ("o *" ++ w.ident) ∧
      ∃ ident, b.decl.parent.type = qualify o.importPath ident) := by
  intro g
  have hfresh := fresh_of_new hnew
  have hfaithful : g₀.provider.Faithful := hfresh.provider ▸ hp.safe
  have himport : g₀.options.importPath = o.importPath := by rw [options_of_new hnew]; rfl
  rw [← himport] at helsewhere ⊢
  have ha := adopts_loads ls g₀ helsewhere
  have hmoves := moves_serveAll (ha.provider.symm ▸ hfaithful) rs
  have hoptions : g.options = g₀.options := hmoves.extends.options.trans ha.options
  have hspares : Spares ls g := hmoves.keeps (fun _ _ hm h => h.move hm)
    (.loads hfresh (fun l hl => (hproduced l hl).orderly) helsewhere)
  -- loading and serving are operations
  have hops : g = g₀.performAll (ls.map .load ++ rs.map .request) := by
    rw [performAll, List.foldl_append, List.foldl_map, List.foldl_map]
    rfl
  have hresident : Resident g := hops ▸ keeps_performAll (fun _ _ hm h => h.move hm) _ g₀ hfaithful
    (fun l _ _ h => h.load l) (.fresh hfresh)
  have hmade : WellMade g := hops ▸ keeps_performAll_of_steps (fun _ _ hm h => h.step hm) _ g₀
    (fun l _ _ h => h.load l) (.fresh hfresh)
  refine ⟨hspares.noWrapper, hspares.noContainer,
    fun b hb => hspares.noBuilder b.decl (List.mem_map_of_mem hb), hspares.builders,
    fun b hb howner => ?_⟩
  obtain ⟨w, hw, ident, _, htype, hreceiver⟩ := hresident.receiver_eq hmade hb howner
  exact ⟨w, hw, hreceiver, ident, hoptions ▸ htype⟩

/-- A loom with threads, and a shed that looms stand in. -/
def loomShed : List TaskDefinition :=
  [{ id := "x.Loom", executable := true, capabilities := ["x.Tool"],
     nested := [⟨"thread", "x.Thread"⟩] },
   { id := "x.Thread" },
   { id := "x.Shed", nested := [⟨"loom", "x.Loom"⟩] }]

theorem loaded_never_written_loomShed :
    (Provider.static loomShed).Faithful ∧
    ∃ base g₀ s,
      Generator.new (.static loomShed) { importPath := "m/lib", runtimePath := "m/rt" } = .ok base ∧
      Generator.new (.static loomShed) { importPath := "m/out", runtimePath := "m/rt" } = .ok g₀ ∧
      decode (base.performAll [.request (.tagAlias ⟨"loom", "x.Loom", true⟩)]).library.encode = .ok s ∧
      Produced s ∧ Elsewhere "m/out" s ∧
      let g := ([.byName s].foldl load g₀).serveAll [.containers ["x.Tool"],
        .tagAlias ⟨"LOOM", "x.Loom", true⟩, .resolve "x.Shed"]
      g.wrappers.map (·.ident) = ["DSLShed"] ∧
      (∀ w ∈ g.wrappers, ¬ HasType s w.source) ∧
      (∀ c ∈ g.containers, ¬ HasContainer s c.source) ∧
      ∀ b ∈ g.builders, s.containsFunction b.decl.parent.type b.decl.tag = false := by
  have hp := Provider.faithful_static loomShed
  obtain ⟨base, hbase⟩ := exists_new (Provider.static loomShed)
    (o := { importPath := "m/lib", runtimePath := "m/rt" }) (by decide) (by decide)
  obtain ⟨g₀, hnew⟩ := exists_new (Provider.static loomShed)
    (o := { importPath := "m/out", runtimePath := "m/rt" }) (by decide) (by decide)
  have hproduced := Produced.run hbase [.request (.tagAlias ⟨"loom", "x.Loom", true⟩)] (by simp)
  have hread := decode_encode_of_keyed hproduced.orderly.keyed
  have helsewhere : Elsewhere "m/out"
      (base.performAll [.request (.tagAlias ⟨"loom", "x.Loom", true⟩)]).library := by
    obtain rfl := Except.ok.inj hbase
    decide +kernel
  let loading : Loading :=
    .byName (base.performAll [.request (.tagAlias ⟨"loom", "x.Loom", true⟩)]).library
  have hall : ∀ l ∈ [loading], Produced l.library := List.forall_mem_singleton.2 hproduced
  obtain ⟨hwrappers, hcontainers, hbuilders, _⟩ := loaded_never_written hp hnew hall
    (List.forall_mem_singleton.2 helsewhere)
    [.containers ["x.Tool"], .tagAlias ⟨"LOOM", "x.Loom", true⟩, .resolve "x.Shed"]
  refine ⟨hp, base, g₀, _, hbase, hnew, hread, hproduced, helsewhere, ?_,
    fun w hw => hwrappers w hw _ List.mem_cons_self,
    fun c hc => hcontainers c hc _ List.mem_cons_self,
    fun b hb => hbuilders b hb _ List.mem_cons_self⟩
  obtain rfl := Except.ok.inj hbase
  obtain rfl := Except.ok.inj hnew
  decide +kernel

end Generator

end TaskBuilders
