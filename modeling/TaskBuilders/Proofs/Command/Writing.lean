import TaskBuilders.Command.Run
import TaskBuilders.Proofs.Files.Placing

/-!
# Where sources are written

Sources are put at their places one by one, and one that cannot be written is left out. Sources whose places
all lie directly in one directory therefore change nothing outside it.

* `run_writeSource` — one source
* `staysWithin_writeSources` — all sources of a run, also when some of them cannot be written
-/

namespace TaskBuilders.Command

open Files Tree

/-! ## Sources -/

/-- What follows a step that succeeded. -/
theorem run_bind_of_ok {α β : Type} {x : Step α} {k : α → Step β} {s s' : Session} {a : α}
    (h : x.run s = (.ok a, s')) : (x >>= k).run s = (k a).run s' := by
  have hbind : (x >>= k).run s = ExceptT.bindCont k (x.run s).1 (x.run s).2 := rfl
  rw [hbind, h]
  rfl

/-- A source is written into the tree, or the reason against that is kept. -/
theorem run_writeSource (sourceRoot : Location) (f : SourceFile) (faults : GenerationFaults)
    (s : Session) : (writeSource sourceRoot f faults).run s =
      match s.tree.place (below sourceRoot f.path) (.file (f.formatted?.getD f.raw)) with
      | .error o =>
        (.ok { faults with unwritten := faults.unwritten ++ [f.path ++ ": " ++ o.message] }, s)
      | .ok tree => (.ok (if f.formatted?.isSome then faults
          else { faults with malformed := faults.malformed ++ [f.path] }), { s with tree }) := by
  have hget : (writeSource sourceRoot f faults).run s = ExceptT.run
      (match s.tree.place (below sourceRoot f.path) (.file (f.formatted?.getD f.raw)) with
      | .error o => (pure { faults with
          unwritten := faults.unwritten ++ [f.path ++ ": " ++ o.message] } : Step GenerationFaults)
      | .ok tree => do
        modify fun s => { s with tree }
        return if f.formatted?.isSome then faults
          else { faults with malformed := faults.malformed ++ [f.path] }) s := rfl
  rw [hget]
  cases s.tree.place (below sourceRoot f.path) (.file (f.formatted?.getD f.raw)) <;> rfl

theorem staysWithin_writeSource {sourceRoot dir : Location} {f : SourceFile} {name : String}
    (h : below sourceRoot f.path = dir ++ [name]) (faults : GenerationFaults) (s : Session) :
    ∃ faults' s', (writeSource sourceRoot f faults).run s = (.ok faults', s') ∧
      StaysWithin dir s.tree s'.tree := by
  rw [run_writeSource, h]
  cases hplace : s.tree.place (dir ++ [name]) (.file (f.formatted?.getD f.raw)) with
  | error o => exact ⟨_, s, rfl, .refl dir s.tree⟩
  | ok tree => exact ⟨_, _, rfl, staysWithin_place hplace⟩

/-- **Sources that all belong into one directory change nothing outside it**, also when some of them
cannot be written. -/
theorem staysWithin_writeSources {sourceRoot dir : Location} : ∀ (fs : List SourceFile)
    (faults : GenerationFaults) (s : Session),
    (∀ f ∈ fs, ∃ name, below sourceRoot f.path = dir ++ [name]) →
    StaysWithin dir s.tree ((writeSources sourceRoot fs faults).run s).2.tree
  | [], _, s, _ => .refl dir s.tree
  | f :: fs, faults, s, h => by
    obtain ⟨name, hname⟩ := h f List.mem_cons_self
    obtain ⟨faults', s', hrun, hfirst⟩ := staysWithin_writeSource hname faults s
    have hall : (writeSources sourceRoot (f :: fs) faults).run s =
        (writeSources sourceRoot fs faults').run s' := run_bind_of_ok hrun
    rw [hall]
    exact hfirst.trans
      (staysWithin_writeSources fs faults' s' fun f' hf' => h f' (List.mem_cons_of_mem f hf'))

end TaskBuilders.Command
