import PluginBridge.Proofs.State.Adapters

/-! Every plugin core has an adapter of its own. A core gets a new adapter when it is
constructed and keeps it for life, so no two cores share one. -/
namespace PluginBridge.State
open Plugin
variable {state : State}

/-- How many adapters there are, and which of them the cores have. -/
def roster (state : State) : Nat × List AdapterId :=
  (state.adapters.length, state.cores.map (·.adapter))

/-- A change leaves the roster alone, or adds an adapter to it, for a new core or for
nobody. -/
theorem roster_change (state : State) (change : Change) :
    (state.change change).roster = state.roster ∨
      (state.change change).roster = (state.roster.1 + 1, state.roster.2) ∨
      (state.change change).roster = (state.roster.1 + 1, state.roster.2 ++ [state.roster.1]) := by
  have kept (id : CoreId) (one : Core → Core) (same : ∀ core, (one core).adapter = core.adapter) :
      (state.updateCore id one).roster = state.roster := by
    refine Prod.ext rfl (List.ext_getElem? fun place => ?_)
    simp only [roster, updateCore, List.getElem?_map, List.getElem?_modify]
    split
    · cases state.cores[place]? <;> simp [same]
    · simp
  cases registers : change.registers with
  | true =>
    obtain ⟨registry, adapters, logs, many, same⟩ := registers_change state registers
    exact .inl (by rw [same, roster, many]; rfl)
  | false =>
    cases change with
    | newAdapter platform consoleName logEvents =>
      exact .inr (.inl (by simp [State.change, addAdapter, roster]))
    | construct platform data settings code =>
      exact .inr (.inr (by simp [State.change, addAdapter, addCore, roster]))
    | setStage core stage => exact .inl (kept core _ fun _ => rfl)
    | setBusy core busy => exact .inl (kept core _ fun _ => rfl)
    | _ => first | exact .inl rfl | cases registers

structure CoresApart (state : State) : Prop where
  there : ∀ id ∈ state.roster.2, id < state.roster.1
  distinct : state.roster.2.Nodup

namespace CoresApart

theorem change (apart : state.CoresApart) (change : Change) : (state.change change).CoresApart := by
  have onward (id : AdapterId) (member : id ∈ state.roster.2) : id < state.roster.1 + 1 :=
    Nat.lt_succ_of_lt (apart.there id member)
  obtain same | more | core := roster_change state change
  · exact ⟨same ▸ apart.there, same ▸ apart.distinct⟩
  · exact ⟨more ▸ onward, more ▸ apart.distinct⟩
  · constructor
    · rw [core]
      exact List.forall_mem_append.mpr ⟨onward, by simp⟩
    · rw [core, List.nodup_append]
      refine ⟨apart.distinct, List.nodup_singleton _, ?_⟩
      rintro old member new last rfl
      rw [List.mem_singleton.mp last] at member
      exact Nat.lt_irrefl _ (apart.there _ member)

/-- Cores of different numbers have different adapters. -/
theorem ne (apart : state.CoresApart) {first second : CoreId} {one two : Core}
    (there : state.cores[first]? = some one) (too : state.cores[second]? = some two)
    (different : second ≠ first) : two.adapter ≠ one.adapter := by
  intro same
  obtain ⟨inside, -⟩ := List.getElem?_eq_some_iff.mp too
  have bounded : second < (state.cores.map (·.adapter)).length := by simpa using inside
  exact different ((List.getElem?_inj bounded apart.distinct).mp (by simp [there, too, same]))

end CoresApart

/-- A core keeps its adapter for life. -/
theorem Reaches.adapter {later : State} {core : CoreId} {known : Core}
    (reaches : state.Reaches later) (there : state.cores[core]? = some known) :
    ∃ now, later.cores[core]? = some now ∧ now.adapter = known.adapter := by
  have rostered : later.roster.2[core]? = some known.adapter := by
    refine reaches.keeps (fun later => later.roster.2[core]? = some known.adapter)
      (fun later change _ listed => ?_) (by simp [roster, there])
    obtain same | more | added := roster_change later change
    · rwa [same]
    · rwa [more]
    · rw [added, List.getElem?_append_left (List.getElem?_eq_some_iff.mp listed).1, listed]
  simpa [roster] using rostered

theorem Reachable.coresApart (reachable : state.Reachable) : state.CoresApart :=
  reachable.law CoresApart (fun _ _ => ⟨by simp [State.initial, roster], List.nodup_nil⟩)
    fun _ change apart => apart.change change

end PluginBridge.State
