import MaRuntime.Rpc
import MaRuntime.Lib.Run

/-!
# What the host keeps of a plugin's state

A plugin hands its state over through `ma_set_state`. The host ignores bytes that equal the
snapshot, the state it saved last, and queues any other; after a dispatch the queued bytes are saved
(`persistPending`) and become the snapshot.

* `queuedState` and `nextSnapshot` say what the host makes of the states a call hands over
  (`playExport_state`).
* `dispatchStep_keeps` is the step, `snapshot_run` the run: after any dispatches the snapshot is a
  function of the states they handed over, those pending before them first.
-/

namespace MaRuntime

open Lib (Proc Run)

/-! ## The states a call hands over -/

/-- The state that is queued: the last one that differs from the snapshot. -/
def queuedState (snapshot : Bytes) (states : List Bytes) : Option Bytes :=
  states.reverse.find? (· ≠ snapshot)

/-- The snapshot after a dispatch that handed the states over and whose save got through. -/
def nextSnapshot (snapshot : Bytes) (states : List Bytes) : Bytes :=
  (queuedState snapshot states).getD snapshot

/-- The states a call of an export hands over to `ma_set_state`. -/
def handedStates (env : Env) (n : Nat) (exportName : String) (input : Bytes) (cell : PluginCell)
    (io : Io) : List Bytes :=
  ((env.guest n cell.plugin exportName input).trace (hostFn env) (cell, io)).filterMap fun
    | (.maSetState, state) => some state
    | _ => none

theorem queuedState_cons (snapshot state : Bytes) (states : List Bytes) :
    queuedState snapshot (state :: states) =
      (queuedState snapshot states).or (if state ≠ snapshot then some state else none) := by
  unfold queuedState
  rw [List.reverse_cons, List.find?_append]
  by_cases h : state = snapshot <;> simp [h]

/-- **What the host keeps of the states**: the snapshot stays, the last one that differs from it is
pending. -/
theorem foldl_setState {snapshot : Bytes} : ∀ (states : List Bytes) (ctx : StateCtx),
    ctx.persisted = some snapshot →
    (states.foldl StateCtx.setState ctx).persisted = some snapshot ∧
      (states.foldl StateCtx.setState ctx).pending =
        (queuedState snapshot states).or ctx.pending
  | [], ctx, h => ⟨h, rfl⟩
  | state :: states, ctx, h => by
    rw [List.foldl_cons, queuedState_cons]
    by_cases hs : state = snapshot
    · have hset : ctx.setState state = ctx := by simp [StateCtx.setState, h, hs]
      rw [hset]
      simpa [hs] using foldl_setState states ctx h
    · have hset : ctx.setState state = { ctx with pending := some state, dirty := true } := by
        simp [StateCtx.setState, h, Ne.symm hs]
      rw [hset]
      obtain ⟨hp, hq⟩ :=
        foldl_setState states { ctx with pending := some state, dirty := true } h
      refine ⟨hp, hq.trans ?_⟩
      cases queuedState snapshot states <;> simp [hs]

/-- What an answered host call does to the state of its plugin. -/
def StateCtx.afterCall (ctx : StateCtx) : HostFn × Bytes → StateCtx
  | (.maSetState, state) => ctx.setState state
  | _ => ctx

theorem hostFn_answered {env : Env} {op : HostFn × Bytes} {s s' : PluginCell × Io} {ans : Bytes}
    (h : hostFn env op s = (some ans, s')) : s'.1.state = s.1.state.afterCall op := by
  obtain ⟨fn, input⟩ := op
  obtain ⟨cell, io⟩ := s
  unfold hostFn at h
  dsimp only at h
  split at h
  · exact absurd h (by simp)
  · cases fn <;> dsimp only at h
    case maSetState =>
      simp only [Prod.mk.injEq] at h
      rw [← h.2]
      rfl
    all_goals
      split at h <;> simp only [Prod.mk.injEq, reduceCtorEq, false_and] at h
      rw [← h.2]
      rfl

theorem hostFn_refused {env : Env} {op : HostFn × Bytes} {s s' : PluginCell × Io}
    (h : hostFn env op s = (none, s')) : s' = s := by
  obtain ⟨fn, input⟩ := op
  obtain ⟨cell, io⟩ := s
  unfold hostFn at h
  dsimp only at h
  split at h
  · simp only [Prod.mk.injEq, true_and] at h
    exact h.symm
  · cases fn <;> dsimp only at h
    case maSetState => simp at h
    all_goals
      split at h <;> simp only [Prod.mk.injEq, reduceCtorEq, false_and, true_and] at h
      exact h.symm

/-- **A call leaves the plugin's state as its handed states make it.** -/
theorem playExport_state (env : Env) (n : Nat) (exportName : String) (input : Bytes)
    (cell : PluginCell) (io : Io) :
    (playExport env n exportName input cell io).2.1.state =
      (handedStates env n exportName input cell io).foldl StateCtx.setState cell.state := by
  unfold handedStates
  rw [List.foldl_filterMap]
  refine (Lib.Interaction.run_foldl (p := fun s : PluginCell × Io => s.1.state)
    (fun op s ans s' h => hostFn_answered h) (fun op s s' h => ?_) _ (cell, io)).trans ?_
  · rw [hostFn_refused h]
  · congr 1
    funext st op
    obtain ⟨fn, input⟩ := op
    cases fn <;> rfl

theorem setState_persisted (ctx : StateCtx) (state : Bytes) :
    (ctx.setState state).persisted = ctx.persisted := by
  unfold StateCtx.setState
  split
  · rfl
  · rfl

/-- A call moves no snapshot. -/
theorem playExport_persisted (env : Env) (n : Nat) (exportName : String) (input : Bytes)
    (cell : PluginCell) (io : Io) :
    (playExport env n exportName input cell io).2.1.state.persisted = cell.state.persisted := by
  rw [playExport_state]
  generalize handedStates env n exportName input cell io = states
  generalize cell.state = ctx
  induction states generalizing ctx with
  | nil => rfl
  | cons state states ih => exact (ih _).trans (setState_persisted ctx state)

/-! ## Dispatches -/

/-- Another content of one cell. -/
def World.withCell (w : World) (i : Nat) (cell : PluginCell) : World :=
  { w with rt := { w.rt with cells := Function.update w.rt.cells i cell } }

@[simp] theorem World.withCell_self (w : World) (i : Nat) (cell : PluginCell) :
    (w.withCell i cell).rt.cells i = cell := by
  simp [World.withCell]

@[simp] theorem World.withCell_io (w : World) (i : Nat) (cell : PluginCell) :
    (w.withCell i cell).io = w.io := rfl

/-- The cell with nothing queued. -/
def PluginCell.drained (cell : PluginCell) : PluginCell :=
  { cell with
    state := { cell.state with pending := none }, createQueue := [], deleteQueue := [] }

/-- The host keeps the snapshot of the plugin in cell `i`, and what waits for the next save. -/
structure HostKeeps (w : World) (i : Nat) (snapshot : Bytes) (pending : Option Bytes) : Prop where
  pending : (w.rt.cells i).state.pending = pending
  persisted : (w.rt.cells i).state.persisted = some snapshot

/-- No state of the plugin in cell `i` is pending, and the snapshot is `snapshot`. -/
abbrev AtRest (w : World) (i : Nat) (snapshot : Bytes) : Prop := HostKeeps w i snapshot none

/-- The states that a call of an export in cell `i` hands over when it is the next call. -/
def handedNext (env : Env) (exportName : String) (input : Bytes) (i : Nat) (w : World) :
    List Bytes :=
  handedStates env w.io.calls exportName input (w.rt.cells i)
    { w.io with calls := w.io.calls + 1 }

/-- One step of a run: a successful dispatch to the plugin in cell `i`, labelled by the states it
hands over, with a save that gets through; or anything that leaves the plugin alone. -/
inductive DispatchStep (env : Env) (ep : EntityPlugin) (i : Nat) :
    World → Option (List Bytes) → World → Prop where
  | dispatch {g : Lib.Guards Lock} {input : CastInput} {w w1 w2 : World} {result : DispatchResult}
      (hrun : dispatch env ep input g w = (.ok result, w1))
      (hadd : ∀ state, result.pendingState = some state →
        ∃ cid w3, dagPut env.kubo.blobs state g w1 = (.ok cid, w3))
      (hsave : persistPending env ep result.pendingState g w1 = (.ok (), w2)) :
      DispatchStep env ep i w
        (some (handedNext env "handle_call" (env.codec.encode input.toCbor) i w)) w2
  | elsewhere {w w' : World} (h : w'.rt.cells i = w.rt.cells i) : DispatchStep env ep i w none w'

/-- The snapshot, and what is pending, after dispatches that hand the states over, each with a save
that gets through. What is pending before the first counts as the first state it hands over. -/
def keptAfter (snapshot : Bytes) (pending : Option Bytes) :
    List (List Bytes) → Bytes × Option Bytes
  | [] => (snapshot, pending)
  | states :: runs =>
    (runs.foldl nextSnapshot (nextSnapshot snapshot (pending.toList ++ states)), none)

section Dispatch

variable {env : Env} {g : Lib.Guards Lock} {ep : EntityPlugin} {i : Nat} {w w' : World}
  {exportName : String} {snapshot : Bytes}

/-- A call that returns leaves the state as its handed states make it. -/
theorem callExport_state {input output : Bytes}
    (h : callExport env ep i exportName input g w = (.ok output, w')) :
    (w'.rt.cells i).state =
      (handedNext env exportName input i w).foldl StateCtx.setState (w.rt.cells i).state := by
  rcases hplay : playExport env w.io.calls exportName input (w.rt.cells i)
    { w.io with calls := w.io.calls + 1 } with ⟨result, cell, io⟩
  have hstate := playExport_state env w.io.calls exportName input (w.rt.cells i)
    { w.io with calls := w.io.calls + 1 }
  rw [hplay] at hstate
  rw [callExport_run env ep i exportName input w hplay] at h
  cases result with
  | error e => exact absurd h (by simp)
  | ok output =>
    simp only [Prod.mk.injEq, Lib.Outcome.ok.injEq] at h
    rw [← h.2]
    exact (congrArg PluginCell.state (Function.update_self i cell w.rt.cells)).trans hstate

theorem takePending_run : takePending i g w =
    (.ok (w.rt.cells i).state.pending, w.withCell i
      { w.rt.cells i with state := { (w.rt.cells i).state with pending := none } }) := rfl

/-- A dispatch takes what is queued once its export has returned. -/
theorem dispatchTo_run {input : CastInput} {output : Bytes} (hbackend : ep.backend = .extism i)
    (h : callExport env ep i exportName (env.codec.encode input.toCbor) g w = (.ok output, w')) :
    dispatchTo env ep exportName input g w =
      (.ok
        { output := output, pendingState := (w'.rt.cells i).state.pending
          createRequests := (w'.rt.cells i).createQueue
          deleteRequests := (w'.rt.cells i).deleteQueue },
      w'.withCell i (w'.rt.cells i).drained) := by
  unfold dispatchTo
  simp only [hbackend]
  rw [Proc.bind_of_ok h, Proc.bind_of_ok takePending_run]
  simp [getRt, modifyCell, modifyRt, Proc.bind_run, World.withCell, PluginCell.drained]

/-- **What a dispatch takes of the states**: the last one handed over that differs from the
snapshot, else what was pending before. -/
theorem dispatchTo_state {pending : Option Bytes} {input : CastInput} {result : DispatchResult}
    (hbackend : ep.backend = .extism i) (hkeeps : HostKeeps w i snapshot pending)
    (h : dispatchTo env ep exportName input g w = (.ok result, w')) :
    result.pendingState = (queuedState snapshot
        (handedNext env exportName (env.codec.encode input.toCbor) i w)).or pending ∧
      AtRest w' i snapshot := by
  have hrun := h
  unfold dispatchTo at hrun
  simp only [hbackend] at hrun
  obtain ⟨output, w1, hcall, -⟩ := Proc.bind_ok hrun
  rw [dispatchTo_run hbackend hcall] at h
  obtain ⟨hresult, rfl⟩ := Prod.mk.inj h
  obtain rfl := Lib.Outcome.ok.inj hresult
  obtain ⟨hpersisted, hpending⟩ := foldl_setState
    (handedNext env exportName (env.codec.encode input.toCbor) i w) (w.rt.cells i).state
    hkeeps.persisted
  rw [← callExport_state hcall] at hpersisted hpending
  rw [hkeeps.pending] at hpending
  refine ⟨hpending, ?_, ?_⟩
  · simp [PluginCell.drained]
  · simpa [PluginCell.drained] using hpersisted

theorem markSaved_run {state : Bytes} (hbackend : ep.backend = .extism i) :
    markSaved ep state g w = (.ok (), w.withCell i
      { w.rt.cells i with state := (w.rt.cells i).state.markSaved state }) := by
  unfold markSaved
  rw [hbackend]
  rfl

/-- After a save that gets through, the snapshot is what was pending. -/
theorem persistPending_atRest {pending : Option Bytes} (hbackend : ep.backend = .extism i)
    (hrest : AtRest w i snapshot)
    (hadd : ∀ state, pending = some state →
      ∃ cid w1, dagPut env.kubo.blobs state g w = (.ok cid, w1))
    (hsave : persistPending env ep pending g w = (.ok (), w')) :
    AtRest w' i (pending.getD snapshot) := by
  unfold persistPending at hsave
  cases pending with
  | none =>
    simp only [Proc.pure_run, Prod.mk.injEq, true_and] at hsave
    exact hsave ▸ hrest
  | some state =>
    obtain ⟨cid, w1, hput⟩ := hadd state rfl
    have hcells : w1.rt = w.rt := ((calm_dagPut _ _).of_run hput).2
    dsimp only at hsave
    rw [Proc.bind_of_ok (Proc.attempt_of_ok hput)] at hsave
    dsimp only at hsave
    rw [markSaved_run hbackend] at hsave
    simp only [Prod.mk.injEq, true_and] at hsave
    subst hsave
    refine ⟨?_, ?_⟩
    · simpa [StateCtx.markSaved, hcells] using hrest.pending
    · simp [StateCtx.markSaved]

/-- The snapshot that a dispatch saves, from what it took. -/
theorem nextSnapshot_pending (pending : Option Bytes) (states : List Bytes) :
    nextSnapshot snapshot (pending.toList ++ states) =
      ((queuedState snapshot states).or pending).getD snapshot := by
  unfold nextSnapshot
  cases pending with
  | none => simp
  | some bytes =>
    rw [Option.toList_some, List.singleton_append, queuedState_cons]
    by_cases h : bytes = snapshot <;> cases queuedState snapshot states <;> simp [h]

/-- **The step lemma**: after the save the snapshot is the state that was taken, and nothing is
pending. -/
theorem dispatchStep_keeps {pending : Option Bytes} {states : Option (List Bytes)}
    (hkind : ep.kind = .stateful) (hbackend : ep.backend = .extism i)
    (hkeeps : HostKeeps w i snapshot pending) (h : DispatchStep env ep i w states w') :
    HostKeeps w' i (keptAfter snapshot pending states.toList).1
      (keptAfter snapshot pending states.toList).2 := by
  cases h with
  | elsewhere hcell => exact ⟨hcell ▸ hkeeps.pending, hcell ▸ hkeeps.persisted⟩
  | @dispatch g input _ w1 _ result hrun hadd hsave =>
    unfold dispatch handleCall at hrun
    simp only [hkind] at hrun
    obtain ⟨hpending, hrest⟩ := dispatchTo_state hbackend hkeeps hrun
    show AtRest w' i (nextSnapshot snapshot (pending.toList ++ _))
    rw [nextSnapshot_pending, ← hpending]
    exact persistPending_atRest hbackend hrest hadd hsave

/-- Dispatches in two parts. -/
theorem keptAfter_append (snapshot : Bytes) (pending : Option Bytes)
    (runs later : List (List Bytes)) :
    keptAfter snapshot pending (runs ++ later) =
      keptAfter (keptAfter snapshot pending runs).1 (keptAfter snapshot pending runs).2 later := by
  cases runs with
  | nil => rfl
  | cons states runs =>
    cases later with
    | nil => simp [keptAfter]
    | cons states' later => simp [keptAfter]

/-- **The run lemma**: the host keeps what the states that the run handed over make of it. -/
theorem snapshot_run {pending : Option Bytes} {runs : List (Option (List Bytes))}
    (hkind : ep.kind = .stateful) (hbackend : ep.backend = .extism i)
    (hkeeps : HostKeeps w i snapshot pending) (h : Run (DispatchStep env ep i) w runs w') :
    HostKeeps w' i (keptAfter snapshot pending runs.reduceOption).1
      (keptAfter snapshot pending runs.reduceOption).2 := by
  induction h generalizing snapshot pending with
  | nil w => exact hkeeps
  | @cons w w1 w2 states runs hstep _ ih =>
    have hrun : (states :: runs).reduceOption = states.toList ++ runs.reduceOption := by
      cases states <;> rfl
    rw [hrun, keptAfter_append]
    exact ih (dispatchStep_keeps hkind hbackend hkeeps hstep)

end Dispatch

/-! ## Loading -/

/-- The state that an entity starts with, if its fetch is the `n`-th call. -/
def fetchedState (env : Env) (kind : PluginKind) (node : EntityNode) (n : Nat) : Bytes :=
  match kind, node.state with
  | .stateful, some link => (env.kubo.blobs.get n link.cid).toOption.getD []
  | _, _ => []

section Load

variable {env : Env} {g : Lib.Guards Lock} {w w' : World}

theorem initState_run {kind : PluginKind} {node : EntityNode} {state : Bytes}
    (h : initState env kind node g w = (.ok state, w')) :
    state = fetchedState env kind node w.io.calls ∧ w'.rt = w.rt := by
  refine ⟨?_, ((calm_initState env kind node).of_run h).2⟩
  cases kind with
  | stateless =>
    obtain ⟨rfl, -⟩ : [] = state ∧ w = w' := by simpa [initState] using h
    rfl
  | stateful =>
    unfold initState at h
    unfold fetchedState
    cases hlink : node.state with
    | none =>
      obtain ⟨rfl, -⟩ : [] = state ∧ w = w' := by simpa [hlink] using h
      rfl
    | some link =>
      simp only [hlink] at h
      obtain ⟨r, w1, hget, h⟩ := Proc.bind_ok h
      obtain ⟨rfl, -⟩ : r.toOption.getD [] = state ∧ w1 = w' := by simpa using h
      unfold Proc.attempt dagGet at hget
      rw [kuboCall_run] at hget
      cases hanswer : env.kubo.blobs.get w.io.calls link.cid with
      | ok bytes =>
        simp only [hanswer, Prod.mk.injEq, Lib.Outcome.ok.injEq] at hget
        dsimp only
        rw [hanswer, ← hget.1]
      | error e =>
        simp only [hanswer, Prod.mk.injEq, Lib.Outcome.ok.injEq] at hget
        dsimp only
        rw [hanswer, ← hget.1]

theorem runInit_persisted {fragment : String} {node : EntityNode} {kindNode : KindNode}
    {state : Bytes} {cell cell' : PluginCell} {lifecycle : Lifecycle}
    (h : runInit env fragment node kindNode state cell g w = (.ok (cell', lifecycle), w')) :
    cell'.state.persisted = cell.state.persisted := by
  by_cases hinit : kindNode.api.contains "init" = true
  · have hkept := playExport_persisted env w.io.calls "init" (env.codec.encode
      (InitPayload.toCbor { ctx := initCtx env fragment node, state })) cell
      { w.io with calls := w.io.calls + 1 }
    rcases hplay : playExport env w.io.calls "init" (env.codec.encode
      (InitPayload.toCbor { ctx := initCtx env fragment node, state })) cell
      { w.io with calls := w.io.calls + 1 } with ⟨result, played, io⟩
    rw [hplay] at hkept
    rw [runInit_run hinit hplay] at h
    cases result with
    | ok output =>
      simp only [Prod.mk.injEq, Lib.Outcome.ok.injEq] at h
      obtain ⟨⟨rfl, -⟩, -⟩ := h
      exact hkept
    | error e => exact absurd h (by simp)
  · rw [runInit_none hinit] at h
    obtain ⟨⟨rfl, -⟩, -⟩ : (cell = cell' ∧ Lifecycle.running = lifecycle) ∧ w = w' := by
      simpa using h
    rfl

/-- **A loaded plugin gets the next cell**, and what was fetched is its snapshot. -/
theorem load_cell {name : String} {node : EntityNode} {kindNode : KindNode} {ep : EntityPlugin}
    {lifecycle : Lifecycle} (h : load env name node kindNode g w = (.ok (ep, lifecycle), w')) :
    ep.backend = .extism w.rt.nextCell ∧ ∃ cell, w'.rt =
        { w.rt with
          cells := Function.update w.rt.cells w.rt.nextCell cell, nextCell := w.rt.nextCell + 1 } ∧
      cell.state.persisted =
        some (fetchedState env kindNode.pluginKind node (w.io.calls + 1)) := by
  cases load_run h with
  | @run _ _ _ _ _ i cell _ w1 w2 w3 _ _ _ hstate _ hidle hinit hallocate =>
    obtain ⟨rfl, h1⟩ := initState_run hstate
    have h3 : w3.rt = w2.rt := ((calm_runInit _ _ _ _ _ _).of_run hinit).2
    have hsame : w3.rt = w.rt := h3.trans (hidle.trans h1)
    obtain ⟨rfl, rfl⟩ : w3.rt.nextCell = i ∧ { w3 with rt := { w3.rt with
        cells := Function.update w3.rt.cells w3.rt.nextCell cell
        nextCell := w3.rt.nextCell + 1 } } = w' := by
      simpa [allocate, getRt, modifyRt, Proc.bind_run] using hallocate
    rw [hsame]
    exact ⟨rfl, cell, rfl, runInit_persisted hinit⟩

end Load

end MaRuntime
