import MaRuntime.FiniteEnv
import MaRuntime.Snapshot

/-!
# What an invocation leaves in the queues

The host functions queue the state a plugin hands over and the entities it wants created or deleted.
A dispatch takes the queues once its export has returned; nothing else empties them but a save,
which takes the state only.

* `ownQueues`: what one call queues; `playExport_queues`: it is added to what the queues hold.
* `dispatchTo_ok`, `dispatchTo_err`: what a dispatch takes, and what a failed one leaves.
* **`keeps_last_iff`**: a dispatch takes the last state handed over, iff that differs from the
  snapshot or all of them equal it.
* **`requests_own`**: each dispatch takes its own requests, in runs where `init` and what fails
  queue nothing, and saves queue states only.
-/

namespace MaRuntime

open Lib (Proc Run)

/-! ## Queues -/

/-- What is queued: a state to save, entities to create and entities to delete. -/
structure Queues where
  pending : Option Bytes := none
  create : List CreateEntityRequest := []
  delete : List String := []
  deriving DecidableEq, Repr

/-- What was queued first, then what was queued later; of the states the later one. -/
def Queues.append (older newer : Queues) : Queues :=
  { pending := newer.pending.or older.pending
    create := older.create ++ newer.create
    delete := older.delete ++ newer.delete }

@[simp] theorem Queues.append_empty (q : Queues) : q.append {} = q := by simp [Queues.append]

@[simp] theorem Queues.empty_append (q : Queues) : Queues.append {} q = q := by
  simp [Queues.append]

/-- What is queued in a cell. -/
def PluginCell.queues (cell : PluginCell) : Queues :=
  { pending := cell.state.pending, create := cell.createQueue, delete := cell.deleteQueue }

/-- What a dispatch took. -/
def DispatchResult.queues (result : DispatchResult) : Queues :=
  { pending := result.pendingState, create := result.createRequests
    delete := result.deleteRequests }

/-- The cell with more queued before what it holds. -/
def PluginCell.holding (cell : PluginCell) (older : Queues) : PluginCell :=
  { cell with
    state := { cell.state with pending := cell.state.pending.or older.pending }
    createQueue := older.create ++ cell.createQueue
    deleteQueue := older.delete ++ cell.deleteQueue }

@[simp] theorem PluginCell.queues_drained (cell : PluginCell) : cell.drained.queues = {} := rfl

theorem PluginCell.drained_holding (cell : PluginCell) :
    cell.drained.holding cell.queues = cell := by
  simp [PluginCell.holding, PluginCell.drained, PluginCell.queues]

theorem PluginCell.queues_holding (cell : PluginCell) (older : Queues) :
    (cell.holding older).queues = older.append cell.queues := rfl

/-! ## What a call queues -/

section Calls

variable {env : Env} {n : Nat} {exportName : String} {input : Bytes} {cell : PluginCell} {io : Io}

/-- A host function does not see what is queued, and queues behind it. -/
theorem hostFn_holding (older : Queues) (op : HostFn × Bytes) (s : PluginCell × Io) :
    hostFn env op (s.1.holding older, s.2) =
      ((hostFn env op s).1, ((hostFn env op s).2.1.holding older, (hostFn env op s).2.2)) := by
  obtain ⟨fn, input⟩ := op
  obtain ⟨cell, io⟩ := s
  have hfns : (cell.holding older).hostFns = cell.hostFns := rfl
  have hstate : (cell.holding older).state.setState input =
      (({ cell with state := cell.state.setState input } : PluginCell).holding older).state := by
    unfold StateCtx.setState PluginCell.holding
    by_cases h : cell.state.persisted = some input <;> simp [h]
  unfold hostFn
  dsimp only
  rw [hfns]
  split
  · rfl
  · cases fn <;> dsimp only
    case maSetState =>
      rw [hstate]
      rfl
    case maSend => split <;> rfl
    case maReply => split <;> rfl
    case maCreateEntity => split <;> simp [PluginCell.holding]
    case maDeleteEntity => split <;> simp [PluginCell.holding]

/-- What a call of an export queues: the queues it leaves when it finds them empty. -/
def ownQueues (env : Env) (n : Nat) (exportName : String) (input : Bytes) (cell : PluginCell)
    (io : Io) : Queues :=
  (playExport env n exportName input cell.drained io).2.1.queues

theorem playExport_holding (older : Queues) :
    playExport env n exportName input (cell.holding older) io =
      ((playExport env n exportName input cell io).1,
        (playExport env n exportName input cell io).2.1.holding older,
        (playExport env n exportName input cell io).2.2) := by
  have hrun := Lib.Interaction.run_map
    (f := fun s : PluginCell × Io => (s.1.holding older, s.2)) (@hostFn_holding env older)
    (env.guest n cell.plugin exportName input) (cell, io)
  unfold playExport
  rw [show (cell.holding older).plugin = cell.plugin from rfl, hrun]
  rfl

/-- **A call adds what it queues to what is queued.** -/
theorem playExport_queues :
    (playExport env n exportName input cell io).2.1.queues =
      cell.queues.append (ownQueues env n exportName input cell io) := by
  have h := @playExport_holding env n exportName input cell.drained io cell.queues
  rw [cell.drained_holding] at h
  rw [h]
  exact PluginCell.queues_holding _ _

end Calls

/-! ## What a dispatch takes -/

/-- What the next call of an export in cell `i` queues. -/
def nextQueues (env : Env) (exportName : String) (input : Bytes) (i : Nat) (w : World) : Queues :=
  ownQueues env w.io.calls exportName input (w.rt.cells i)
    { w.io with calls := w.io.calls + 1 }

section Dispatch

variable {env : Env} {g : Lib.Guards Lock} {ep : EntityPlugin} {i : Nat} {w w' : World}
  {exportName : String}

/-- A call, whether or not it fails, adds what it queues to what is queued. -/
theorem callExport_queues {input : Bytes} {o : Lib.Outcome Error Bytes}
    (h : callExport env ep i exportName input g w = (o, w')) :
    (w'.rt.cells i).queues =
      (w.rt.cells i).queues.append (nextQueues env exportName input i w) := by
  rcases hplay : playExport env w.io.calls exportName input (w.rt.cells i)
    { w.io with calls := w.io.calls + 1 } with ⟨result, cell, io⟩
  have hqueues := @playExport_queues env w.io.calls exportName input (w.rt.cells i)
    { w.io with calls := w.io.calls + 1 }
  rw [hplay] at hqueues
  rw [callExport_run env ep i exportName input w hplay] at h
  obtain ⟨-, rfl⟩ := Prod.mk.inj h
  exact (congrArg PluginCell.queues (Function.update_self i cell w.rt.cells)).trans hqueues

/-- **What a dispatch takes**: what was queued, and what its own call queued. -/
theorem dispatchTo_ok {input : CastInput} {result : DispatchResult}
    (hbackend : ep.backend = .extism i)
    (h : dispatchTo env ep exportName input g w = (.ok result, w')) :
    result.queues = (w.rt.cells i).queues.append
        (nextQueues env exportName (env.codec.encode input.toCbor) i w) ∧
      (w'.rt.cells i).queues = {} := by
  have hrun := h
  unfold dispatchTo at hrun
  simp only [hbackend] at hrun
  obtain ⟨output, w1, hcall, -⟩ := Proc.bind_ok hrun
  rw [dispatchTo_run hbackend hcall] at h
  obtain ⟨hresult, rfl⟩ := Prod.mk.inj h
  obtain rfl := Lib.Outcome.ok.inj hresult
  refine ⟨callExport_queues hcall, ?_⟩
  rw [World.withCell_self, PluginCell.queues_drained]

/-- **What a dispatch leaves that fails**: what was queued, and what its own call queued. -/
theorem dispatchTo_err {input : CastInput} {e : Error} (hbackend : ep.backend = .extism i)
    (h : dispatchTo env ep exportName input g w = (.err e, w')) :
    (w'.rt.cells i).queues = (w.rt.cells i).queues.append
      (nextQueues env exportName (env.codec.encode input.toCbor) i w) := by
  rcases hcall : callExport env ep i exportName (env.codec.encode input.toCbor) g w with ⟨o, w1⟩
  cases o with
  | ok output =>
    rw [dispatchTo_run hbackend hcall] at h
    exact absurd h (by simp)
  | err e' =>
    unfold dispatchTo at h
    simp only [hbackend] at h
    rw [Proc.bind_of_err hcall] at h
    obtain ⟨-, rfl⟩ := Prod.mk.inj h
    exact callExport_queues hcall
  | stuck =>
    unfold dispatchTo at h
    simp only [hbackend] at h
    rw [Proc.bind_of_stuck hcall] at h
    exact absurd h (by simp)

/-- The next call of an export in cell `i` returns. -/
def NextReturns (env : Env) (exportName : String) (input : Bytes) (i : Nat) (w : World) : Prop :=
  ∃ output, (playExport env w.io.calls exportName input (w.rt.cells i)
    { w.io with calls := w.io.calls + 1 }).1 = .ok output

theorem queues_markSaved (cell : PluginCell) (bytes : Bytes) :
    ({ cell with state := cell.state.markSaved bytes } : PluginCell).queues = cell.queues := rfl

/-- **What a save leaves**: it takes the state, if its export returns, and no requests. -/
theorem triggerSave_queues {o : Lib.Outcome Error (Option Cid)} (hbackend : ep.backend = .extism i)
    (h : triggerSave env ep g w = (o, w')) :
    let queued := (w.rt.cells i).queues.append (nextQueues env "save_state" [] i w)
    (w'.rt.cells i).queues = { queued with pending := none } ∨
      ¬ NextReturns env "save_state" [] i w ∧ (w'.rt.cells i).queues = queued := by
  intro queued
  rcases hplay : playExport env w.io.calls "save_state" [] (w.rt.cells i)
    { w.io with calls := w.io.calls + 1 } with ⟨result, cell, io⟩
  have hcall := callExport_run (g := g) env ep i "save_state" [] w hplay
  have hqueues := callExport_queues hcall
  unfold triggerSave at h
  simp only [hbackend] at h
  cases result with
  | error e =>
    rw [Proc.bind_of_err hcall] at h
    obtain ⟨-, rfl⟩ := Prod.mk.inj h
    refine .inr ⟨?_, hqueues⟩
    rintro ⟨output, hreturns⟩
    rw [hplay] at hreturns
    exact absurd hreturns (by simp)
  | ok output =>
    left
    generalize hw1 : ({ rt := { w.rt with cells := Function.update w.rt.cells i cell }, io := io } :
      World) = w1 at hcall hqueues
    rw [Proc.bind_of_ok hcall, Proc.bind_of_ok takePending_run] at h
    have htaken : ({ w1.rt.cells i with
        state := { (w1.rt.cells i).state with pending := none } } : PluginCell).queues =
        { queued with pending := none } :=
      congrArg (fun q : Queues => { q with pending := none }) hqueues
    generalize hw2 : w1.withCell i { w1.rt.cells i with
      state := { (w1.rt.cells i).state with pending := none } } = w2 at h
    have hcell : (w2.rt.cells i).queues = { queued with pending := none } := by
      rw [← hw2, World.withCell_self, htaken]
    cases hpending : (w1.rt.cells i).state.pending with
    | none =>
      simp only [hpending, Proc.pure_run] at h
      obtain ⟨-, rfl⟩ := Prod.mk.inj h
      exact hcell
    | some bytes =>
      simp only [hpending] at h
      rcases hput : withContext (let fragment := ep.fragment; s!"ipfs_add for '{fragment}' state")
        (dagPut env.kubo.blobs bytes) g w2 with ⟨o', w3⟩
      obtain ⟨hfree, hsame⟩ := (calm_withContext (R := Idle) _ (calm_dagPut _ _)).of_run hput
      have hcell3 : (w3.rt.cells i).queues = { queued with pending := none } := by
        rw [show w3.rt = w2.rt from hsame, hcell]
      cases o' with
      | ok cid =>
        rw [Proc.bind_of_ok hput, Proc.bind_of_ok (markSaved_run hbackend)] at h
        obtain ⟨-, rfl⟩ := Prod.mk.inj h
        rw [World.withCell_self, queues_markSaved, hcell3]
      | err e =>
        rw [Proc.bind_of_err hput] at h
        obtain ⟨-, rfl⟩ := Prod.mk.inj h
        exact hcell3
      | stuck => exact absurd rfl hfree

end Dispatch

/-! ## The last state -/

/-- The state that is handed over last, if it differs from the snapshot. -/
def lastChange (snapshot : Bytes) (states : List Bytes) : Option Bytes :=
  match states.getLast? with
  | some last => if last ≠ snapshot then some last else none
  | none => none

/-- The host queues the last state or nothing, iff that differs from the snapshot or none does. -/
theorem queuedState_eq_lastChange_iff {snapshot : Bytes} {states : List Bytes} :
    queuedState snapshot states = lastChange snapshot states ↔
      (states.getLast? = some snapshot → ∀ state ∈ states, state = snapshot) := by
  unfold queuedState lastChange
  rcases List.eq_nil_or_concat states with rfl | ⟨before, last, rfl⟩
  · simp
  · rw [List.concat_eq_append, List.reverse_append, List.getLast?_concat]
    by_cases hlast : last = snapshot
    · simp [hlast, or_imp]
    · simp [hlast]

/-- The snapshot after a save is what was handed over last, if that is what was queued. -/
theorem getD_lastChange {snapshot : Bytes} {states : List Bytes} :
    (lastChange snapshot states).getD snapshot = states.getLast?.getD snapshot := by
  unfold lastChange
  cases states.getLast? with
  | none => rfl
  | some last => by_cases hlast : last = snapshot <;> simp [hlast]

/-- **When the last state is kept.** A dispatch to a plugin at rest hands over some states. It takes
the last of them if that differs from the snapshot, else none, and after a save that gets through
the snapshot is the last of them: iff the last differs from the snapshot, or they all equal it. -/
theorem keeps_last_iff {env : Env} {g : Lib.Guards Lock} {ep : EntityPlugin} {i : Nat}
    {w w1 : World} {exportName : String} {input : CastInput} {snapshot : Bytes}
    {result : DispatchResult} {states : List Bytes} (hbackend : ep.backend = .extism i)
    (hrest : AtRest w i snapshot)
    (hrun : dispatchTo env ep exportName input g w = (.ok result, w1))
    (hstates : handedNext env exportName (env.codec.encode input.toCbor) i w = states) :
    (result.pendingState = lastChange snapshot states ∧
      ∀ w2, (∀ state, result.pendingState = some state →
          ∃ cid w3, dagPut env.kubo.blobs state g w1 = (.ok cid, w3)) →
        persistPending env ep result.pendingState g w1 = (.ok (), w2) →
        (w2.rt.cells i).state.persisted = some (states.getLast?.getD snapshot)) ↔
      (states.getLast? = some snapshot → ∀ state ∈ states, state = snapshot) := by
  obtain ⟨hpending, hrest1⟩ := dispatchTo_state hbackend hrest hrun
  rw [hstates, Option.or_none] at hpending
  rw [← queuedState_eq_lastChange_iff, hpending]
  refine and_iff_left_of_imp fun hlast w2 hadd hsave => ?_
  rw [← getD_lastChange, ← hlast]
  exact (persistPending_atRest hbackend hrest1 hadd hsave).persisted

/-! ## Runs of invocations -/

/-- What happens to a loaded plugin: a dispatch that returns, one that fails, a save, and the note
of a state saved. -/
inductive Invocation where
  | returned (exportName : String) (input : CastInput) (result : DispatchResult)
  | failed (exportName : String) (input : CastInput)
  | saving
  | marked (savedBytes : Bytes)
  | elsewhere

/-- One step of a run. -/
inductive InvocationStep (env : Env) (ep : EntityPlugin) (i : Nat) :
    World → Invocation → World → Prop where
  | returned {g : Lib.Guards Lock} {exportName : String} {input : CastInput} {w w' : World}
      {result : DispatchResult} (h : dispatchTo env ep exportName input g w = (.ok result, w')) :
      InvocationStep env ep i w (.returned exportName input result) w'
  | failed {g : Lib.Guards Lock} {exportName : String} {input : CastInput} {w w' : World}
      {e : Error} (h : dispatchTo env ep exportName input g w = (.err e, w')) :
      InvocationStep env ep i w (.failed exportName input) w'
  | saving {g : Lib.Guards Lock} {w w' : World} {o : Lib.Outcome Error (Option Cid)}
      (h : triggerSave env ep g w = (o, w')) : InvocationStep env ep i w .saving w'
  | marked {g : Lib.Guards Lock} {savedBytes : Bytes} {w w' : World}
      (h : markSaved ep savedBytes g w = (.ok (), w')) :
      InvocationStep env ep i w (.marked savedBytes) w'
  | elsewhere {w w' : World} (h : w'.rt.cells i = w.rt.cells i) :
      InvocationStep env ep i w .elsewhere w'

/-- **The condition on a step**: a dispatch that fails has queued nothing, and a save has queued no
requests, nor a state if its export fails. -/
def LeavesNothing (env : Env) (i : Nat) (w : World) : Invocation → Prop
  | .failed exportName input =>
    nextQueues env exportName (env.codec.encode input.toCbor) i w = {}
  | .saving =>
    (nextQueues env "save_state" [] i w).create = [] ∧
      (nextQueues env "save_state" [] i w).delete = [] ∧
      (NextReturns env "save_state" [] i w ∨ (nextQueues env "save_state" [] i w).pending = none)
  | _ => True

/-- **The promise of a step**: a dispatch that returns takes what its own call queued. -/
def TakesOwn (env : Env) (i : Nat) (w : World) : Invocation → Prop
  | .returned exportName input result =>
    result.queues = nextQueues env exportName (env.codec.encode input.toCbor) i w
  | _ => True

section Invocations

variable {env : Env} {ep : EntityPlugin} {i : Nat} {w w' : World} {inv : Invocation}

/-- **The step lemma**: from empty queues, a dispatch takes its own requests, and the queues are
empty again. -/
theorem InvocationStep.takesOwn (hbackend : ep.backend = .extism i)
    (hempty : (w.rt.cells i).queues = {}) (h : InvocationStep env ep i w inv w')
    (hclean : LeavesNothing env i w inv) : (w'.rt.cells i).queues = {} ∧ TakesOwn env i w inv := by
  cases h with
  | returned h =>
    obtain ⟨hresult, hleft⟩ := dispatchTo_ok hbackend h
    rw [hempty, Queues.empty_append] at hresult
    exact ⟨hleft, hresult⟩
  | failed h =>
    have hleft := dispatchTo_err hbackend h
    rw [hempty, Queues.empty_append, hclean] at hleft
    exact ⟨hleft, trivial⟩
  | saving h =>
    refine ⟨?_, trivial⟩
    obtain ⟨hcreate, hdelete, hpending⟩ := hclean
    rcases triggerSave_queues hbackend h with hleft | ⟨hfails, hleft⟩
    · rw [hleft, hempty, Queues.empty_append, hcreate, hdelete]
    · have hpending := hpending.resolve_left hfails
      rw [hleft, hempty, Queues.empty_append]
      generalize nextQueues env "save_state" [] i w = own at hcreate hdelete hpending ⊢
      cases own
      simp only at hcreate hdelete hpending
      rw [hcreate, hdelete, hpending]
  | marked h =>
    rw [markSaved_run hbackend] at h
    obtain ⟨-, rfl⟩ := Prod.mk.inj h
    refine ⟨?_, trivial⟩
    rw [World.withCell_self, queues_markSaved, hempty]
  | elsewhere h => exact ⟨by rw [h, hempty], trivial⟩

/-- **Requests belong to the invocation that made them**, in the runs of a loaded plugin where
`init` has queued nothing, the queues of a new cell being empty before, and every step leaves
nothing. -/
theorem requests_own {name : String} {node : EntityNode} {kindNode : KindNode}
    {lifecycle : Lifecycle} {g : Lib.Guards Lock} {w0 : World} {invs : List Invocation}
    (hload : load env name node kindNode g w0 = (.ok (ep, lifecycle), w))
    (hinit : (w.rt.cells w0.rt.nextCell).queues = {})
    (hrun : Run (fun s inv s' => InvocationStep env ep w0.rt.nextCell s inv s' ∧
      LeavesNothing env w0.rt.nextCell s inv) w invs w') :
    Run (fun s inv s' => InvocationStep env ep w0.rt.nextCell s inv s' ∧
      TakesOwn env w0.rt.nextCell s inv) w invs w' := by
  have hbackend := (load_cell hload).1
  refine Run.along (I := fun s => (s.rt.cells w0.rt.nextCell).queues = {})
    (fun hempty hstep => ?_) hinit hrun
  obtain ⟨hleft, htakes⟩ := hstep.1.takesOwn hbackend hempty hstep.2
  exact ⟨hleft, hstep.1, htakes⟩

end Invocations

/-! ## A sketchbook -/

/-- Hands the states over, one after the other. -/
def handsOver : List Bytes → GuestCall
  | [] => .done (.ok [], [])
  | state :: states => .call (.maSetState, state) (.error "trap", []) fun _ => handsOver states

/-- The daemon's surroundings with a plugin whose calls hand the states over. -/
def sketchEnv (states : List Bytes) : Env :=
  { ({ blobs := [("bafysketch", [1])] } : Tables).env with
    guest := fun _ _ _ _ => handsOver states }

/-- The daemon with the plugin at rest; its snapshot is empty. -/
def sketchStart (states : List Bytes) : World :=
  (started (sketchEnv states) none []).withCell 0 { emptyCell with hostFns := [.maSetState] }

/-- The handle of the plugin. -/
def sketchPlugin : EntityPlugin :=
  { fragment := "sketch", kind := .stateful, acl := "open", parent := none, backend := .extism 0 }

/-- A message to it. -/
def draw : CastInput :=
  { msg := { id := "m1", «from» := "did:ma:alice", «to» := "did:ma:runtime#sketch", createdAt := 0
             expires := 0, replyTo := none, contentType := "application/cbor", content := [] } }

/-- What the dispatch comes to. -/
def drawn (states : List Bytes) : Lib.Outcome Error DispatchResult × World :=
  dispatchTo (sketchEnv states) sketchPlugin "handle_call" draw [] (sketchStart states)

theorem sketchStart_atRest (states : List Bytes) : AtRest (sketchStart states) 0 [] :=
  ⟨rfl, rfl⟩

set_option maxRecDepth 100000

/-- Two changes, the second is kept. -/
theorem keeps_last_iff_changes :
    (drawn [[2], [1]]).1 = .ok ⟨[], lastChange [] [[2], [1]], [], []⟩ ∧
      lastChange [] [[2], [1]] = some [1] := by
  have hrun : dispatchTo (sketchEnv [[2], [1]]) sketchPlugin "handle_call" draw []
      (sketchStart [[2], [1]]) = (.ok ⟨[], some [1], [], []⟩, (drawn [[2], [1]]).2) :=
    Proc.run_of_outcome (by decide +kernel)
  have hstates : handedNext (sketchEnv [[2], [1]]) "handle_call"
      ((sketchEnv [[2], [1]]).codec.encode draw.toCbor) 0 (sketchStart [[2], [1]]) =
        [[2], [1]] := by
    decide +kernel
  obtain ⟨hlast, -⟩ := (@keeps_last_iff (sketchEnv [[2], [1]]) [] sketchPlugin 0
    (sketchStart [[2], [1]]) _ "handle_call" draw [] _ [[2], [1]] rfl (sketchStart_atRest _) hrun
    hstates).mpr (by decide)
  rw [drawn, hrun]
  exact ⟨by rw [← hlast], by decide⟩

/-- **A change taken back within a dispatch is saved**: the plugin ends with the state that is the
snapshot, and the dispatch takes the one before. -/
theorem taken_back_is_saved :
    handedNext (sketchEnv [[1], []]) "handle_call"
      ((sketchEnv [[1], []]).codec.encode draw.toCbor) 0 (sketchStart [[1], []]) = [[1], []] ∧
    (drawn [[1], []]).1 = .ok ⟨[], some [1], [], []⟩ ∧ lastChange [] [[1], []] = none ∧
    ((persistPending (sketchEnv [[1], []]) sketchPlugin (some [1]) []
      (drawn [[1], []]).2).2.rt.cells
      0).state.persisted = some [1] := by
  refine ⟨by decide +kernel, by decide +kernel, by decide, by decide +kernel⟩

/-! ## A guest that fails after a request -/

/-- The first call asks for a deletion, and then a hasty plugin traps; the next calls only
return. -/
def errandGuest (hasty : Bool) (memory : Bytes) : GuestCall :=
  if memory = [] then
    .call (.maDeleteEntity, Lib.rfcCodec.encode (.text "victim")) (.error "trap", [1])
      fun _ => .done (if hasty then .error "trap" else .ok [], [1])
  else .done (.ok [], memory)

/-- The daemon's surroundings with that plugin. -/
def errandEnv (hasty : Bool) : Env :=
  { ({ blobs := [("bafyerrand", [1])] } : Tables).live with
    guest := fun _ plugin _ _ => errandGuest hasty plugin.memory }

/-- Its kind declares no `init`. -/
def errandKind : KindNode :=
  { protocol := "/ma/errand", api := ["handle_cast"], hostFunctions := ["ma_delete_entity"] }

/-- Its node. -/
def errandNode : EntityNode :=
  { kind := "/ma/errand", behaviour := some ⟨"bafyerrand"⟩, acl := "open" }

/-- Its handle. -/
def errandPlugin : EntityPlugin :=
  { fragment := "errand", kind := .stateless, acl := "open", parent := none, backend := .extism 0 }

/-- The daemon with the plugin loaded. -/
def errandLoaded (hasty : Bool) : World :=
  (load (errandEnv hasty) "errand" errandNode errandKind []
    (started (errandEnv hasty) none [])).2

/-- The daemon after a dispatch to it. -/
def errandSent (hasty : Bool) (w : World) : World :=
  (dispatchTo (errandEnv hasty) errandPlugin "handle_cast" draw [] w).2

/-- What a dispatch takes that finds the request. -/
def oneDeletion : DispatchResult := ⟨[], none, [], ["victim"]⟩

/-- If the first call returns, its dispatch takes the request, and the next one nothing. -/
theorem requests_own_errand :
    Run (fun s inv s' => InvocationStep (errandEnv false) errandPlugin 0 s inv s' ∧
        TakesOwn (errandEnv false) 0 s inv) (errandLoaded false)
      [.returned "handle_cast" draw oneDeletion, .returned "handle_cast" draw ⟨[], none, [], []⟩]
      (errandSent false (errandSent false (errandLoaded false))) := by
  have hload : load (errandEnv false) "errand" errandNode errandKind []
      (started (errandEnv false) none []) = (.ok (errandPlugin, .running), errandLoaded false) :=
    Proc.run_of_outcome (by decide +kernel)
  have hfirst : dispatchTo (errandEnv false) errandPlugin "handle_cast" draw []
      (errandLoaded false) = (.ok oneDeletion, errandSent false (errandLoaded false)) :=
    Proc.run_of_outcome (by decide +kernel)
  have hnext : dispatchTo (errandEnv false) errandPlugin "handle_cast" draw []
      (errandSent false (errandLoaded false)) = (.ok ⟨[], none, [], []⟩, _) :=
    Proc.run_of_outcome (by decide +kernel)
  have hrun : Run (fun s inv s' => InvocationStep (errandEnv false) errandPlugin 0 s inv s' ∧
      LeavesNothing (errandEnv false) 0 s inv) (errandLoaded false)
      [.returned "handle_cast" draw oneDeletion, .returned "handle_cast" draw ⟨[], none, [], []⟩]
      (errandSent false (errandSent false (errandLoaded false))) :=
    .cons ⟨.returned hfirst, trivial⟩ (.cons ⟨.returned hnext, trivial⟩ (.nil _))
  exact @requests_own (errandEnv false) errandPlugin _ _ "errand" errandNode errandKind .running []
    (started (errandEnv false) none []) _ hload (by decide +kernel) hrun

/-- **If it fails, the next dispatch takes its request**: an entity is deleted on behalf of a
message that asked for nothing. -/
theorem failed_requests_carried :
    load (errandEnv true) "errand" errandNode errandKind [] (started (errandEnv true) none []) =
        (.ok (errandPlugin, .running), errandLoaded true) ∧
    ∃ w1 w2, InvocationStep (errandEnv true) errandPlugin 0 (errandLoaded true)
        (.failed "handle_cast" draw) w1 ∧
      InvocationStep (errandEnv true) errandPlugin 0 w1
        (.returned "handle_cast" draw oneDeletion) w2 ∧
      nextQueues (errandEnv true) "handle_cast"
        ((errandEnv true).codec.encode draw.toCbor) 0 w1 = {} ∧
      ¬ TakesOwn (errandEnv true) 0 w1 (.returned "handle_cast" draw oneDeletion) := by
  have hfirst : dispatchTo (errandEnv true) errandPlugin "handle_cast" draw [] (errandLoaded true) =
      (.err ["handle_cast() failed for 'errand': trap"], errandSent true (errandLoaded true)) :=
    Proc.run_of_outcome (by decide +kernel)
  have hnext : dispatchTo (errandEnv true) errandPlugin "handle_cast" draw []
      (errandSent true (errandLoaded true)) = (.ok oneDeletion, _) :=
    Proc.run_of_outcome (by decide +kernel)
  have hnothing : nextQueues (errandEnv true) "handle_cast"
      ((errandEnv true).codec.encode draw.toCbor) 0 (errandSent true (errandLoaded true)) = {} := by
    decide +kernel
  refine ⟨Proc.run_of_outcome (by decide +kernel), _, _, .failed hfirst, .returned hnext, hnothing,
    fun h => ?_⟩
  exact absurd (h.trans hnothing) (by decide)

end MaRuntime
