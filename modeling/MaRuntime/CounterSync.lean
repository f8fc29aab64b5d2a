import MaRuntime.Plugins.Counter
import MaRuntime.Plugins.Hosted
import MaRuntime.Snapshot

/-!
# The counter and its snapshot

The host queues a state only if it differs from the snapshot, the one it saved last. A save that
fails leaves the snapshot as it was, so the value and the snapshot part; a later write brings them
together again, by a save or by a return to the value that was saved.

* `load_silent`, `handleCall_message`: what a load and a message leave of the counter's cell.
* `InStep`: the cell holds the value, and so does the snapshot unless the last write was lost.
* **`counter_in_step`**: over any run of messages, saves that succeed or fail and restarts from the
  snapshot, the value is the fold of the messages, and a restart restores it.
-/

namespace MaRuntime.Plugins.Counter

open Lib (Cbor CborCodec Proc Run)

/-! ## Loading -/

section Load

variable {S : Type} {env : Env} {program : Program S} {keeps : Bool} {wasm : Bytes}
  {sessionIn : Bytes → Option (Session S)}

/-- **A load whose `init` calls no host function** leaves what `init` made of the state that was
fetched. -/
theorem load_silent (hosts : Hosts env program keeps wasm sessionIn) {g : Lib.Guards Lock}
    {w w' : World} {fragment : String} {node : EntityNode} {kindNode : KindNode}
    {behaviour : IpldLink} {ep : EntityPlugin} {lifecycle : Lifecycle} {output : Bytes}
    {locals : Locals S}
    (hnode : node.behaviour = some behaviour)
    (hwasm : env.kubo.blobs.denotes behaviour.cid = some wasm)
    (hapi : kindNode.api.contains "init" = true)
    (hinit : program.init (env.codec.encode (MaRuntime.InitPayload.toCbor
      { ctx := initCtx env fragment node
        state := fetchedState env kindNode.pluginKind node (w.io.calls + 1) })) []
      { locals := { state := program.initial } } = (.ok output, { locals }))
    (h : load env fragment node kindNode g w = (.ok (ep, lifecycle), w')) :
    ∃ i memory, ep.backend = .extism i ∧ sessionIn memory = some { locals } ∧
      w'.rt.cells i =
        { plugin := ⟨wasm, memory⟩, hostFns := linkedHostFns kindNode, fragment
          state := .new (fetchedState env kindNode.pluginKind node (w.io.calls + 1))
          createQueue := [], deleteQueue := [] } ∧
      .maReply ∈ linkedHostFns kindNode ∧ .maSetState ∈ linkedHostFns kindNode := by
  cases load_run h with
  | @run _ _ _ _ _ i _ _ _ _ _ _ hbehaviour hdenotes hstate hmemory _ hrun hallocate =>
    obtain rfl := Option.some.inj (hnode.symm.trans hbehaviour)
    obtain rfl := Option.some.inj (hwasm.symm.trans hdenotes)
    obtain ⟨rfl, -⟩ := initState_run hstate
    obtain ⟨hfresh, hlinked⟩ := hosts.instantiate hmemory
    have hcalls : (w.afterCalls 1).io.calls = w.io.calls + 1 := rfl
    rw [hcalls] at hrun
    have hcell (memory state : Bytes) (h : sessionIn memory = _) : HoldsSession wasm sessionIn
        { plugin := ⟨wasm, memory⟩, hostFns := linkedHostFns kindNode, fragment
          state := .new state, createQueue := [], deleteQueue := [] }
        { locals := { state := program.initial } } := ⟨rfl, h⟩
    obtain ⟨memory, hplay, hsession⟩ := playExport_init hosts (hcell _ _ hfresh)
      (InitPayload.decode_encode env.codec _) hinit _ _
    rw [runInit_run hapi hplay] at hrun
    simp only [Prod.mk.injEq, Lib.Outcome.ok.injEq] at hrun
    obtain ⟨⟨rfl, -⟩, -⟩ := hrun
    exact ⟨i, memory, rfl, hsession, allocate_cell hallocate, hlinked⟩

end Load

/-! ## Runs -/

/-- A counter is loaded in `w` with `snapshot` as the state that was fetched. -/
def Starts (env : Env) (wasm snapshot : Bytes) (w : World) (ep : EntityPlugin) (w' : World) :
    Prop :=
  ∃ g fragment node kindNode behaviour lifecycle,
    node.behaviour = some behaviour ∧ env.kubo.blobs.denotes behaviour.cid = some wasm ∧
    kindNode.api.contains "init" = true ∧
    fetchedState env kindNode.pluginKind node (w.io.calls + 1) = snapshot ∧
    load env fragment node kindNode g w = (.ok (ep, lifecycle), w')

/-- What became of the last write. -/
inductive Fate where
  /-- It queued no state. -/
  | nothing
  | saved
  | lost
  deriving DecidableEq, Repr

/-- The save of a state that a write queued. -/
def saveFate (env : Env) (pending : Option Bytes) (g : Lib.Guards Lock) (w : World) : Fate :=
  match pending with
  | none => .nothing
  | some stateBytes =>
    match (dagPut env.kubo.blobs stateBytes g w).1 with
    | .ok _ => .saved
    | _ => .lost

/-- What a save of `pending` makes of the cell. -/
inductive Saves : Option Bytes → PluginCell → Fate → PluginCell → Prop
  | nothing {cell : PluginCell} : Saves none cell .nothing cell
  | lost {state : Bytes} {cell : PluginCell} : Saves (some state) cell .lost cell
  | saved {state : Bytes} {cell : PluginCell} :
      Saves (some state) cell .saved { cell with state := cell.state.markSaved state }

/-- A counter in the daemon. -/
structure Bench where
  world : World
  plugin : EntityPlugin
  fate : Fate := .nothing

/-- The snapshot that the host has of the counter. -/
def Bench.snapshot (b : Bench) : Option Bytes :=
  match b.plugin.backend with
  | .native => none
  | .extism i => (b.world.rt.cells i).state.persisted

/-- One step: a message with its save, a restart from the snapshot in this process or another, or
anything that leaves the counter alone. -/
inductive CounterStep (env : Env) (wasm : Bytes) (b : Bench) : Option LocalMessage → Bench → Prop
  | message {g : Lib.Guards Lock} {msg : LocalMessage} {result : DispatchResult} {w1 w2 : World}
      (hrun : MaRuntime.handleCall env b.plugin { msg } g b.world = (.ok result, w1))
      (hsave : persistPending env b.plugin result.pendingState g w1 = (.ok (), w2)) :
      CounterStep env wasm b (some msg)
        { b with
          world := w2
          fate := if opOf env.codec msg.content = none then b.fate
            else saveFate env result.pendingState g w1 }
  | restart {snapshot : Bytes} {w w' : World} {ep : EntityPlugin} (hfate : b.fate ≠ .lost)
      (hsnapshot : b.snapshot = some snapshot) (hstart : Starts env wasm snapshot w ep w') :
      CounterStep env wasm b none { b with world := w', plugin := ep }
  | elsewhere {w' : World}
      (h : ∀ i, b.plugin.backend = .extism i → w'.rt.cells i = b.world.rt.cells i) :
      CounterStep env wasm b none { b with world := w' }

/-- The change that a step asks for. -/
def askedOf (codec : CborCodec) (e : Option LocalMessage) : Option CounterOp :=
  e.bind fun msg => opOf codec msg.content

/-- The value after a change, if one was asked for. -/
def changed (v : Int64) (op : Option CounterOp) : Int64 := op.elim v (·.apply v)

/-! ## In step -/

/-- The cell of a counter at rest: it holds the value, and so does the snapshot unless the last
write was lost. -/
structure AtValue (codec : CborCodec) (wasm : Bytes) (sessionIn : Bytes → Option (Session Int64))
    (cell : PluginCell) (fate : Fate) (v : Int64) : Prop where
  holds : HoldsSession wasm sessionIn cell { locals := { state := v } }
  reply : .maReply ∈ cell.hostFns
  setState : .maSetState ∈ cell.hostFns
  pending : cell.state.pending = none
  snapshot : ∃ snapshot, cell.state.persisted = some snapshot ∧
    (fate ≠ .lost → restoredValue codec snapshot = v)

/-- **The counter and its snapshot are in step**, at a value. -/
def InStep (codec : CborCodec) (wasm : Bytes) (sessionIn : Bytes → Option (Session Int64))
    (b : Bench) (v : Int64) : Prop :=
  ∃ i, b.plugin.backend = .extism i ∧ AtValue codec wasm sessionIn (b.world.rt.cells i) b.fate v

/-- The cell after a message that left `memory`: the new value is handed over if it was written. -/
def afterMessage (codec : CborCodec) (cell : PluginCell) (memory : Bytes) (v : Int64)
    (op : Option CounterOp) : PluginCell :=
  { cell with
    plugin := { cell.plugin with memory }
    state := op.elim cell.state fun op => cell.state.setState (stored codec (op.apply v)) }

section Messages

variable {env : Env} {keeps : Bool} {wasm : Bytes} {sessionIn : Bytes → Option (Session Int64)}
  {fate : Fate} {v : Int64} {cell : PluginCell} {g : Lib.Guards Lock} {memory : Bytes}

/-- The host answers what a message makes the counter ask for. -/
theorem answered_played (hcell : AtValue env.codec wasm sessionIn cell fate v) (msg : LocalMessage)
    (content : Bytes) (io : Io) :
    ∃ io', Lib.Interaction.answered (hostFn env)
      (played env.codec { state := v } msg content).calls (cell, io) =
        some ({ cell with state := (opOf env.codec msg.content).elim cell.state fun op =>
          cell.state.setState (stored env.codec (op.apply v)) }, io') := by
  unfold played
  cases opOf env.codec msg.content with
  | none => simp [wrote, Lib.Interaction.answered, hostFn, hcell.reply, env.codec.decode_encode]
  | some op =>
    simp [wrote, Lib.Interaction.answered, hostFn, hcell.reply, hcell.setState,
      env.codec.decode_encode]

/-- **A call with a message returns**, with its change. -/
theorem playExport_message (hosts : Hosts env (program env.codec) keeps wasm sessionIn)
    (hcell : AtValue env.codec wasm sessionIn cell fate v) (msg : LocalMessage) (n : Nat)
    (io : Io) :
    ∃ memory io', playExport env n "handle_call" (env.codec.encode (CastInput.toCbor { msg })) cell
        io = (.ok [], afterMessage env.codec cell memory v (opOf env.codec msg.content), io') ∧
      sessionIn memory =
        some { locals := { state := changed v (opOf env.codec msg.content) } } := by
  obtain ⟨content, hrun⟩ := @handleCall_run env.codec msg { state := v }
  obtain ⟨io', hanswered⟩ := answered_played hcell msg content io
  let s : Session Int64 := { locals := { state := v } }
  have hcall : (program env.codec).handleCall (env.codec.encode (CastInput.toCbor { msg })) s.guards
      { locals := s.locals } = (.ok [], played env.codec { state := v } msg content) := hrun
  obtain ⟨hwasm, hmemory⟩ := hcell.holds
  subst hwasm
  have hcalls : ((program env.codec).handleCall (env.codec.encode (CastInput.toCbor { msg }))
      s.guards { locals := s.locals }).2 = played env.codec { state := v } msg content :=
    congrArg Prod.snd hcall
  rw [← hcalls] at hanswered
  obtain ⟨result, memory, hplay, htold, hsession⟩ :=
    playExport_performs (hosts.handleCall (n := n) hmemory) hanswered
  rw [hcall] at htold
  obtain rfl : result = .ok [] := htold
  refine ⟨memory, io', hplay, hsession.trans ?_⟩
  unfold Session.call
  rw [hcall]
  unfold played wrote changed
  cases opOf env.codec msg.content <;> rfl

/-- **A dispatch of a message succeeds**, and takes what the write queued. -/
theorem handleCall_message (hosts : Hosts env (program env.codec) keeps wasm sessionIn)
    {ep : EntityPlugin} {i : Nat} {w : World} (hbackend : ep.backend = .extism i)
    (hcell : AtValue env.codec wasm sessionIn (w.rt.cells i) fate v) (msg : LocalMessage)
    (g : Lib.Guards Lock) :
    ∃ result memory w', MaRuntime.handleCall env ep { msg } g w = (.ok result, w') ∧
      sessionIn memory =
        some { locals := { state := changed v (opOf env.codec msg.content) } } ∧
      result.pendingState = (afterMessage env.codec (w.rt.cells i) memory v
        (opOf env.codec msg.content)).state.pending ∧
      w'.rt.cells i = (afterMessage env.codec (w.rt.cells i) memory v
        (opOf env.codec msg.content)).drained := by
  obtain ⟨memory, io', hplay, hsession⟩ := playExport_message hosts hcell msg w.io.calls
    { w.io with calls := w.io.calls + 1 }
  have hcall := callExport_run (g := g) env ep i "handle_call"
    (env.codec.encode (CastInput.toCbor { msg })) w hplay
  refine ⟨_, memory, _, dispatchTo_run hbackend hcall, hsession, ?_, ?_⟩
  · simp
  · simp

/-- **A save** gets through or leaves the cell as it is. -/
theorem persistPending_saves {pending : Option Bytes} {ep : EntityPlugin} {i : Nat} {w w' : World}
    (hbackend : ep.backend = .extism i)
    (hsave : persistPending env ep pending g w = (.ok (), w')) :
    Saves pending (w.rt.cells i) (saveFate env pending g w) (w'.rt.cells i) := by
  unfold persistPending at hsave
  unfold saveFate
  cases pending with
  | none =>
    simp only [Proc.pure_run, Prod.mk.injEq, true_and] at hsave
    rw [hsave]
    exact .nothing
  | some state =>
    dsimp only at hsave ⊢
    have hcalm := calm_dagPut (g := g) env.kubo.blobs state
    rcases hput : dagPut env.kubo.blobs state g w with ⟨o, w1⟩
    obtain ⟨hfree, hrt⟩ := hcalm.of_run hput
    cases o with
    | ok cid =>
      rw [Proc.bind_of_ok (Proc.attempt_of_ok hput)] at hsave
      dsimp only at hsave
      rw [markSaved_run hbackend] at hsave
      simp only [Prod.mk.injEq, true_and] at hsave
      rw [← hsave, World.withCell_self, hrt]
      exact .saved
    | err e =>
      rw [Proc.bind_of_ok (Proc.attempt_of_err hput)] at hsave
      simp only [Proc.pure_run, Prod.mk.injEq, true_and] at hsave
      rw [← hsave, hrt]
      exact .lost
    | stuck => exact absurd rfl hfree

/-- What a write makes of the state: it queues the new value, unless that is the snapshot. -/
theorem afterMessage_some {snapshot : Bytes} (op : CounterOp)
    (hpersisted : cell.state.persisted = some snapshot) (hpending : cell.state.pending = none) :
    let state := (afterMessage env.codec cell memory v (some op)).state
    state.persisted = some snapshot ∧
      state.pending = if stored env.codec (op.apply v) = snapshot then none
        else some (stored env.codec (op.apply v)) := by
  show (cell.state.setState _).persisted = _ ∧ (cell.state.setState _).pending = _
  refine ⟨(setState_persisted _ _).trans hpersisted, ?_⟩
  by_cases h : stored env.codec (op.apply v) = snapshot
  · simp [StateCtx.setState, hpersisted, hpending, h]
  · simp [StateCtx.setState, hpersisted, h, Ne.symm h]

/-- **A message with its save keeps them in step**: a write that was not lost leaves its value as
the snapshot, by the save or as it was there already. -/
theorem AtValue.saves (h : AtValue env.codec wasm sessionIn cell fate v) {op : Option CounterOp}
    {next : Fate} {cell' : PluginCell}
    (hsession : sessionIn memory = some { locals := { state := changed v op } })
    (hsave : Saves (afterMessage env.codec cell memory v op).state.pending
      (afterMessage env.codec cell memory v op).drained next cell') :
    AtValue env.codec wasm sessionIn cell' (if op = none then fate else next) (changed v op) := by
  obtain ⟨snapshot, hpersisted, hvalue⟩ := h.snapshot
  cases op with
  | none =>
    have hnone : (afterMessage env.codec cell memory v none).state.pending = none := h.pending
    rw [hnone] at hsave
    cases hsave with
    | nothing =>
      exact ⟨⟨h.holds.1, hsession⟩, h.reply, h.setState, rfl, snapshot, hpersisted, hvalue⟩
  | some op =>
    obtain ⟨hkept, hqueued⟩ := @afterMessage_some env v cell memory snapshot op hpersisted
      h.pending
    rw [hqueued] at hsave
    rw [if_neg (Option.some_ne_none op)]
    by_cases hsame : stored env.codec (op.apply v) = snapshot
    · -- the value is back at the snapshot
      rw [if_pos hsame] at hsave
      cases hsave with
      | nothing =>
        refine ⟨⟨h.holds.1, hsession⟩, h.reply, h.setState, rfl, snapshot, hkept, fun _ => ?_⟩
        rw [← hsame]
        exact restoredValue_stored _
    · rw [if_neg hsame] at hsave
      cases hsave with
      | lost =>
        exact ⟨⟨h.holds.1, hsession⟩, h.reply, h.setState, rfl, snapshot, hkept,
          fun h => absurd rfl h⟩
      | saved =>
        exact ⟨⟨h.holds.1, hsession⟩, h.reply, h.setState, rfl, _, rfl,
          fun _ => restoredValue_stored _⟩

/-- **A counter starts in step**, at the value of the state that it was loaded with. -/
theorem Starts.atValue (hosts : Hosts env (program env.codec) keeps wasm sessionIn)
    {snapshot : Bytes} {w w' : World} {ep : EntityPlugin}
    (h : Starts env wasm snapshot w ep w') (fate : Fate) :
    ∃ i, ep.backend = .extism i ∧ AtValue env.codec wasm sessionIn (w'.rt.cells i) fate
      (restoredValue env.codec snapshot) := by
  obtain ⟨g, fragment, node, kindNode, behaviour, lifecycle, hnode, hwasm, hapi, rfl, h⟩ := h
  have hinit := @init_run env.codec _ _ (InitPayload.decode_encode env.codec
    { ctx := initCtx env fragment node
      state := fetchedState env kindNode.pluginKind node (w.io.calls + 1) })
  obtain ⟨i, memory, hbackend, hsession, hcell, hreply, hset⟩ :=
    load_silent hosts hnode hwasm hapi hinit h
  refine ⟨i, hbackend, ?_⟩
  rw [hcell]
  exact ⟨⟨rfl, hsession⟩, hreply, hset, rfl, _, rfl, fun _ => rfl⟩

end Messages

/-! ## Over a run -/

section Over

variable {env : Env} {keeps : Bool} {wasm : Bytes} {sessionIn : Bytes → Option (Session Int64)}
  {v : Int64} {b b' : Bench} {e : Option LocalMessage}

theorem InStep.snapshot_some (h : InStep env.codec wasm sessionIn b v) :
    ∃ snapshot, b.snapshot = some snapshot ∧
      (b.fate ≠ .lost → restoredValue env.codec snapshot = v) := by
  obtain ⟨i, hbackend, hat⟩ := h
  obtain ⟨snapshot, hpersisted, hvalue⟩ := hat.snapshot
  refine ⟨snapshot, ?_, hvalue⟩
  unfold Bench.snapshot
  rw [hbackend]
  exact hpersisted

/-- **The step lemma.** -/
theorem CounterStep.inStep (hosts : Hosts env (program env.codec) keeps wasm sessionIn)
    (hstep : CounterStep env wasm b e b') (h : InStep env.codec wasm sessionIn b v) :
    InStep env.codec wasm sessionIn b' (changed v (askedOf env.codec e)) := by
  cases hstep with
  | @message g msg result w1 w2 hrun hsave =>
    obtain ⟨i, hbackend, hat⟩ := h
    obtain ⟨result', memory, w', hrun', hsession, hpending, hcell⟩ :=
      handleCall_message hosts hbackend hat msg g
    obtain ⟨hresult, rfl⟩ := Prod.mk.inj (hrun'.symm.trans hrun)
    obtain rfl := Lib.Outcome.ok.inj hresult
    have hsaves := persistPending_saves hbackend hsave
    rw [hcell] at hsaves
    refine ⟨i, hbackend, ?_⟩
    exact hat.saves hsession (hpending ▸ hsaves)
  | @restart snapshot w w' ep hfate hsnapshot hstart =>
    obtain ⟨latest, hlatest, hvalue⟩ := h.snapshot_some
    obtain rfl : snapshot = latest := Option.some.inj (hsnapshot.symm.trans hlatest)
    have hrestored := hstart.atValue hosts b.fate
    rw [hvalue hfate] at hrestored
    exact hrestored
  | elsewhere hsame =>
    obtain ⟨i, hbackend, hat⟩ := h
    refine ⟨i, hbackend, ?_⟩
    rw [hsame i hbackend]
    exact hat

/-- The fold of the changes, in the integers. -/
theorem toInt_foldl (codec : CborCodec) (events : List (Option LocalMessage)) (v : Int64) :
    (events.foldl (fun v e => changed v (askedOf codec e)) v).toInt =
      (events.filterMap (askedOf codec)).foldl CounterOp.act v.toInt := by
  induction events generalizing v with
  | nil => rfl
  | cons e events ih =>
    rw [List.foldl_cons, ih]
    cases hop : askedOf codec e with
    | none => rw [List.filterMap_cons_none hop]; rfl
    | some op =>
      rw [List.filterMap_cons_some hop, List.foldl_cons, ← apply_toInt]
      rfl

/-- What holds of a counter in the daemon, if its value is `n` as an integer. -/
structure CounterLaw (env : Env) (wasm : Bytes) (sessionIn : Bytes → Option (Session Int64))
    (b : Bench) (n : Int) : Prop where
  /-- The counter holds the value. -/
  value : ∃ i v, b.plugin.backend = .extism i ∧
    HoldsSession wasm sessionIn (b.world.rt.cells i) { locals := { state := v } } ∧ v.toInt = n
  /-- Every message is answered. -/
  answers : ∀ g msg, ∃ result w', MaRuntime.handleCall env b.plugin { msg } g b.world =
    (.ok result, w')
  /-- Unless the last write was lost, a counter that starts from the snapshot holds the same. -/
  restores : b.fate ≠ .lost → ∀ snapshot, b.snapshot = some snapshot →
    ∀ w ep w', Starts env wasm snapshot w ep w' → ∃ i v, ep.backend = .extism i ∧
      HoldsSession wasm sessionIn (w'.rt.cells i) { locals := { state := v } } ∧ v.toInt = n
  /-- There is a snapshot. -/
  saved : ∃ snapshot, b.snapshot = some snapshot

theorem InStep.law (hosts : Hosts env (program env.codec) keeps wasm sessionIn)
    (h : InStep env.codec wasm sessionIn b v) : CounterLaw env wasm sessionIn b v.toInt := by
  obtain ⟨latest, hlatest, hvalue⟩ := h.snapshot_some
  refine ⟨?_, fun g msg => ?_, fun hfate snapshot hsnapshot w ep w' hstart => ?_, latest, hlatest⟩
  · obtain ⟨i, hbackend, hat⟩ := h
    exact ⟨i, v, hbackend, hat.holds, rfl⟩
  · obtain ⟨i, hbackend, hat⟩ := h
    obtain ⟨result, memory, w', hrun, -⟩ := handleCall_message hosts hbackend hat msg g
    exact ⟨result, w', hrun⟩
  · obtain rfl : snapshot = latest := Option.some.inj (hsnapshot.symm.trans hlatest)
    obtain ⟨i, hbackend, hat⟩ := hstart.atValue hosts b.fate
    rw [hvalue hfate] at hat
    exact ⟨i, v, hbackend, hat.holds, rfl⟩

/-- **The counter and its snapshot stay in step**: after any messages, saves that got through or
failed, and restarts from a snapshot that is not behind, the value is the saturating fold of the
messages, and a counter that starts from the snapshot holds it, unless the last write was lost. -/
theorem counter_in_step (hosts : Hosts env (program env.codec) keeps wasm sessionIn)
    {snapshot : Bytes} {w w' : World} {ep : EntityPlugin} {events : List (Option LocalMessage)}
    (hstart : Starts env wasm snapshot w ep w')
    (hrun : Run (CounterStep env wasm) { world := w', plugin := ep } events b) :
    CounterLaw env wasm sessionIn b ((events.filterMap (askedOf env.codec)).foldl CounterOp.act
      (restoredValue env.codec snapshot).toInt) := by
  have hend : InStep env.codec wasm sessionIn b _ :=
    hrun.refines (A := InStep env.codec wasm sessionIn)
      (fun s e s' v hstep h => hstep.inStep hosts h) (hstart.atValue hosts .nothing)
  rw [← toInt_foldl]
  exact hend.law hosts

end Over

/-! ## A value that comes back -/

/-- A layout of a session of the counter in memory. -/
def memoryOf (s : Session Int64) : Bytes :=
  Lib.rfcCodec.encode (.array
    [ofInt64 s.locals.state, .text s.locals.selfDid, textOrNull s.locals.parent,
      .bool s.borrowed])

/-- The session that a memory holds. -/
def readMemory (memory : Bytes) : Option (Session Int64) :=
  match Lib.rfcCodec.decode memory with
  | some (.array [value, .text selfDid, parent, .bool borrowed]) =>
    (value.toInt.bind int64OfInt).map fun state =>
      { locals :=
          { state, selfDid, parent := match parent with | .text p => some p | _ => none }
        borrowed }
  | _ => none

theorem readMemory_memoryOf (s : Session Int64) : readMemory (memoryOf s) = some s := by
  obtain ⟨⟨value, selfDid, parent⟩, borrowed⟩ := s
  unfold readMemory memoryOf
  rw [Lib.rfcCodec.decode_encode]
  simp only [int64OfInt_ofInt64, Option.map_some]
  cases parent <;> rfl

/-- The environment over the tables in which every module is the counter. -/
def counterEnv (t : Tables) : Env :=
  { t.env with
    instantiate := fun _ _ hostFns _ =>
      if .maReply ∈ hostFns ∧ .maSetState ∈ hostFns then
        .ok (memoryOf { locals := { state := 0 } })
      else .error ["unknown import"]
    guest := fun _ plugin exportName input =>
      match readMemory plugin.memory, exportName with
      | some s, "init" => s.interaction true memoryOf (init Lib.rfcCodec input)
      | some s, "handle_call" => s.interaction true memoryOf (handleCall Lib.rfcCodec input)
      | _, _ => .done (.error "no such export", plugin.memory) }

theorem counterEnv_hosts (t : Tables) (wasm : Bytes) :
    Hosts (counterEnv t) (program (counterEnv t).codec) true wasm readMemory where
  instantiate h := by
    simp only [counterEnv] at h
    split at h
    · rename_i hlinked
      obtain rfl := Except.ok.inj h
      exact ⟨readMemory_memoryOf _, hlinked⟩
    · exact absurd h (by simp)
  init {n memory s input payload} hmemory _ := by
    simp only [counterEnv, hmemory]
    exact Session.interaction_performs readMemory_memoryOf s _
  handleCall {n memory s input} hmemory := by
    simp only [counterEnv, hmemory]
    exact Session.interaction_performs readMemory_memoryOf s _

/-- A Kubo that takes the value 1, and no other. -/
def clicksEnv : Env :=
  counterEnv { blobs := [("bafycounterwasm", [0]), ("bafyone", stored Lib.rfcCodec 1)] }

/-- The kind of the counter. -/
def counterKind : KindNode :=
  { protocol := "/ma/counter/0.0.1", api := ["init", "handle_call"]
    attributes := (∅ : StrMap Json).insert "stateful" (.bool true)
    hostFunctions := ["ma_reply", "ma_set_state"] }

/-- A counter in the manifest. -/
def clicksNode (state : Option IpldLink) : EntityNode :=
  { kind := "/ma/counter/0.0.1", behaviour := some ⟨"bafycounterwasm"⟩, acl := "open", state }

/-- The handle of the counter. -/
def clicks : EntityPlugin :=
  { fragment := "clicks", kind := .stateful, acl := "open", parent := none, backend := .extism 0 }

/-- The daemon after a load of the counter. -/
def loadedClicks (state : Option IpldLink) : World :=
  (load clicksEnv "clicks" (clicksNode state) counterKind [] (started clicksEnv none [])).2

/-- A message with a verb. -/
def click (verb : String) : LocalMessage :=
  { id := "m1", «from» := "did:ma:alice", «to» := "did:ma:runtime#clicks", createdAt := 0
    expires := 0, replyTo := none, contentType := "application/cbor"
    content := Lib.rfcCodec.encode (.text verb) }

/-- What a message and its save leave. -/
def Bench.sent (b : Bench) (verb : String) (pending : Option Bytes) (fate : Fate) : Bench :=
  { b with
    world := (persistPending clicksEnv b.plugin pending []
      (MaRuntime.handleCall clicksEnv b.plugin { msg := click verb } [] b.world).2).2
    fate := fate }

theorem click_step {b : Bench} {verb : String} {pending : Option Bytes} {fate : Fate}
    (hrun : (MaRuntime.handleCall clicksEnv b.plugin { msg := click verb } [] b.world).1 =
      .ok ⟨[], pending, [], []⟩)
    (hsave : (persistPending clicksEnv b.plugin pending []
      (MaRuntime.handleCall clicksEnv b.plugin { msg := click verb } [] b.world).2).1 = .ok ())
    (hfate : (if opOf clicksEnv.codec (click verb).content = none then b.fate
      else saveFate clicksEnv pending []
        (MaRuntime.handleCall clicksEnv b.plugin { msg := click verb } [] b.world).2) = fate) :
    CounterStep clicksEnv [0] b (some (click verb)) (b.sent verb pending fate) := by
  subst hfate
  exact .message (Proc.run_of_outcome hrun) (Proc.run_of_outcome hsave)

/-- The counter at its start. -/
def clicks0 : Bench := { world := loadedClicks none, plugin := clicks }

/-- The counter after the save of 1. -/
def clicks1 : Bench := clicks0.sent ":inc" (some (stored Lib.rfcCodec 1)) .saved

/-- The counter after the save of 2 failed. -/
def clicks2 : Bench := clicks1.sent ":inc" (some (stored Lib.rfcCodec 2)) .lost

/-- The counter back at 1. -/
def clicks3 : Bench := clicks2.sent ":dec" none .nothing

set_option maxRecDepth 100000 in
/-- A counter that is back at the value saved last is restored as it was, though the write before
was lost. -/
theorem counter_in_step_clicks :
    ∃ b, Run (CounterStep clicksEnv [0]) clicks0
        [some (click ":inc"), some (click ":inc"), some (click ":dec"), none] b ∧
      CounterLaw clicksEnv [0] readMemory b 1 := by
  have hload : (load clicksEnv "clicks" (clicksNode none) counterKind []
      (started clicksEnv none [])).1 = .ok (clicks, .running) := by decide +kernel
  have hstart : Starts clicksEnv [0] [] (started clicksEnv none []) clicks (loadedClicks none) :=
    ⟨[], "clicks", clicksNode none, counterKind, ⟨"bafycounterwasm"⟩, .running, rfl, rfl, rfl, rfl,
      Proc.run_of_outcome hload⟩
  have hreload : (load clicksEnv "clicks" (clicksNode (some ⟨"bafyone"⟩)) counterKind []
      (started clicksEnv none [])).1 = .ok (clicks, .running) := by decide +kernel
  have hrestart : Starts clicksEnv [0] (stored Lib.rfcCodec 1) (started clicksEnv none []) clicks
      (loadedClicks (some ⟨"bafyone"⟩)) :=
    ⟨[], "clicks", clicksNode (some ⟨"bafyone"⟩), counterKind, ⟨"bafycounterwasm"⟩, .running, rfl,
      rfl, rfl, rfl, Proc.run_of_outcome hreload⟩
  have h1 : CounterStep clicksEnv [0] clicks0 (some (click ":inc")) clicks1 :=
    click_step (by decide +kernel) (by decide +kernel) (by decide +kernel)
  have h2 : CounterStep clicksEnv [0] clicks1 (some (click ":inc")) clicks2 :=
    click_step (by decide +kernel) (by decide +kernel) (by decide +kernel)
  have h3 : CounterStep clicksEnv [0] clicks2 (some (click ":dec")) clicks3 :=
    click_step (by decide +kernel) (by decide +kernel) (by decide +kernel)
  have hsnapshot : clicks3.snapshot = some (stored Lib.rfcCodec 1) := by decide +kernel
  have hrun := Run.cons h1 (.cons h2 (.cons h3
    (.cons (.restart (by decide) hsnapshot hrestart) (.nil _))))
  exact ⟨_, hrun, counter_in_step (counterEnv_hosts _ _) hstart hrun⟩

end MaRuntime.Plugins.Counter
