import MaRuntime.Acl
import MaRuntime.Lib.ContentStore
import MaRuntime.Lib.Interaction
import MaRuntime.Lib.Proc

/-!
# The daemon's state and its surroundings

`Runtime` is what the tasks of the daemon share: the values behind the six `RwLock`s, the config
file and the loaded plugins. `Env` is everything outside the repository, answering numbered calls:
Kubo, the Wasm guests, the peer transport, the random generator and the clock. `Io` is the record
of what went out. A handler is a process over both (`M`), and the locks are its resources.

* Content is addressed, so what a CID denotes is fixed, and every call can fail (`kuboCall`). The
  Kubo URL decides only which calls get through, and the numbered answers already do that.
* A plugin is a handle into `cells`: what its `Arc`s share is there, the handle never changes.
-/

namespace MaRuntime

open Lib (Proc Mode Outcome ContentStore Interaction CborCodec)

/-! ## Plugins -/

/-- The host functions of the `extism:host/user` namespace. -/
inductive HostFn where
  | maSend
  | maReply
  | maSetState
  | maCreateEntity
  | maDeleteEntity
  deriving DecidableEq, Repr

/-- The name a kind lists it under. -/
def HostFn.name : HostFn → String
  | .maSend => "ma_send"
  | .maReply => "ma_reply"
  | .maSetState => "ma_set_state"
  | .maCreateEntity => "ma_create_entity"
  | .maDeleteEntity => "ma_delete_entity"

/-- One call of a Wasm export: host calls with their input, and in the end what the export
returned or trapped with, and the linear memory it left. -/
abbrev GuestCall := Interaction (HostFn × Bytes) Bytes (Except String Bytes × Bytes)

/-- A loaded Wasm module: its code and its linear memory. -/
structure Instance where
  wasm : Bytes
  memory : Bytes
  deriving DecidableEq, Repr

/-- `StateCtx`. -/
structure StateCtx where
  /-- New state bytes queued by the current dispatch. -/
  pending : Option Bytes
  /-- Last successfully persisted snapshot. -/
  persisted : Option Bytes
  dirty : Bool
  deriving DecidableEq, Repr

/-- `StateCtx::new`. -/
def StateCtx.new (persisted : Bytes) : StateCtx :=
  { pending := none, persisted := some persisted, dirty := false }

/-- What the `Arc`s of an `EntityBackend::Extism` and its host functions share. -/
structure PluginCell where
  plugin : Instance
  /-- The host functions linked in. -/
  hostFns : List HostFn
  fragment : String
  state : StateCtx
  createQueue : List CreateEntityRequest
  deleteQueue : List String
  deriving DecidableEq, Repr

/-- `EntityBackend`: a cell, or the compiled-in `#scheduler`. -/
inductive EntityBackend where
  | extism (cell : Nat)
  | native
  deriving DecidableEq, Repr

/-- `EntityPlugin`. -/
structure EntityPlugin where
  fragment : String
  kind : PluginKind
  acl : String
  parent : Option String
  backend : EntityBackend
  deriving DecidableEq, Repr

/-- `DispatchResult`. -/
structure DispatchResult where
  output : Bytes
  pendingState : Option Bytes
  createRequests : List CreateEntityRequest
  deleteRequests : List String
  deriving DecidableEq, Repr

/-! ## Shared state -/

/-- `Stats`, without the fields fixed at startup. -/
structure Stats where
  ipfsRequests : UInt64 := 0
  rpcRequests : UInt64 := 0
  entityNames : List String := []
  rootCid : Option Cid := none
  /-- DIDs that own this runtime. -/
  owners : List String := []
  configPath : Option String := none
  deriving DecidableEq, Repr

/-- `ma_core::Config`, the fields that the runtime reads or writes after startup. -/
structure Config where
  kuboRpcUrl : String
  kuboKeyAlias : String
  logLevel : String
  logLevelStdout : String
  didResolverPositiveTtlSecs : UInt64
  didResolverNegativeTtlSecs : UInt64
  logFile : Option String
  configPath : Option String
  extra : StrMap Yaml
  deriving DecidableEq

/-- The state the tasks of the daemon share. -/
structure Runtime where
  stats : Stats
  rootAcl : AclMap
  aclCache : StrMap AclMap
  entityRegistry : StrMap EntityPlugin
  kindRegistry : StrMap KindNode
  sharedConfig : Config
  /-- The config files on disk, as `Config::from_yaml_str` reads them. -/
  files : StrMap (Except Error Config)
  cells : Nat → PluginCell
  /-- The first cell no plugin was given. -/
  nextCell : Nat

/-- The `RwLock`s. -/
inductive Lock where
  | stats
  | rootAcl
  | aclCache
  | entityRegistry
  | kindRegistry
  | sharedConfig
  deriving DecidableEq, Repr

/-! ## Requests and replies -/

/-- `ma_core::Message`. `createdAt` is in nanoseconds, as the dispatch converts it. -/
structure Message where
  id : String
  «from» : String
  «to» : String
  messageType : String
  contentType : String
  createdAt : UInt64
  exp : UInt64
  replyTo : Option String
  payload : Bytes
  deriving DecidableEq, Repr, Inhabited

/-- What a reply carries. A localised error is its message key and the arguments. -/
inductive ReplyBody where
  | ok
  | okCid (cid : Cid)
  | okNames (names : List String)
  | names (names : List String)
  | text (s : String)
  | yaml (v : Yaml)
  | config (c : StrMap Yaml)
  | entity (node : EntityNode)
  | kind (node : KindNode)
  | value (v : Lib.Cbor)
  | pong
  | i18nError (key : String) (args : List (String × String))
  | error (reason : String)

/-- The reply reports success. -/
def ReplyBody.isSuccess : ReplyBody → Bool
  | .i18nError _ _ => false
  | .error _ => false
  | _ => true

/-- A reply on its way to the sender of a message. -/
structure Reply where
  «to» : String
  replyType : String
  replyTo : String
  body : ReplyBody

/-- `ScheduleRequest`. -/
inductive ScheduleRequest where
  | cron (spec : String) (content : Bytes)
  | interval (secs : UInt64) (content : Bytes)
  | at (timestampMs : Int64) (content : Bytes)
  | random (maxSecs : UInt64) (content : Bytes)
  deriving DecidableEq, Repr

/-! ## Surroundings -/

/-- How sending a reply can go. -/
inductive Delivery where
  | sent
  | noOutbox
  | buildFailed (e : Error)
  | sendFailed (e : Error)

/-- Kubo: typed views of one content-addressed store, and calls that only get through or not. -/
structure Kubo where
  manifests : ContentStore Cid RuntimeManifest Error
  entities : ContentStore Cid EntityNode Error
  kinds : ContentStore Cid KindNode Error
  acls : ContentStore Cid AclMap Error
  blobs : ContentStore Cid Bytes Error
  /-- `dag/resolve` of a path. -/
  resolve : Nat → String → Except Error Cid
  /-- Whether a pin request gets through. -/
  pin : Nat → Except Error Unit
  /-- `publish_document` of a DID document. -/
  publishDocument : Nat → Bytes → Except Error (Option Cid)
  /-- `dag/put` of the JSON value that some CBOR bytes stand for. -/
  dagPutCbor : Nat → Bytes → Except Error Cid

/-- A request to the IPFS service that `validate_ipfs_request` accepted. -/
inductive ValidatedIpfsRequest where
  | didDocumentPublish (documentBytes : Bytes)
  | store (contentType : String) (content : Bytes)

/-- What the daemon runs against. `Nat` arguments number the calls. -/
structure Env where
  ourDid : String
  core : MaCore
  codec : CborCodec
  kubo : Kubo
  /-- The memory of a fresh instance, with the host functions linked and WASI on or off. -/
  instantiate : Nat → Bytes → List HostFn → Bool → Except Error Bytes
  /-- An export of an instance, on an input. -/
  guest : Nat → Instance → String → Bytes → GuestCall
  /-- `generate_fragment`. -/
  generateFragment : Nat → String
  /-- The clock, in seconds. -/
  now : Nat → UInt64
  /-- The IPNS identity of a DID, where `Did::try_from` accepts it. -/
  parseDid : String → Option String
  deliver : Nat → Delivery
  /-- `ReplayGuard::check_and_insert`. -/
  replayCheck : Nat → Message → Except Error Unit
  /-- `validate_ipfs_request`. -/
  validateIpfsRequest : Message → Except Error ValidatedIpfsRequest
  /-- Whether a file write gets through. -/
  writeFile : Nat → Except Error Unit
  /-- The `Debug` text of a CBOR value. -/
  debugValue : Lib.Cbor → String
  /-- What `Config::from_yaml_str` makes of the text `{}`. -/
  emptyConfig : Except Error Config
  /-- What `serde_json` reads of the text of a finite float: it can be the next float. -/
  readFloat : UInt64 → Number
  /-- `MESSAGE_TYPE_RPC`. -/
  messageTypeRpc : String
  /-- `MESSAGE_TYPE_RPC_REPLY`. -/
  messageTypeRpcReply : String
  /-- `MESSAGE_TYPE_CRUD`. -/
  messageTypeCrud : String
  /-- `MESSAGE_TYPE_CRUD_REPLY`. -/
  messageTypeCrudReply : String
  /-- `CONTENT_TYPE_TERM`. -/
  contentTypeTerm : String

/-- What went out, and how many calls were made. -/
structure Io where
  calls : Nat := 0
  /-- Some Kubo call failed. -/
  kuboFailed : Bool := false
  pins : Std.ExtTreeSet String compare := ∅
  replies : List Reply := []
  /-- The channel of envelopes that plugins send. -/
  envelopes : List (String × SendEnvelope) := []
  scheduled : List (String × ScheduleRequest) := []

/-- The daemon and what it has put out. -/
structure World where
  rt : Runtime
  io : Io

/-- A task of the daemon. -/
abbrev M := Proc Lock World Error

/-- Run `p`; an error gets one more context line. -/
def withContext {α : Type} (context : String) (p : M α) : M α := p.mapErr (context :: ·)

/-! ## Locks -/

/-- `lock.read().await`, for as long as `p` runs. -/
def reading {α : Type} (l : Lock) (p : M α) : M α := p.holding l .read

/-- `lock.write().await`, for as long as `p` runs. -/
def writing {α : Type} (l : Lock) (p : M α) : M α := p.holding l .write

/-- Look at the shared state. -/
def getRt {α : Type} (f : Runtime → α) : M α := Proc.look fun w => f w.rt

/-- Change the shared state. -/
def modifyRt (f : Runtime → Runtime) : M Unit := Proc.update fun w => { w with rt := f w.rt }

/-- Change the record of what went out. -/
def modifyIo (f : Io → Io) : M Unit := Proc.update fun w => { w with io := f w.io }

/-- The number of this call. -/
def nextCall : M Nat := do
  let n ← Proc.look fun w => w.io.calls
  modifyIo fun io => { io with calls := io.calls + 1 }
  pure n

/-- `stats.read().await` of one field. -/
def readStats {α : Type} (f : Stats → α) : M α := reading .stats (getRt fun rt => f rt.stats)

/-- `stats.write().await` for one change. -/
def writeStats (f : Stats → Stats) : M Unit :=
  writing .stats (modifyRt fun rt => { rt with stats := f rt.stats })

/-- `if let Some(a) = o { … }`. -/
def whenSome {α : Type} (o : Option α) (p : α → M Unit) : M Unit :=
  match o with
  | some a => p a
  | none => pure ()

/-! ## Kubo (`src/kubo.rs`) -/

/-- A call to Kubo. -/
def kuboCall {α : Type} (call : Nat → Except Error α) : M α := do
  let n ← nextCall
  match call n with
  | .ok a => pure a
  | .error e => do
    modifyIo fun io => { io with kuboFailed := true }
    Proc.fail e

/-- `dag_get` and `cat_bytes`. -/
def dagGet {Val : Type} (store : ContentStore Cid Val Error) (cid : Cid) : M Val :=
  kuboCall fun n => store.get n cid

/-- `dag_put` and `ipfs_add`. -/
def dagPut {Val : Type} (store : ContentStore Cid Val Error) (v : Val) : M Cid :=
  kuboCall fun n => store.put n v

/-- `pin_add`. -/
def pinAdd (env : Env) (cid : Cid) : M Unit := do
  kuboCall env.kubo.pin
  modifyIo fun io => { io with pins := io.pins.insert cid }

/-- `pin_update`: where the old CID is not pinned, the new one is pinned plainly. -/
def pinUpdate (env : Env) (oldCid newCid : Cid) : M Unit := do
  kuboCall env.kubo.pin
  if ← Proc.look fun w => w.io.pins.contains oldCid then
    modifyIo fun io => { io with pins := (io.pins.erase oldCid).insert newCid }
  else pinAdd env newCid

/-- `dag_resolve`: a bare CID resolves to itself. -/
def dagResolve (env : Env) (path : String) : M Cid :=
  if Text.startsWith path "/" then kuboCall fun n => env.kubo.resolve n path else pure path

/-! ## Frames -/

/-- The shared state is as before. -/
def Idle (w w' : World) : Prop := w'.rt = w.rt

instance : IsPreorder World Idle where
  refl _ := rfl
  trans _ _ _ h h' := Eq.trans h' h

/-- Of the shared state only plugin cells changed. -/
def CellsOnly (w w' : World) : Prop :=
  w'.rt = { w.rt with cells := w'.rt.cells, nextCell := w'.rt.nextCell }

instance : IsPreorder World CellsOnly where
  refl _ := rfl
  trans a b c h h' := by
    unfold CellsOnly at *
    rw [h', h]

/-- Of the record only the calls changed: they are counted, envelopes may have gone out, and a Kubo
call that failed is not forgotten. -/
def Called (w w' : World) : Prop :=
  ∃ envelopes k failed, (w.io.kuboFailed = true → failed = true) ∧
    w'.io = { w.io with envelopes := envelopes, calls := w.io.calls + k, kuboFailed := failed }

instance : IsPreorder World Called where
  refl w := ⟨w.io.envelopes, 0, w.io.kuboFailed, id, rfl⟩
  trans a b c := by
    rintro ⟨envelopes, k, failed, hfailed, h⟩ ⟨envelopes', k', failed', hfailed', h'⟩
    refine ⟨envelopes', k + k', failed', fun hw => hfailed' ?_, ?_⟩
    · rw [h]
      exact hfailed hw
    · rw [h', h, Nat.add_assoc]

theorem Called.kuboFailed {w w' : World} (h : Called w w') (hw : w.io.kuboFailed = true) :
    w'.io.kuboFailed = true := by
  obtain ⟨envelopes, k, failed, hfailed, h⟩ := h
  rw [h]
  exact hfailed hw

theorem Idle.cellsOnly {w w' : World} (h : Idle w w') : CellsOnly w w' := by
  unfold CellsOnly
  rw [h]

theorem CellsOnly.stats {w w' : World} (h : CellsOnly w w') : w'.rt.stats = w.rt.stats := by
  unfold CellsOnly at h
  rw [h]

theorem CellsOnly.entityRegistry {w w' : World} (h : CellsOnly w w') :
    w'.rt.entityRegistry = w.rt.entityRegistry := by
  unfold CellsOnly at h
  rw [h]

/-- Of the shared state only the plugins changed: their cells and the registry. -/
def PluginsOnly (w w' : World) : Prop :=
  w'.rt =
    { w.rt with
      cells := w'.rt.cells, nextCell := w'.rt.nextCell, entityRegistry := w'.rt.entityRegistry }

instance : IsPreorder World PluginsOnly where
  refl _ := rfl
  trans a b c h h' := by
    unfold PluginsOnly at *
    rw [h', h]

theorem CellsOnly.pluginsOnly {w w' : World} (h : CellsOnly w w') : PluginsOnly w w' := by
  unfold CellsOnly at h
  unfold PluginsOnly
  rw [h]

theorem PluginsOnly.stats {w w' : World} (h : PluginsOnly w w') : w'.rt.stats = w.rt.stats := by
  unfold PluginsOnly at h
  rw [h]

section Frames

variable {α : Type} {g : Lib.Guards Lock} {R : World → World → Prop} [IsPreorder World R]

theorem calm_getRt (f : Runtime → α) : Proc.Calm g R (getRt f) := Proc.calm_look _

theorem calm_readStats (f : Stats → α) (h : g.excludes .stats .read = false) :
    Proc.Calm g R (readStats f) :=
  Proc.Calm.holding h (calm_getRt _)

omit [IsPreorder World R] in
theorem calm_withContext {p : M α} (c : String) (h : Proc.Calm g R p) :
    Proc.Calm g R (withContext c p) := h.mapErr _

omit [IsPreorder World R] in
theorem calm_modifyRt {f : Runtime → Runtime} (h : ∀ w : World, R w { w with rt := f w.rt }) :
    Proc.Calm g R (modifyRt f) := Proc.calm_update h

theorem calm_writing {l : Lock} {f : Runtime → Runtime} (hl : g.excludes l .write = false)
    (h : ∀ w : World, R w { w with rt := f w.rt }) : Proc.Calm g R (writing l (modifyRt f)) :=
  Proc.Calm.holding hl (calm_modifyRt h)

theorem calm_whenSome {p : α → M Unit} (h : ∀ a, Proc.Calm g R (p a)) (o : Option α) :
    Proc.Calm g R (whenSome o p) := by
  cases o with
  | some a => exact h a
  | none => exact Proc.calm_pure _

theorem calm_modifyIo (f : Io → Io) : Proc.Calm g Idle (modifyIo f) :=
  Proc.calm_update fun _ => rfl

theorem calm_nextCall : Proc.Calm g Idle nextCall :=
  (Proc.calm_look _).bind fun _ => (calm_modifyIo _).bind fun _ => Proc.calm_pure _

theorem calm_kuboCall (call : Nat → Except Error α) : Proc.Calm g Idle (kuboCall call) := by
  refine calm_nextCall.bind fun n => ?_
  split
  · exact Proc.calm_pure _
  · exact (calm_modifyIo _).bind fun _ => Proc.calm_fail _

theorem keeps_nextCall_called : Proc.Keeps Called nextCall := fun _ w =>
  ⟨w.io.envelopes, 1, w.io.kuboFailed, id, rfl⟩

theorem keeps_modifyRt_called (f : Runtime → Runtime) : Proc.Keeps Called (modifyRt f) :=
  fun _ w => refl_of Called w

theorem keeps_kuboCall_called (call : Nat → Except Error α) :
    Proc.Keeps Called (kuboCall call) := by
  have hmark : Proc.Keeps Called (modifyIo fun io => { io with kuboFailed := true }) := fun _ w =>
    ⟨w.io.envelopes, 0, true, fun _ => rfl, rfl⟩
  refine keeps_nextCall_called.bind fun n => ?_
  split
  · exact Proc.keeps_pure _
  · exact hmark.bind fun _ => Proc.keeps_fail _

theorem calm_dagGet {Val : Type} (store : ContentStore Cid Val Error) (cid : Cid) :
    Proc.Calm g Idle (dagGet store cid) := calm_kuboCall _

theorem calm_dagPut {Val : Type} (store : ContentStore Cid Val Error) (v : Val) :
    Proc.Calm g Idle (dagPut store v) := calm_kuboCall _

theorem calm_pinAdd (env : Env) (cid : Cid) : Proc.Calm g Idle (pinAdd env cid) :=
  (calm_kuboCall _).bind fun _ => calm_modifyIo _

theorem calm_pinUpdate (env : Env) (oldCid newCid : Cid) :
    Proc.Calm g Idle (pinUpdate env oldCid newCid) := by
  refine (calm_kuboCall _).bind fun _ => (Proc.calm_look _).bind fun b => ?_
  split
  · exact calm_modifyIo _
  · exact calm_pinAdd env newCid

theorem calm_dagResolve (env : Env) (path : String) :
    Proc.Calm g Idle (dagResolve env path) := by
  unfold dagResolve
  split
  · exact calm_kuboCall _
  · exact Proc.calm_pure _

end Frames

/-- Writing under a lock and going on: the rest runs from the changed state. -/
theorem writing_bind {β : Type} {l : Lock} {f : Runtime → Runtime} {k : Unit → M β}
    {g : Lib.Guards Lock} {w : World} {Q : Outcome Error β → World → Prop}
    (hl : g.excludes l .write = false) (h : (k ()).Sat g { w with rt := f w.rt } Q) :
    (writing l (modifyRt f) >>= k).Sat g w Q := by
  refine Proc.sat_bind ?_
  unfold Proc.Sat writing
  rw [Proc.holding_run hl]
  exact h

/-- The rule for a write whose lock may be out of reach. -/
theorem writing_bind_or {β : Type} {l : Lock} {f : Runtime → Runtime} {k : Unit → M β}
    {g : Lib.Guards Lock} {w : World} {Q : Lib.Outcome Error β → World → Prop}
    (hstuck : Q .stuck w) (h : (k ()).Sat g { w with rt := f w.rt } Q) :
    (writing l (modifyRt f) >>= k).Sat g w Q := by
  cases hl : g.excludes l .write with
  | false => exact writing_bind hl h
  | true =>
    have hrun : writing l (modifyRt f) g w = (.stuck, w) := if_pos hl
    unfold Proc.Sat
    rwa [Proc.bind_of_stuck hrun]

theorem withContext_ok {α : Type} {c : String} {p : M α} {g : Lib.Guards Lock} {w w' : World}
    {a : α} (h : withContext c p g w = (.ok a, w')) : p g w = (.ok a, w') :=
  Proc.mapErr_ok h

theorem withContext_of_ok {α : Type} {c : String} {p : M α} {g : Lib.Guards Lock} {w w' : World}
    {a : α} (h : p g w = (.ok a, w')) : withContext c p g w = (.ok a, w') :=
  Proc.mapErr_of_ok h

/-! ## What a Kubo call says -/

/-- A call that got through returned an answer of Kubo. -/
theorem kuboCall_ok {α : Type} {call : Nat → Except Error α} {g : Lib.Guards Lock} {w w' : World}
    {a : α} (h : kuboCall call g w = (.ok a, w')) : ∃ n, call n = .ok a := by
  obtain ⟨n, w1, -, h⟩ := Proc.bind_ok h
  cases hc : call n with
  | ok b =>
    simp only [hc, Proc.pure_run, Prod.mk.injEq, Outcome.ok.injEq] at h
    exact ⟨n, h.1 ▸ hc⟩
  | error e =>
    simp only [hc, Proc.bind_run, modifyIo, Proc.update_run, Proc.fail_run, Prod.mk.injEq,
      reduceCtorEq, false_and] at h

/-- The world some calls later. -/
def World.afterCalls (w : World) (n : Nat) : World :=
  { w with io := { w.io with calls := w.io.calls + n } }

theorem nextCall_bind {α : Type} (f : Nat → M α) {g : Lib.Guards Lock} {w : World} :
    (nextCall >>= f) g w = f w.io.calls g (w.afterCalls 1) := Proc.bind_of_ok rfl

/-- **A Kubo call, by its answer.** -/
theorem kuboCall_run {α : Type} {call : Nat → Except Error α} {g : Lib.Guards Lock} {w : World} :
    kuboCall call g w = match call w.io.calls with
      | .ok a => (.ok a, w.afterCalls 1)
      | .error e => (.err e, { w.afterCalls 1 with
          io := { (w.afterCalls 1).io with kuboFailed := true } }) := by
  unfold kuboCall
  rw [nextCall_bind]
  cases call w.io.calls with
  | ok a => rfl
  | error e => rfl

/-- A get that got through. -/
theorem dagGet_run_ok {Val : Type} {store : ContentStore Cid Val Error} {cid : Cid} {v : Val}
    {g : Lib.Guards Lock} {w w' : World} (h : dagGet store cid g w = (.ok v, w')) :
    store.get w.io.calls cid = .ok v ∧ w' = w.afterCalls 1 := by
  unfold dagGet at h
  rw [kuboCall_run] at h
  cases hget : store.get w.io.calls cid with
  | ok a =>
    simp only [hget, Prod.mk.injEq, Lib.Outcome.ok.injEq] at h
    exact ⟨h.1 ▸ rfl, h.2.symm⟩
  | error e => simp only [hget, Prod.mk.injEq, reduceCtorEq, false_and] at h

theorem dagGet_ok {Val : Type} {store : ContentStore Cid Val Error} {cid : Cid}
    {g : Lib.Guards Lock} {w w' : World} {v : Val} (h : dagGet store cid g w = (.ok v, w')) :
    store.denotes cid = some v := by
  obtain ⟨n, hn⟩ := kuboCall_ok h
  exact store.get_denotes hn

/-- A get that Kubo answers. -/
theorem dagGet_of_get {Val : Type} {store : ContentStore Cid Val Error} {cid : Cid} {v : Val}
    {g : Lib.Guards Lock} {w : World} (h : store.get w.io.calls cid = .ok v) :
    dagGet store cid g w = (.ok v, { w with io := { w.io with calls := w.io.calls + 1 } }) := by
  unfold dagGet
  rw [kuboCall_run, h]
  rfl

/-- A put that Kubo answers. -/
theorem dagPut_of_put {Val : Type} {store : ContentStore Cid Val Error} {v : Val} {cid : Cid}
    {g : Lib.Guards Lock} {w : World} (h : store.put w.io.calls v = .ok cid) :
    dagPut store v g w = (.ok cid, { w with io := { w.io with calls := w.io.calls + 1 } }) := by
  unfold dagPut
  rw [kuboCall_run, h]
  rfl

theorem dagPut_ok {Val : Type} {store : ContentStore Cid Val Error} {v : Val}
    {g : Lib.Guards Lock} {w w' : World} {cid : Cid} (h : dagPut store v g w = (.ok cid, w')) :
    store.denotes cid = some v := by
  obtain ⟨n, hn⟩ := kuboCall_ok h
  exact store.put_denotes hn

/-- A call gets through with an answer of Kubo, or leaves its mark. -/
theorem kuboCall_sat {α : Type} (call : Nat → Except Error α) {g : Lib.Guards Lock} {w : World} :
    (kuboCall call).Sat g w fun o w' => Idle w w' ∧
      ((∃ n a, call n = .ok a ∧ o = .ok a) ∨ ∃ e, o = .err e ∧ w'.io.kuboFailed = true) := by
  unfold Proc.Sat
  rw [kuboCall_run]
  cases hc : call w.io.calls with
  | ok a => exact ⟨rfl, .inl ⟨_, a, hc, rfl⟩⟩
  | error e => exact ⟨rfl, .inr ⟨e, rfl, rfl⟩⟩

theorem dagGet_sat {Val : Type} (store : ContentStore Cid Val Error) (cid : Cid)
    {g : Lib.Guards Lock} {w : World} : (dagGet store cid).Sat g w fun o w' => Idle w w' ∧
      ((∃ v, store.denotes cid = some v ∧ o = .ok v) ∨
        ∃ e, o = .err e ∧ w'.io.kuboFailed = true) := by
  refine (kuboCall_sat _).mono fun o w' ⟨hidle, h⟩ => ⟨hidle, ?_⟩
  rcases h with ⟨n, v, hv, ho⟩ | h
  · exact .inl ⟨v, store.get_denotes hv, ho⟩
  · exact .inr h

theorem dagPut_sat {Val : Type} (store : ContentStore Cid Val Error) (v : Val)
    {g : Lib.Guards Lock} {w : World} : (dagPut store v).Sat g w fun o w' => Idle w w' ∧
      ((∃ cid, store.denotes cid = some v ∧ o = .ok cid) ∨
        ∃ e, o = .err e ∧ w'.io.kuboFailed = true) := by
  refine (kuboCall_sat _).mono fun o w' ⟨hidle, h⟩ => ⟨hidle, ?_⟩
  rcases h with ⟨n, cid, hcid, ho⟩ | h
  · exact .inl ⟨cid, store.put_denotes hcid, ho⟩
  · exact .inr h

end MaRuntime
