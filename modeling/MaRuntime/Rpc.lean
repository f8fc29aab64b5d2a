import MaRuntime.Plugin

/-!
# The RPC service (`src/rpc.rs`)

`/ma/rpc/0.0.1` delivers a message to the entity its DID-URL names: through the transport gate,
the entity's own ACL, the plugin, and then the state, the creations and the deletions that the
plugin asked for. A group in an entity's ACL is resolved by a call of the set actor it names
(`query_actor_group` of `src/acl.rs`).
-/

namespace MaRuntime

open Lib (Cbor Proc)

/-! ## Groups -/

/-- `saturating_mul(1_000_000_000)`. -/
def secsToNanos (secs : UInt64) : UInt64 :=
  UInt64.ofNat (min (secs.toNat * 1000000000) (2 ^ 64 - 1))

/-- The answer of a set actor to `:contains`, read off the output of its export. -/
def containedIn (codec : Lib.CborCodec) (output : Bytes) : Bool :=
  match codec.decode output with
  | some (.array (.text ok :: .bool b :: _)) => ok = ":ok" && b
  | some (.bool b) => b
  | _ => false

/-- `query_actor_group`. -/
def queryActorGroup (env : Env) (groupRef caller : String) : M (List String) := do
  match Text.stripPrefix groupRef "+#" with
  | none => Proc.fail [s!"group ref must use +#<fragment> syntax: {groupRef}"]
  | some fragment =>
    match ← reading .entityRegistry (getRt fun rt => rt.entityRegistry[fragment]?) with
    | none => Proc.fail [s!"group actor +#{fragment} not found in registry"]
    | some ep => do
      let content := env.codec.encode (.array [.text ":contains", .text caller])
      let n ← nextCall
      let now := secsToNanos (env.now n)
      let msg : LocalMessage :=
        { id := s!"acl-contains-{fragment}", «from» := "", «to» := s!"#{fragment}"
          createdAt := now, expires := now + 5000000000, replyTo := none
          contentType := env.contentTypeTerm, content }
      let result ← handleCall env ep { msg }
      pure (if containedIn env.codec result.output then [caller] else [])

/-- The question `query_actor_group` asks. -/
def containsMessage (env : Env) (fragment caller : String) (n : Nat) : LocalMessage :=
  { id := s!"acl-contains-{fragment}", «from» := "", «to» := s!"#{fragment}"
    createdAt := secsToNanos (env.now n), expires := secsToNanos (env.now n) + 5000000000
    replyTo := none, contentType := env.contentTypeTerm
    content := env.codec.encode (.array [.text ":contains", .text caller]) }

/-- The query of a registered actor is a call of it. -/
theorem queryActorGroup_run {env : Env} {groupRef fragment caller : String} {w : World}
    {g : Lib.Guards Lock} {ep : EntityPlugin} (hg : g.excludes .entityRegistry .read = false)
    (hfragment : Text.stripPrefix groupRef "+#" = some fragment)
    (hentity : w.rt.entityRegistry[fragment]? = some ep) :
    queryActorGroup env groupRef caller g w =
      (do let result ← handleCall env ep { msg := containsMessage env fragment caller w.io.calls }
          pure (if containedIn env.codec result.output then [caller] else []) : M (List String)) g
        (w.afterCalls 1) := by
  have hread : (reading .entityRegistry (getRt fun rt => rt.entityRegistry[fragment]?) : M _) g w =
      (.ok (some ep), w) := by
    unfold reading
    rw [Proc.holding_run hg]
    exact congrArg (fun o => (Lib.Outcome.ok o, w)) hentity
  unfold queryActorGroup
  rw [hfragment]
  dsimp only
  rw [Proc.bind_of_ok hread]
  dsimp only
  rw [nextCall_bind]
  rfl

/-! ## The entity gate -/

/-- The verb a term names, for the entity's ACL. -/
def verbOf : Cbor → Option String
  | .text s => some s
  | .array (.text s :: _) => some s
  | _ => none

/-- The caller as an entity's ACL sees it: an entity of this runtime is `#fragment`. -/
def callerDid (env : Env) (sender : String) : String :=
  match Text.stripPrefix sender (env.ourDid ++ "#") with
  | some frag => "#" ++ frag
  | none => sender

/-- The ACL enforcement of `handle_entity_plugin_message`. -/
def authorizeEntity (env : Env) (message : Message) (term : Cbor) (entity : EntityPlugin) :
    M Unit := do
  let fragment := entity.fragment
  let aclName := entity.acl
  if aclName = "" then
    Proc.fail [s!"entity '{fragment}' has no ACL configured: access denied (fail-closed)"]
  else
    match ← reading .aclCache (getRt fun rt => rt.aclCache[s!"acls.{aclName}"]?) with
    | none =>
      Proc.fail [s!"entity '{fragment}' ACL '{aclName}' not found in cache: access denied"]
    | some aclMap => do
      let verb := verbOf term
      let caller := callerDid env message.from
      let sender := message.from
      let calling := match verb with
        | some v => "Some(" ++ Text.debug v ++ ")"
        | none => "None"
      withContext s!"entity '{fragment}' ACL denied {sender} calling {calling}" do
        let verdict ← checkFull env.core caller
          (fun g => (queryActorGroup env g caller).attempt) aclMap [verb.getD "*", "*"]
        Proc.ofExcept verdict

/-! ## Dispatch -/

/-- The message a plugin sees. -/
def localMessage (env : Env) (message : Message) (term : Cbor) : LocalMessage :=
  { id := message.id, «from» := message.from, «to» := message.to, createdAt := message.createdAt
    expires := message.exp, replyTo := message.replyTo, contentType := message.contentType
    content := env.codec.encode term }

/-- The export an entity's kind is dispatched to. -/
def dispatch (env : Env) (entity : EntityPlugin) (input : CastInput) : M DispatchResult :=
  match entity.kind with
  | .stateless => handleCast env entity input
  | .stateful => handleCall env entity input

/-- Persist the state a dispatch queued. A failure is only logged. -/
def persistPending (env : Env) (entity : EntityPlugin) (pending : Option Bytes) : M Unit :=
  match pending with
  | none => pure ()
  | some stateBytes => do
    match ← (dagPut env.kubo.blobs stateBytes).attempt with
    | .ok _ => markSaved entity stateBytes
    | .error _ => pure ()

/-- `persist_new_entity`, up to what is done (`publish`) with the manifest and its change. -/
def publishNewEntityWith {α : Type} (publish : RuntimeManifest → Mutation → M α) (env : Env)
    (oldRootCid : Cid) (fragment : String) (entityNode : EntityNode) : M α := do
  let manifest ← dagGet env.kubo.manifests oldRootCid
  let entityCid ← dagPut env.kubo.entities entityNode
  publish manifest fun m => { m with entities := m.entities.insert fragment ⟨entityCid⟩ }

/-- `persist_new_entity`, up to the new root. -/
def publishNewEntity (env : Env) : Cid → String → EntityNode → M Cid :=
  publishNewEntityWith (fun manifest f => dagPut env.kubo.manifests (f manifest)) env

/-- `persist_new_entity`. -/
def persistNewEntity (env : Env) (oldRootCid : Cid) (fragment : String)
    (entityNode : EntityNode) : M Unit := do
  let newRootCid ← publishNewEntity env oldRootCid fragment entityNode
  let _ ← (pinUpdate env oldRootCid newRootCid).attempt
  writeStats fun s => { s with rootCid := some newRootCid }

/-- The node of an entity that a plugin asked for. -/
def requestedNode (entity : EntityPlugin) (req : CreateEntityRequest) : EntityNode :=
  { kind := req.kindProtocol, behaviour := some ⟨req.behaviourCid⟩, acl := entity.acl
    parent := some entity.fragment, lifecycle := .new }

/-- The creating plugin is told that `init` failed. -/
def initFailedEnvelope (env : Env) (req : CreateEntityRequest) : SendEnvelope :=
  let fragment := req.fragment
  let ourDid := env.ourDid
  let parent := req.parent
  { «to» := s!"{ourDid}#{parent}", contentType := env.contentTypeTerm
    content := env.codec.encode
      (.array [.text ":error", .text s!"init() failed for #{fragment}", .text fragment])
    replyTo := none }

/-- `if let Some(ref old_cid) = ctx.stats.read().await.root_cid.clone()`: the guard on `stats` is a
temporary of the scrutinee and lives to the end of the `if let`. -/
def recordNewEntity (env : Env) (fragment : String) (entityNode : EntityNode) : M Unit :=
  reading .stats do
    match ← getRt fun rt => rt.stats.rootCid with
    | some oldCid => do
      let _ ← (persistNewEntity env oldCid fragment
        { entityNode with lifecycle := .running }).attempt
    | none => pure ()

/-- One creation request. -/
def createRequested (env : Env) (entity : EntityPlugin) (req : CreateEntityRequest) :
    M Unit := do
  match ← reading .kindRegistry (getRt fun rt => rt.kindRegistry[req.kindProtocol]?) with
  | none => pure ()
  | some kindNode => do
    let entityNode := requestedNode entity req
    match ← (load env req.fragment entityNode kindNode).attempt with
    | .ok (ep, .running) => do
      writing .entityRegistry (modifyRt fun rt =>
        { rt with entityRegistry := rt.entityRegistry.insert req.fragment ep })
      recordNewEntity env req.fragment entityNode
    | .ok (_, .error) =>
      modifyIo fun io =>
        { io with envelopes := io.envelopes ++ [(req.parent, initFailedEnvelope env req)] }
    | .ok _ => pure ()
    | .error _ => pure ()

/-- One deletion request: from the parent or the entity itself, and only without children. The
guard on the registry is dropped before the removal. -/
def deleteRequested (entity : EntityPlugin) (targetFragment : String) : M Unit := do
  let registry ← reading .entityRegistry (getRt fun rt => rt.entityRegistry)
  match registry[targetFragment]? with
  | none => pure ()
  | some target =>
    if target.parent ≠ some entity.fragment ∧ targetFragment ≠ entity.fragment then pure ()
    else if registry.values.any (·.parent = some targetFragment) then pure ()
    else writing .entityRegistry (modifyRt fun rt =>
      { rt with entityRegistry := rt.entityRegistry.erase targetFragment })

/-- What follows a dispatch: the state, then the creations, then the deletions. -/
def processResult (env : Env) (entity : EntityPlugin) (result : DispatchResult) : M Unit := do
  persistPending env entity result.pendingState
  Proc.each result.createRequests (createRequested env entity)
  Proc.each result.deleteRequests (deleteRequested entity)

/-- `handle_entity_plugin_message`, where `deliver` stands for the `dispatch` of the target. -/
def handleEntityPluginMessageWith (deliver : EntityPlugin → CastInput → M DispatchResult)
    (env : Env) (message : Message) (term : Cbor) (entity : EntityPlugin) : M Unit := do
  authorizeEntity env message term entity
  let result ← deliver entity { msg := localMessage env message term }
  processResult env entity result

/-- `handle_entity_plugin_message`. -/
def handleEntityPluginMessage (env : Env) : Message → Cbor → EntityPlugin → M Unit :=
  handleEntityPluginMessageWith (dispatch env) env

/-! ## The service -/

/-- `send_rpc_reply_typed`. An outbox that cannot be opened is only logged. -/
def sendRpcReply (env : Env) (incoming : Message) (body : ReplyBody) : M Unit := do
  let sender := incoming.from
  if (env.parseDid sender).isNone then Proc.fail [s!"invalid sender DID: {sender}"]
  else do
    let n ← nextCall
    match env.deliver n with
    | .buildFailed e => Proc.fail ("failed to build RPC reply" :: e)
    | .noOutbox => pure ()
    | .sendFailed e => Proc.fail ("RPC reply send failed" :: e)
    | .sent =>
      modifyIo fun io =>
        { io with
          replies := io.replies ++
            [{ «to» := sender, replyType := env.messageTypeRpcReply, replyTo := incoming.id,
               body }] }

/-- The sender is an entity of this runtime. -/
def intraRuntime (env : Env) (sender : String) : Bool :=
  Text.startsWith sender (env.ourDid ++ "#")

/-- The transport gate of `handle_rpc_message`. -/
def rpcGate (env : Env) (message : Message) (acl : AclMap) : M Unit :=
  unless intraRuntime env message.from do
    let owners ← readStats fun s => s.owners
    unless isOwner env.core owners message.from do
      Proc.ofExcept (checkFullNoGroups env.core acl message.from [capRpc])

/-- A message with a fragment goes to the entity of that name. -/
def dispatchFragmentWith (deliver : EntityPlugin → CastInput → M DispatchResult) (env : Env)
    (message : Message) (term : Cbor) (fragment : String) : M Unit := do
  match ← reading .entityRegistry (getRt fun rt => rt.entityRegistry[fragment]?) with
  | some entity => do
    match ← (handleEntityPluginMessageWith deliver env message term entity).attempt with
    | .ok () => pure ()
    | .error e => sendRpcReply env message (.error e.display)
  | none => sendRpcReply env message (.error s!"unknown entity fragment: {fragment}")

/-- The same, with `dispatch`. -/
def dispatchFragment (env : Env) : Message → Cbor → String → M Unit :=
  dispatchFragmentWith (dispatch env) env

/-- `handle_rpc_message`, where `deliver` stands for `dispatch`. -/
def handleRpcMessageWith (deliver : EntityPlugin → CastInput → M DispatchResult) (env : Env)
    (message : Message) (acl : AclMap) : M Unit := do
  rpcGate env message acl
  if message.messageType ≠ env.messageTypeRpc then
    let messageType := message.messageType
    Proc.fail [s!"unsupported RPC message type '{messageType}' on /ma/rpc/0.0.1"]
  else
    match env.codec.decode message.payload with
    | none => Proc.fail ["invalid CBOR in RPC message"]
    | some term =>
      match Text.stripPrefix message.to (env.ourDid ++ "#") with
      | some fragment => dispatchFragmentWith deliver env message term fragment
      | none =>
        match term with
        | .text ping =>
          if ping = ":ping" then sendRpcReply env message .pong
          else sendRpcReply env message (.i18nError "rpc-unknown-verb" [])
        | _ => sendRpcReply env message (.i18nError "rpc-not-text-atom" [])

/-- `handle_rpc_message`. -/
def handleRpcMessage (env : Env) : Message → AclMap → M Unit :=
  handleRpcMessageWith (dispatch env) env

/-- The state in which the gate is asked: the message is counted. -/
def counted (w : World) : World :=
  { w with rt := { w.rt with stats :=
    { w.rt.stats with rpcRequests := w.rt.stats.rpcRequests + 1 } } }

/-- The main loop's turn for one RPC message, where `deliver` stands for `dispatch`: the handler
runs under the read guard on the root ACL that its argument borrows from. -/
def rpcTurnWith (deliver : EntityPlugin → CastInput → M DispatchResult) (env : Env)
    (message : Message) : M Unit := do
  writeStats fun s => { s with rpcRequests := s.rpcRequests + 1 }
  reading .rootAcl do
    let acl ← getRt fun rt => rt.rootAcl
    handleRpcMessageWith deliver env message acl

/-- The main loop's turn for one RPC message. -/
def rpcTurn (env : Env) : Message → M Unit := rpcTurnWith (dispatch env) env

/-! ## Frames -/

section Frames

variable {g : Lib.Guards Lock} {env : Env}

section CheckFull

variable {R : World → World → Prop} [IsPreorder World R] {core : MaCore} {caller : String}
  {resolveGroup : String → M (Except Error (List String))}

theorem calm_inGroup (h : ∀ key, Proc.Calm g R (resolveGroup key)) (key : String) :
    Proc.Calm g R (inGroup core caller resolveGroup key) :=
  (h key).bind fun _ => Proc.calm_pure _

theorem calm_deniedGroup (h : ∀ key, Proc.Calm g R (resolveGroup key)) :
    ∀ l : List (String × CapabilityEntry), Proc.Calm g R (deniedGroup core caller resolveGroup l)
  | [] => Proc.calm_pure _
  | (key, .deny) :: rest => by
    unfold deniedGroup
    split
    · refine (calm_inGroup h key).bind fun b => ?_
      split
      · exact Proc.calm_pure _
      · exact calm_deniedGroup h rest
    · exact calm_deniedGroup h rest
  | (_, .allow _) :: rest => by
    unfold deniedGroup
    exact calm_deniedGroup h rest

theorem calm_allowedGroup (h : ∀ key, Proc.Calm g R (resolveGroup key)) (caps : List String) :
    ∀ l : List (String × CapabilityEntry),
      Proc.Calm g R (allowedGroup core caller resolveGroup caps l)
  | [] => Proc.calm_pure _
  | (key, .allow capSet) :: rest => by
    unfold allowedGroup
    split
    · refine (calm_inGroup h key).bind fun b => ?_
      split
      · exact Proc.calm_pure _
      · exact calm_allowedGroup h caps rest
    · exact calm_allowedGroup h caps rest
  | (_, .deny) :: rest => by
    unfold allowedGroup
    exact calm_allowedGroup h caps rest

/-- `check_full` does what its resolver does. -/
theorem calm_checkFull (h : ∀ key, Proc.Calm g R (resolveGroup key)) (acl : AclMap)
    (caps : List String) : Proc.Calm g R (checkFull core caller resolveGroup acl caps) := by
  unfold checkFull
  split
  · exact Proc.calm_pure _
  · split
    · exact Proc.calm_pure _
    · split
      · exact Proc.calm_pure _
      · refine (calm_deniedGroup h _).bind fun o => ?_
        split
        · exact Proc.calm_pure _
        · refine (calm_allowedGroup h _ _).bind fun b => ?_
          dsimp only
          split
          · exact Proc.calm_pure _
          · exact Proc.calm_pure _

end CheckFull

theorem calm_queryActorGroup (hg : g.excludes .entityRegistry .read = false)
    (groupRef caller : String) : Proc.Calm g CellsOnly (queryActorGroup env groupRef caller) := by
  unfold queryActorGroup
  split
  · exact Proc.calm_fail _
  · refine (Proc.Calm.holding hg (calm_getRt _)).bind fun o => ?_
    split
    · exact Proc.calm_fail _
    · exact (calm_nextCall.mono fun _ _ h => h.cellsOnly).bind fun _ =>
        (calm_handleCall env _ _).bind fun _ => Proc.calm_pure _

theorem calm_authorizeEntity (hr : g.excludes .entityRegistry .read = false)
    (hc : g.excludes .aclCache .read = false) (message : Message) (term : Cbor)
    (entity : EntityPlugin) : Proc.Calm g CellsOnly (authorizeEntity env message term entity) := by
  unfold authorizeEntity
  dsimp only
  split
  · exact Proc.calm_fail _
  · refine (Proc.Calm.holding hc (calm_getRt _)).bind fun o => ?_
    split
    · exact Proc.calm_fail _
    · exact calm_withContext _ <|
        (calm_checkFull (fun key => (calm_queryActorGroup hr key _).attempt) _ _).bind
          fun _ => Proc.calm_ofExcept _

theorem calm_dispatch (entity : EntityPlugin) (input : CastInput) :
    Proc.Calm g CellsOnly (dispatch env entity input) := by
  unfold dispatch
  split
  · exact calm_dispatchTo env entity _ input
  · exact calm_dispatchTo env entity _ input

theorem calm_persistPending (entity : EntityPlugin) (pending : Option Bytes) :
    Proc.Calm g CellsOnly (persistPending env entity pending) := by
  unfold persistPending
  split
  · exact Proc.calm_pure _
  · refine ((calm_dagPut _ _).attempt.mono fun _ _ h => h.cellsOnly).bind fun r => ?_
    split
    · exact calm_markSaved _ _
    · exact Proc.calm_pure _

theorem calm_deleteRequested (hg : g.excludes .entityRegistry .write = false)
    (hr : g.excludes .entityRegistry .read = false) (entity : EntityPlugin)
    (targetFragment : String) :
    Proc.Calm g PluginsOnly (deleteRequested entity targetFragment) := by
  unfold deleteRequested
  refine (Proc.Calm.holding hr (calm_getRt _)).bind fun registry => ?_
  split
  · exact Proc.calm_pure _
  · split
    · exact Proc.calm_pure _
    · split
      · exact Proc.calm_pure _
      · exact calm_writing hg fun _ => rfl

/-- A request for a kind that the registry does not hold is skipped. -/
theorem createRequested_unknown (hg : g.excludes .kindRegistry .read = false)
    {entity : EntityPlugin} {req : CreateEntityRequest} {w : World}
    (h : w.rt.kindRegistry[req.kindProtocol]? = none) :
    createRequested env entity req g w = (.ok (), w) := by
  unfold createRequested
  rw [Proc.bind_of_ok (a := none) (t := w)]
  · rfl
  · unfold reading
    rw [Proc.holding_run hg]
    exact congrArg (fun o => (Lib.Outcome.ok o, w)) h

theorem calm_sendRpcReply (incoming : Message) (body : ReplyBody) :
    Proc.Calm g Idle (sendRpcReply env incoming body) := by
  unfold sendRpcReply
  dsimp only
  split
  · exact Proc.calm_fail _
  · refine calm_nextCall.bind fun n => ?_
    split
    · exact Proc.calm_fail _
    · exact Proc.calm_pure _
    · exact Proc.calm_fail _
    · exact calm_modifyIo _

theorem calm_rpcGate (hg : g.excludes .stats .read = false) (message : Message) (acl : AclMap) :
    Proc.Calm g Idle (rpcGate env message acl) := by
  unfold rpcGate
  split
  · exact Proc.calm_pure _
  · refine (calm_readStats _ hg).bind fun owners => ?_
    split
    · exact Proc.calm_pure _
    · exact Proc.calm_ofExcept _

/-! ### A whole turn -/

theorem calm_publishNewEntity (root : Cid) (fragment : String) (node : EntityNode) :
    Proc.Calm g Idle (publishNewEntity env root fragment node) :=
  (calm_dagGet _ _).bind fun _ => (calm_dagPut _ _).bind fun _ => calm_dagPut _ _

/-- Under a guard on `stats` a new entity is never recorded: the last write waits. -/
theorem persistNewEntity_idle (hg : g.excludes .stats .write = true) (root : Cid)
    (fragment : String) (node : EntityNode) (w : World) :
    Idle w (persistNewEntity env root fragment node g w).2 := by
  have hpublish := (@calm_publishNewEntity g env root fragment node).keeps
  refine hpublish.sat_bind (Q := fun _ w' => Idle w w') (fun _ _ h => h) (fun _ h => h)
    fun newRoot w1 _ h1 => ?_
  have hpin := (@calm_pinUpdate g env root newRoot).attempt.keeps
  refine hpin.sat_bind (fun _ _ h => trans_of Idle h1 h) (fun _ h => trans_of Idle h1 h)
    fun _ w2 _ h2 => ?_
  unfold Proc.Sat writeStats writing Proc.holding
  rw [if_pos hg]
  exact trans_of Idle h1 h2

theorem keeps_recordNewEntity (fragment : String) (node : EntityNode) :
    Proc.Keeps Idle (recordNewEntity env fragment node) := by
  intro g w
  unfold recordNewEntity reading Proc.holding
  split
  · exact refl_of Idle w
  · refine (Proc.keeps_look (R := Idle) _).sat_bind (Q := fun _ w' => Idle w w') (fun _ _ h => h)
      (fun _ h => h) fun root w1 _ h1 => ?_
    cases root with
    | none => exact h1
    | some root =>
      have hexcl : Lib.Guards.excludes ((.stats, .read) :: g) Lock.stats .write = true := by
        simp [Lib.Guards.excludes]
      have hidle := @persistNewEntity_idle _ env hexcl root fragment
        { node with lifecycle := .running } w1
      unfold Proc.Sat
      rw [Proc.attempt_pure_snd]
      exact trans_of Idle h1 hidle

theorem keeps_createRequested (entity : EntityPlugin) (req : CreateEntityRequest) :
    Proc.Keeps PluginsOnly (createRequested env entity req) := by
  have idle {α : Type} {p : M α} (h : Proc.Keeps Idle p) : Proc.Keeps PluginsOnly p :=
    h.mono fun _ _ h => h.cellsOnly.pluginsOnly
  refine (Proc.Keeps.holding (Proc.keeps_look _) _ _).bind fun k => ?_
  split
  · exact Proc.keeps_pure _
  · refine ((@calm_load [] env _ _ _).keeps.attempt.mono fun _ _ h => h.pluginsOnly).bind
      fun r => ?_
    split
    · rename_i _ ep
      have hinsert : Proc.Keeps PluginsOnly (writing .entityRegistry (modifyRt fun rt =>
          { rt with entityRegistry := rt.entityRegistry.insert req.fragment ep })) := by
        refine Proc.Keeps.holding ?_ _ _
        exact fun _ _ => rfl
      exact hinsert.bind fun _ => idle (keeps_recordNewEntity _ _)
    · exact idle (@calm_modifyIo [] _).keeps
    · exact Proc.keeps_pure _
    · exact Proc.keeps_pure _

theorem keeps_processResult (entity : EntityPlugin) (result : DispatchResult) :
    Proc.Keeps PluginsOnly (processResult env entity result) :=
  ((@calm_persistPending [] env entity _).keeps.mono fun _ _ h => h.pluginsOnly).bind fun _ =>
    (Proc.Keeps.each (keeps_createRequested entity) _).bind fun _ =>
      Proc.Keeps.each (fun t => (@calm_deleteRequested [] rfl rfl entity t).keeps) _

theorem keeps_handleEntityPluginMessage (message : Message) (term : Cbor)
    (entity : EntityPlugin) :
    Proc.Keeps PluginsOnly (handleEntityPluginMessage env message term entity) :=
  ((@calm_authorizeEntity [] env rfl rfl message term entity).keeps.mono
      fun _ _ h => h.pluginsOnly).bind fun _ =>
    ((@calm_dispatch [] env entity _).keeps.mono fun _ _ h => h.pluginsOnly).bind fun _ =>
      keeps_processResult entity _

theorem keeps_dispatchFragment (message : Message) (term : Cbor) (fragment : String) :
    Proc.Keeps PluginsOnly (dispatchFragment env message term fragment) := by
  have hreply (body : ReplyBody) : Proc.Keeps PluginsOnly (sendRpcReply env message body) :=
    (@calm_sendRpcReply [] env message body).keeps.mono fun _ _ h => h.cellsOnly.pluginsOnly
  refine (Proc.Keeps.holding (Proc.keeps_look _) _ _).bind fun o => ?_
  split
  · refine (keeps_handleEntityPluginMessage message term _).attempt.bind fun r => ?_
    split
    · exact Proc.keeps_pure _
    · exact hreply _
  · exact hreply _

theorem keeps_handleRpcMessage (message : Message) (acl : AclMap) :
    Proc.Keeps PluginsOnly (handleRpcMessage env message acl) := by
  have hreply (body : ReplyBody) : Proc.Keeps PluginsOnly (sendRpcReply env message body) :=
    (@calm_sendRpcReply [] env message body).keeps.mono fun _ _ h => h.cellsOnly.pluginsOnly
  refine ((@calm_rpcGate [] env rfl message acl).keeps.mono
    fun _ _ h => h.cellsOnly.pluginsOnly).bind fun _ => ?_
  split
  · exact Proc.keeps_fail _
  · split
    · exact Proc.keeps_fail _
    · split
      · exact keeps_dispatchFragment _ _ _
      · split
        · split
          · exact hreply _
          · exact hreply _
        · exact hreply _

/-- **What an RPC message can do**: it is counted, and moves only plugins and their registry. -/
theorem rpcTurn_pluginsOnly (env : Env) (message : Message) (w : World) :
    PluginsOnly (counted w) (rpcTurn env message [] w).2 :=
  keeps_handleRpcMessage message w.rt.rootAcl [(.rootAcl, .read)] (counted w)

end Frames

/-! ## The stages of a message -/

/-- The guards of the loop body: the read guard on the root ACL. -/
abbrev rpcGuards : Lib.Guards Lock := [(.rootAcl, .read)]

/-- What follows the state of a dispatch: the creations, then the deletions. -/
def processQueues (env : Env) (entity : EntityPlugin) (result : DispatchResult) : M Unit := do
  Proc.each result.createRequests (createRequested env entity)
  Proc.each result.deleteRequests (deleteRequested entity)

/-- The message is dispatched to the entity, which leaves the result. The last state is the one in
which its creation requests are taken up. -/
inductive Dispatched (env : Env) (message : Message) (term : Cbor) (entity : EntityPlugin)
    (w : World) : DispatchResult → World → Prop
  | intro {w1 w2 w3 : World} {result : DispatchResult}
      (hauth : authorizeEntity env message term entity rpcGuards w = (.ok (), w1))
      (hdispatch : dispatch env entity { msg := localMessage env message term } rpcGuards w1 =
        (.ok result, w2))
      (hpersist : persistPending env entity result.pendingState rpcGuards w2 = (.ok (), w3)) :
      Dispatched env message term entity w result w3

/-- An RPC message gets as far as the creation requests of its dispatch. -/
inductive RpcResult (env : Env) (message : Message) (w : World) :
    EntityPlugin → DispatchResult → World → Prop
  | intro {w1 w2 : World} {term : Cbor} {fragment : String} {entity : EntityPlugin}
      {result : DispatchResult}
      (hgate : rpcGate env message w.rt.rootAcl rpcGuards (counted w) = (.ok (), w1))
      (htype : message.messageType = env.messageTypeRpc)
      (hterm : env.codec.decode message.payload = some term)
      (hfragment : Text.stripPrefix message.to (env.ourDid ++ "#") = some fragment)
      (hentity : w1.rt.entityRegistry[fragment]? = some entity)
      (hdispatched : Dispatched env message term entity w1 result w2) :
      RpcResult env message w entity result w2

section Stages

variable {env : Env}

/-- The failure of a request is only logged. -/
theorem createRequested_ne_err {entity : EntityPlugin} {req : CreateEntityRequest} {w : World}
    (e : Error) : (createRequested env entity req rpcGuards w).1 ≠ .err e := by
  unfold createRequested
  rw [Proc.bind_of_ok (a := w.rt.kindRegistry[req.kindProtocol]?) (t := w) rfl]
  cases w.rt.kindRegistry[req.kindProtocol]? with
  | none => simp
  | some kindNode =>
    dsimp only
    obtain ⟨r, w1, hload⟩ := (calm_load (g := rpcGuards) env req.fragment
      (requestedNode entity req) kindNode).frees.attempt_run w
    rw [Proc.bind_of_ok hload]
    split
    · rw [Proc.bind_of_ok (a := ()) rfl]
      unfold recordNewEntity reading
      rw [Proc.holding_run rfl, Proc.bind_of_ok (a := w1.rt.stats.rootCid) rfl]
      cases w1.rt.stats.rootCid with
      | none => simp
      | some root => exact Proc.attempt_pure_ne_err _ _ _ e
    · simp [modifyIo]
    · simp
    · simp

theorem each_createRequested_ne_err {entity : EntityPlugin} (e : Error) :
    ∀ {reqs : List CreateEntityRequest} {w : World},
      (Proc.each reqs (createRequested env entity) rpcGuards w).1 ≠ .err e
  | [], w => by simp [Proc.each]
  | _ :: _, _ => Proc.bind_ne_err (createRequested_ne_err e) fun _ _ =>
      each_createRequested_ne_err e

/-- The guards of a deletion: the target is the entity itself or its child, and has no children. -/
def mayDelete (entity : EntityPlugin) (registry : StrMap EntityPlugin) (target : String) : Bool :=
  match registry[target]? with
  | none => false
  | some ep => (ep.parent = some entity.fragment || target = entity.fragment) &&
      !registry.values.any (·.parent = some target)

/-- The registry after a deletion request. -/
def afterDelete (entity : EntityPlugin) (registry : StrMap EntityPlugin) (target : String) :
    StrMap EntityPlugin :=
  if mayDelete entity registry target then registry.erase target else registry

/-- **What a deletion request does.** -/
theorem deleteRequested_run (entity : EntityPlugin) (target : String) (w : World) :
    deleteRequested entity target rpcGuards w =
      (.ok (), { w with rt := { w.rt with
        entityRegistry := afterDelete entity w.rt.entityRegistry target } }) := by
  unfold deleteRequested
  rw [Proc.bind_of_ok (a := w.rt.entityRegistry) (t := w) rfl]
  have spared (h : mayDelete entity w.rt.entityRegistry target = false) :
      afterDelete entity w.rt.entityRegistry target = w.rt.entityRegistry := by
    unfold afterDelete
    rw [h]
    rfl
  cases hreg : w.rt.entityRegistry[target]? with
  | none =>
    rw [spared (by simp [mayDelete, hreg])]
    rfl
  | some ep =>
    dsimp only
    by_cases hfar : ep.parent ≠ some entity.fragment ∧ target ≠ entity.fragment
    · rw [if_pos hfar, spared (by simp [mayDelete, hreg, hfar])]
      rfl
    · rw [if_neg hfar]
      cases hany : w.rt.entityRegistry.values.any fun child => child.parent = some target with
      | true =>
        rw [if_pos rfl, spared (by simp [mayDelete, hreg, hany])]
        rfl
      | false =>
        have hmay : mayDelete entity w.rt.entityRegistry target = true := by
          have hnear : ep.parent = some entity.fragment ∨ target = entity.fragment := by
            by_contra hne
            exact hfar (not_or.mp hne)
          simp [mayDelete, hreg, hany, hnear]
        unfold afterDelete
        rw [hmay]
        rfl

theorem deleteRequests_run (entity : EntityPlugin) : ∀ (targets : List String) (w : World),
    Proc.each targets (deleteRequested entity) rpcGuards w =
      (.ok (), { w with rt := { w.rt with
        entityRegistry := targets.foldl (afterDelete entity) w.rt.entityRegistry } })
  | [], _ => rfl
  | target :: targets, w =>
    (Proc.bind_of_ok (deleteRequested_run entity target w)).trans
      (deleteRequests_run entity targets _)

theorem processQueues_ne_err {entity : EntityPlugin} {result : DispatchResult} {w : World}
    (e : Error) : (processQueues env entity result rpcGuards w).1 ≠ .err e := by
  refine Proc.bind_ne_err (each_createRequested_ne_err e) fun _ w1 => ?_
  rw [deleteRequests_run]
  simp

/-- **A message that gets as far as its queues ends as they do.** -/
theorem RpcResult.run {message : Message} {w w' : World} {entity : EntityPlugin}
    {result : DispatchResult} (h : RpcResult env message w entity result w') :
    rpcTurn env message [] w = processQueues env entity result rpcGuards w' := by
  obtain @⟨w1, _, term, fragment, _, _, hgate, htype, hterm, hfragment, hentity, hdispatched⟩ := h
  obtain ⟨hauth, hdispatch, hpersist⟩ := hdispatched
  have hhandle : handleEntityPluginMessage env message term entity rpcGuards w1 =
      processQueues env entity result rpcGuards w' :=
    (Proc.bind_of_ok hauth).trans ((Proc.bind_of_ok hdispatch).trans (Proc.bind_of_ok hpersist))
  have hfrag : dispatchFragment env message term fragment rpcGuards w1 =
      processQueues env entity result rpcGuards w' := by
    unfold dispatchFragment dispatchFragmentWith
    rw [Proc.bind_of_ok (a := some entity) (t := w1) (congrArg (fun o => (Lib.Outcome.ok o, w1))
      hentity)]
    rcases hrun : processQueues env entity result rpcGuards w' with ⟨o, w3⟩
    rw [hrun] at hhandle
    cases o with
    | ok u => exact (Proc.bind_of_ok (Proc.attempt_of_ok hhandle)).trans rfl
    | err e => exact absurd (congrArg Prod.fst hrun) (processQueues_ne_err e)
    | stuck => exact Proc.bind_of_stuck (Proc.attempt_of_stuck hhandle)
  refine (Proc.bind_of_ok hgate).trans ?_
  rw [if_neg (by simpa using htype)]
  simp only [hterm, hfragment]
  exact hfrag

/-- Up to its queues, a message touches no more than plugin cells. -/
theorem RpcResult.cellsOnly {message : Message} {w w' : World} {entity : EntityPlugin}
    {result : DispatchResult} (h : RpcResult env message w entity result w') :
    CellsOnly (counted w) w' := by
  obtain @⟨w1, _, term, fragment, _, _, hgate, htype, hterm, hfragment, hentity, hdispatched⟩ := h
  obtain ⟨hauth, hdispatch, hpersist⟩ := hdispatched
  have h1 := ((calm_rpcGate rfl message _).of_run hgate).2.cellsOnly
  have h2 := ((calm_authorizeEntity rfl rfl message term entity).of_run hauth).2
  have h3 := ((calm_dispatch entity _).of_run hdispatch).2
  have h4 := ((calm_persistPending entity _).of_run hpersist).2
  exact trans_of CellsOnly h1 (trans_of CellsOnly h2 (trans_of CellsOnly h3 h4))

/-- **Any other message touches no more than plugin cells.** -/
theorem rpcTurn_cases (env : Env) (message : Message) (w : World) :
    (∃ entity result w', RpcResult env message w entity result w') ∨
      (rpcTurn env message [] w).1 ≠ .stuck ∧
        CellsOnly (counted w) (rpcTurn env message [] w).2 := by
  suffices h : (handleRpcMessage env message w.rt.rootAcl).Sat rpcGuards (counted w) fun o w' =>
      (∃ entity result w2, RpcResult env message w entity result w2) ∨
        o ≠ .stuck ∧ CellsOnly (counted w) w' from h
  have reply {w1 : World} (h1 : CellsOnly (counted w) w1) (body : ReplyBody) :
      (sendRpcReply env message body).Sat rpcGuards w1 fun o w' =>
        (∃ entity result w2, RpcResult env message w entity result w2) ∨
          o ≠ .stuck ∧ CellsOnly (counted w) w' :=
    (calm_sendRpcReply message body).sat fun _ _ ho h2 =>
      .inr ⟨ho, trans_of CellsOnly h1 h2.cellsOnly⟩
  refine (calm_rpcGate rfl message _).sat_bind (fun e w1 h1 => .inr ⟨by simp, h1.cellsOnly⟩)
    fun _ w1 hgate h1 => ?_
  have h1 := h1.cellsOnly
  split
  · exact .inr ⟨by simp, h1⟩
  · rename_i htype
    cases hterm : env.codec.decode message.payload with
    | none => exact .inr ⟨by simp, h1⟩
    | some term =>
      cases hfragment : Text.stripPrefix message.to (env.ourDid ++ "#") with
      | none =>
        dsimp only
        split
        · split
          · exact reply h1 _
          · exact reply h1 _
        · exact reply h1 _
      | some fragment =>
        refine Proc.sat_bind_of_ok (a := w1.rt.entityRegistry[fragment]?) (t := w1) rfl ?_
        cases hentity : w1.rt.entityRegistry[fragment]? with
        | none => exact reply h1 _
        | some entity =>
          have failed {e : Error} {w2 : World} (h2 : CellsOnly w1 w2)
              (hrun : handleEntityPluginMessage env message term entity rpcGuards w1 =
                (.err e, w2)) :
              (do
                match ← (handleEntityPluginMessage env message term entity).attempt with
                | .ok () => pure ()
                | .error e => sendRpcReply env message (.error e.display) : M Unit).Sat
                rpcGuards w1 fun o w' =>
                  (∃ entity result w2, RpcResult env message w entity result w2) ∨
                    o ≠ .stuck ∧ CellsOnly (counted w) w' := by
            refine Proc.sat_bind_of_ok (Proc.attempt_of_err hrun) ?_
            exact reply (trans_of CellsOnly h1 h2) _
          rcases hauth : authorizeEntity env message term entity rpcGuards w1 with ⟨o2, w2⟩
          have k2 := (calm_authorizeEntity rfl rfl message term entity).of_run hauth
          cases o2 with
          | stuck => exact absurd rfl k2.1
          | err e => exact failed k2.2 (Proc.bind_of_err hauth)
          | ok u =>
            rcases hdispatch : dispatch env entity { msg := localMessage env message term }
              rpcGuards w2 with ⟨o3, w3⟩
            have k3 := (calm_dispatch entity _).of_run hdispatch
            have k13 := trans_of CellsOnly k2.2 k3.2
            cases o3 with
            | stuck => exact absurd rfl k3.1
            | err e =>
              exact failed k13 ((Proc.bind_of_ok hauth).trans (Proc.bind_of_err hdispatch))
            | ok result =>
              rcases hpersist : persistPending env entity result.pendingState rpcGuards w3
                with ⟨o4, w4⟩
              have k4 := (calm_persistPending entity _).of_run hpersist
              cases o4 with
              | stuck => exact absurd rfl k4.1
              | err e =>
                exact failed (trans_of CellsOnly k13 k4.2) ((Proc.bind_of_ok hauth).trans
                  ((Proc.bind_of_ok hdispatch).trans (Proc.bind_of_err hpersist)))
              | ok u =>
                exact .inl ⟨entity, result, w4, .intro hgate (by simpa using htype) hterm hfragment
                  hentity (.intro hauth hdispatch hpersist)⟩

end Stages

/-! ## What the requests can do -/

section Requests

variable {env : Env} {entity : EntityPlugin} {g : Lib.Guards Lock}

/-- A state that cannot be stored is only logged. -/
theorem persistPending_run (entity : EntityPlugin) (pending : Option Bytes) (w : World) :
    ∃ w1, persistPending env entity pending g w = (.ok (), w1) ∧ CellsOnly w w1 := by
  have htotal : Proc.Total g (persistPending env entity pending) := by
    unfold persistPending
    split
    · exact Proc.total_pure _
    · refine (calm_dagPut _ _).frees.total_attempt.bind fun r => ?_
      split
      · unfold markSaved
        split
        · exact Proc.total_pure _
        · exact Proc.total_update _
      · exact Proc.total_pure _
  obtain ⟨_, w1, hrun⟩ := htotal w
  exact ⟨w1, hrun, ((calm_persistPending entity pending).of_run hrun).2⟩

/-- Requests for unknown kinds are skipped. -/
theorem createRequests_unknown (hg : g.excludes .kindRegistry .read = false) {w : World}
    (h : ∀ protocol : String, w.rt.kindRegistry[protocol]? = none) :
    ∀ reqs : List CreateEntityRequest,
      Proc.each reqs (createRequested env entity) g w = (.ok (), w)
  | [] => rfl
  | req :: reqs =>
    (Proc.bind_of_ok (createRequested_unknown hg (h req.kindProtocol))).trans
      (createRequests_unknown hg h reqs)

theorem afterDelete_not_mem {registry : StrMap EntityPlugin} {name target : String}
    (h : name ∉ registry) : name ∉ afterDelete entity registry target := by
  unfold afterDelete
  split
  · exact fun hmem => h (mem_erase_iff.mp hmem).2
  · exact h

/-- Deletions bring no entity back. -/
theorem foldl_afterDelete_not_mem {name : String} :
    ∀ (targets : List String) {registry : StrMap EntityPlugin}, name ∉ registry →
      name ∉ targets.foldl (afterDelete entity) registry
  | [], _, h => h
  | _ :: targets, _, h => foldl_afterDelete_not_mem targets (afterDelete_not_mem h)

/-- Every registered entity stays registered. -/
def Grows (w w' : World) : Prop :=
  ∀ name, name ∈ w.rt.entityRegistry → name ∈ w'.rt.entityRegistry

instance : IsPreorder World Grows where
  refl _ _ h := h
  trans _ _ _ h h' name hname := h' name (h name hname)

theorem CellsOnly.grows {w w' : World} (h : CellsOnly w w') : Grows w w' := fun name hname => by
  rw [h.entityRegistry]
  exact hname

/-- Creations take no entity away. -/
theorem keeps_createRequested_grows (req : CreateEntityRequest) :
    Proc.Keeps Grows (createRequested env entity req) := by
  have idle {α : Type} {p : M α} (h : Proc.Keeps Idle p) : Proc.Keeps Grows p :=
    h.mono fun _ _ h => h.cellsOnly.grows
  unfold createRequested
  refine (Proc.Keeps.holding (Proc.keeps_look _) _ _).bind fun o => ?_
  split
  · exact Proc.keeps_pure _
  · refine ((@calm_load [] env req.fragment _ _).keeps.mono fun _ _ h => h.grows).attempt.bind
      fun r => ?_
    split
    · have hinsert (ep : EntityPlugin) : Proc.Keeps Grows (writing .entityRegistry (modifyRt
          fun rt => { rt with entityRegistry := rt.entityRegistry.insert req.fragment ep })) := by
        refine Proc.Keeps.holding ?_ _ _
        exact fun _ _ _ hname => Std.ExtTreeMap.mem_insert.mpr (.inr hname)
      exact (hinsert _).bind fun _ => idle (keeps_recordNewEntity _ _)
    · exact idle (@calm_modifyIo [] _).keeps
    · exact Proc.keeps_pure _
    · exact Proc.keeps_pure _

/-- Without a manifest a new entity is recorded nowhere. -/
theorem recordNewEntity_rootless (hs : g.excludes .stats .read = false) {fragment : String}
    {node : EntityNode} {w : World} (hroot : w.rt.stats.rootCid = none) :
    recordNewEntity env fragment node g w = (.ok (), w) := by
  unfold recordNewEntity reading
  rw [Proc.holding_run hs, Proc.bind_of_ok (a := w.rt.stats.rootCid) (t := w) rfl, hroot]
  rfl

/-- A creation whose plugin loads is registered. -/
theorem createRequested_loaded (hg : g.excludes .kindRegistry .read = false)
    (hr : g.excludes .entityRegistry .write = false) (hs : g.excludes .stats .read = false)
    {req : CreateEntityRequest} {kindNode : KindNode} {ep : EntityPlugin} {w w1 : World}
    (hkind : w.rt.kindRegistry[req.kindProtocol]? = some kindNode)
    (hload : load env req.fragment (requestedNode entity req) kindNode g w =
      (.ok (ep, .running), w1))
    (hroot : w1.rt.stats.rootCid = none) :
    createRequested env entity req g w = (.ok (), { w1 with rt := { w1.rt with
      entityRegistry := w1.rt.entityRegistry.insert req.fragment ep } }) := by
  have hlook : reading .kindRegistry (getRt fun rt => rt.kindRegistry[req.kindProtocol]?) g w =
      (.ok (some kindNode), w) :=
    (Proc.holding_run hg _ _).trans (congrArg (fun o => (Lib.Outcome.ok o, w)) hkind)
  unfold createRequested
  refine (Proc.bind_of_ok hlook).trans ((Proc.bind_of_ok (Proc.attempt_of_ok hload)).trans ?_)
  refine (Proc.bind_of_ok (Proc.holding_run hr _ _)).trans ?_
  exact recordNewEntity_rootless hs hroot

end Requests

end MaRuntime
