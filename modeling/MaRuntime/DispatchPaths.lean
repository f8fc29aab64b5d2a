import MaRuntime.Mediation
import MaRuntime.EntitySync

/-!
# What the dispatch paths do with a result

An export is called from three places: for an RPC message (`handle_entity_plugin_message`), for a
scheduled job (`dispatch_scheduled` of `src/schedule.rs`), and to ask a set actor for the members
of a group (`query_actor_group` of `src/acl.rs`). The call drains the queues of the plugin, and each
place has its own code for what was drained.

* `DispatchPath.finish`: the first takes up the state, the creations and the deletions, the second
  the state, the third nothing. A path that is handed a result ends so (`Invokes.finish`).
* **`paths_agree_iff`**: whatever the plugin and the state, the paths have the same effects, iff the
  result carries no state and no request.
-/

namespace MaRuntime

open Lib (Cbor Proc)

/-! ## Scheduled dispatch -/

/-- The message of a scheduled job. -/
def scheduledMessage (env : Env) (nowNanos : UInt64) (id fragment : String) (content : Bytes) :
    LocalMessage :=
  let ourDid := env.ourDid
  { id, «from» := s!"{ourDid}#scheduler", «to» := s!"{ourDid}#{fragment}", createdAt := nowNanos
    expires := 0, replyTo := none, contentType := env.contentTypeTerm, content }

/-- `dispatch_scheduled`, at `nowNanos`; the id is a hash of the time and the fragment. A failed
dispatch is only logged. -/
def dispatchScheduled (env : Env) (nowNanos : UInt64) (id fragment : String) (content : Bytes) :
    M Unit := do
  match ← reading .entityRegistry (getRt fun rt => rt.entityRegistry[fragment]?) with
  | none => pure ()
  | some plugin => do
    match ← (dispatch env plugin
      { msg := scheduledMessage env nowNanos id fragment content }).attempt with
    | .ok result => persistPending env plugin result.pendingState
    | .error _ => pure ()

/-! ## The paths -/

/-- Where an export is called from. -/
inductive DispatchPath where
  | rpc
  | scheduled
  | group
  deriving DecidableEq, Repr

/-- The path calls an export of the entity, which returns the result. The last state is the one in
which the path ends. -/
inductive Invokes (env : Env) (entity : EntityPlugin) (w : World) (result : DispatchResult) :
    DispatchPath → World → Prop
  | rpc {message : Message} {term : Cbor} {fragment : String} {w1 w2 : World}
      (hfragment : Text.stripPrefix message.to (env.ourDid ++ "#") = some fragment)
      (hentity : w.rt.entityRegistry[fragment]? = some entity)
      (hauth : authorizeEntity env message term entity rpcGuards w = (.ok (), w1))
      (hdispatch : dispatch env entity { msg := localMessage env message term } rpcGuards w1 =
        (.ok result, w2)) :
      Invokes env entity w result .rpc
        (handleEntityPluginMessage env message term entity rpcGuards w).2
  | scheduled {nowNanos : UInt64} {id fragment : String} {content : Bytes} {w1 : World}
      (hentity : w.rt.entityRegistry[fragment]? = some entity)
      (hdispatch : dispatch env entity
        { msg := scheduledMessage env nowNanos id fragment content } [] w = (.ok result, w1)) :
      Invokes env entity w result .scheduled
        (dispatchScheduled env nowNanos id fragment content [] w).2
  | group {groupRef fragment caller : String} {w1 : World}
      (hfragment : Text.stripPrefix groupRef "+#" = some fragment)
      (hentity : w.rt.entityRegistry[fragment]? = some entity)
      (hcall : handleCall env entity { msg := containsMessage env fragment caller w.io.calls }
        rpcGuards { w with io := { w.io with calls := w.io.calls + 1 } } = (.ok result, w1)) :
      Invokes env entity w result .group (queryActorGroup env groupRef caller rpcGuards w).2

/-- What a path makes of a result it was handed. -/
def DispatchPath.finish (env : Env) (entity : EntityPlugin) (result : DispatchResult) :
    DispatchPath → World → World
  | .rpc, w => (processResult env entity result rpcGuards w).2
  | .scheduled, w => (persistPending env entity result.pendingState [] w).2
  | .group, w => w

section Paths

variable {env : Env} {entity : EntityPlugin} {result : DispatchResult}

theorem handleEntityPluginMessage_run {message : Message} {term : Cbor} {w w1 w2 : World}
    (hauth : authorizeEntity env message term entity rpcGuards w = (.ok (), w1))
    (hdispatch : dispatch env entity { msg := localMessage env message term } rpcGuards w1 =
      (.ok result, w2)) :
    handleEntityPluginMessage env message term entity rpcGuards w =
      processResult env entity result rpcGuards w2 :=
  (Proc.bind_of_ok hauth).trans (Proc.bind_of_ok hdispatch)

/-- The creations and deletions of a scheduled job's result are not looked at. -/
theorem dispatchScheduled_run {nowNanos : UInt64} {id fragment : String} {content : Bytes}
    {w w1 : World} (hentity : w.rt.entityRegistry[fragment]? = some entity)
    (hdispatch : dispatch env entity
      { msg := scheduledMessage env nowNanos id fragment content } [] w = (.ok result, w1)) :
    dispatchScheduled env nowNanos id fragment content [] w =
      persistPending env entity result.pendingState [] w1 := by
  have hlook : reading .entityRegistry (getRt fun rt => rt.entityRegistry[fragment]?) [] w =
      (.ok (some entity), w) := congrArg (fun o => (Lib.Outcome.ok o, w)) hentity
  exact (Proc.bind_of_ok hlook).trans (Proc.bind_of_ok (Proc.attempt_of_ok hdispatch))

/-- Only the output of a group query's result is looked at. -/
theorem queryActorGroup_result {groupRef fragment caller : String} {w w1 : World}
    (hfragment : Text.stripPrefix groupRef "+#" = some fragment)
    (hentity : w.rt.entityRegistry[fragment]? = some entity)
    (hcall : handleCall env entity { msg := containsMessage env fragment caller w.io.calls }
      rpcGuards { w with io := { w.io with calls := w.io.calls + 1 } } = (.ok result, w1)) :
    queryActorGroup env groupRef caller rpcGuards w =
      (.ok (if containedIn env.codec result.output then [caller] else []), w1) := by
  rw [queryActorGroup_run rfl hfragment hentity]
  exact Proc.bind_of_ok hcall

/-- **A path ends as its own code for the result does**; up to there it moved no snapshot. -/
theorem Invokes.finish {p : DispatchPath} {w w' : World} (h : Invokes env entity w result p w') :
    ∃ w1, SnapshotsKept w w1 ∧ w' = p.finish env entity result w1 := by
  cases h with
  | @rpc message term fragment w1 w2 hfragment hentity hauth hdispatch =>
    have h1 := ((calm_authorizeEntity_snapshots message term entity).of_run hauth).2
    have h2 := ((calm_dispatch_snapshots entity _).of_run hdispatch).2
    exact ⟨w2, trans_of SnapshotsKept h1 h2,
      congrArg Prod.snd (handleEntityPluginMessage_run hauth hdispatch)⟩
  | @scheduled nowNanos id fragment content w1 hentity hdispatch =>
    have h1 := ((calm_dispatch_snapshots entity _).of_run hdispatch).2
    exact ⟨w1, h1, congrArg Prod.snd (dispatchScheduled_run hentity hdispatch)⟩
  | @group groupRef fragment caller w1 hfragment hentity hcall =>
    have h1 := ((calm_handleCall_snapshots entity _).of_run hcall).2
    exact ⟨w1, h1, congrArg Prod.snd (queryActorGroup_result hfragment hentity hcall)⟩

end Paths

/-! ## The effects -/

/-- The persisted snapshot of an entity's state. -/
def EntityPlugin.snapshot (entity : EntityPlugin) (rt : Runtime) : Option Bytes :=
  match entity.backend with
  | .native => none
  | .extism i => (rt.cells i).state.persisted

/-- The same registry, the same manifest at the root, and the same snapshot of the entity. -/
structure SameEffects (env : Env) (entity : EntityPlugin) (w w' : World) : Prop where
  registry : w'.rt.entityRegistry = w.rt.entityRegistry
  manifest : ∀ m, AtRoot env w'.rt m ↔ AtRoot env w.rt m
  snapshot : entity.snapshot w'.rt = entity.snapshot w.rt

/-- **Whatever the plugin, the state and the message**, any two paths that are handed the result
have the same effects. -/
def PathsAgree (result : DispatchResult) : Prop :=
  ∀ (env : Env) (entity : EntityPlugin) (w wp wq : World) (p q : DispatchPath),
    Invokes env entity w result p wp → Invokes env entity w result q wq →
      SameEffects env entity wp wq

section Effects

variable {env : Env} {entity : EntityPlugin} {result : DispatchResult}

theorem SnapshotsKept.sameEffects {w w' : World} (h : SnapshotsKept w w') :
    SameEffects env entity w w' := by
  refine ⟨h.1.entityRegistry, fun m => atRoot_congr (by rw [h.1.stats]), ?_⟩
  unfold EntityPlugin.snapshot
  split
  · rfl
  · exact h.2 _

theorem SameEffects.symm {w w' : World} (h : SameEffects env entity w w') :
    SameEffects env entity w' w :=
  ⟨h.registry.symm, fun m => (h.manifest m).symm, h.snapshot.symm⟩

theorem SameEffects.trans {w w' w'' : World} (h : SameEffects env entity w w')
    (h' : SameEffects env entity w' w'') : SameEffects env entity w w'' :=
  ⟨h'.registry.trans h.registry, fun m => (h'.manifest m).trans (h.manifest m),
    h'.snapshot.trans h.snapshot⟩

/-- A result that carries nothing is finished by doing nothing. -/
theorem DispatchPath.finish_nothing (p : DispatchPath) {w : World}
    (hpending : result.pendingState = none) (hcreates : result.createRequests = [])
    (hdeletes : result.deleteRequests = []) : p.finish env entity result w = w := by
  cases p with
  | rpc =>
    unfold DispatchPath.finish processResult
    rw [hpending, hcreates, hdeletes]
    rfl
  | scheduled =>
    unfold DispatchPath.finish
    rw [hpending]
    rfl
  | group => rfl

end Effects

/-! ## A plugin that hands over a given result -/

/-- An ACL that admits everyone. -/
def openAcl : AclMap := (∅ : AclMap).insert "*" (.fromCaps ["*"])

/-- The plugin with everything that it queues still in its cell. -/
def fullCell (result : DispatchResult) : PluginCell :=
  { emptyCell with
    state := { pending := result.pendingState, persisted := none, dirty := true }
    createQueue := result.createRequests, deleteQueue := result.deleteRequests }

/-- The plugin after it was drained. -/
def drainedCell : PluginCell :=
  { emptyCell with state := { pending := none, persisted := none, dirty := true } }

/-- The entity of that plugin. -/
def courier (fragment : String) : EntityPlugin :=
  { fragment, kind := .stateful, acl := "open", parent := none, backend := .extism 0 }

/-- Every export returns the output of the result. -/
def courierEnv (t : Tables) (result : DispatchResult) : Env :=
  { t.live with guest := fun _ _ _ _ => .done (.ok result.output, []) }

/-- The daemon with that entity alone, without a manifest, after some calls. -/
def courierWorld (fragment : String) (kinds : StrMap KindNode) (cell : PluginCell) (calls : Nat) :
    World where
  rt :=
    { stats := {}
      rootAcl := ∅
      aclCache := (∅ : StrMap AclMap).insert "acls.open" openAcl
      entityRegistry := (∅ : StrMap EntityPlugin).insert fragment (courier fragment)
      kindRegistry := kinds
      sharedConfig := plainConfig
      files := ∅
      cells := Function.update (fun _ => emptyCell) 0 cell
      nextCell := 1 }
  io := { calls := calls }

/-- The owner casts to the entity. -/
def castTo (fragment : String) : Message where
  id := "m1"
  «from» := "did:ma:alice"
  «to» := "did:ma:runtime#" ++ fragment
  messageType := "application/x-ma-rpc"
  contentType := "application/cbor"
  createdAt := 0
  exp := 0
  replyTo := none
  payload := Lib.rfcCodec.encode (.text ":go")

section Courier

variable {t : Tables} {result : DispatchResult} {fragment : String} {kinds : StrMap KindNode}

theorem courierWorld_registry (cell : PluginCell) (calls : Nat) :
    (courierWorld fragment kinds cell calls).rt.entityRegistry[fragment]? =
      some (courier fragment) :=
  Std.ExtTreeMap.getElem?_insert_self

/-- The plugin hands over exactly the result. -/
theorem courier_handleCall (g : Lib.Guards Lock) (input : CastInput) (calls : Nat) :
    handleCall (courierEnv t result) (courier fragment) input g
        (courierWorld fragment kinds (fullCell result) calls) =
      (.ok result, courierWorld fragment kinds drainedCell (calls + 1)) := by
  have hcall := @callExport_run g (courierEnv t result) (courier fragment) 0 "handle_call"
    ((courierEnv t result).codec.encode input.toCbor)
    (courierWorld fragment kinds (fullCell result) calls) (.ok result.output) (fullCell result)
    { calls := calls + 1 } rfl
  refine (Proc.bind_of_ok hcall).trans ?_
  refine (Proc.bind_of_ok rfl).trans ((Proc.bind_of_ok rfl).trans ((Proc.bind_of_ok rfl).trans ?_))
  simp only [courierWorld, Function.update_idem, Function.update_self]
  rfl

theorem courier_authorized (cell : PluginCell) (calls : Nat) (term : Cbor) :
    authorizeEntity (courierEnv t result) (castTo fragment) term (courier fragment) rpcGuards
        (courierWorld fragment kinds cell calls) =
      (.ok (), courierWorld fragment kinds cell calls) := by
  have hlook : reading .aclCache (getRt fun rt => rt.aclCache[s!"acls.{(courier fragment).acl}"]?)
      rpcGuards (courierWorld fragment kinds cell calls) =
        (.ok (some openAcl), courierWorld fragment kinds cell calls) :=
    congrArg (fun o => (Lib.Outcome.ok o, _))
      (Std.ExtTreeMap.getElem?_insert_self (k := "acls.open"))
  have hcheck (resolve : String → M (Except Error (List String))) (verb : String) :
      checkFull tableCore "did:ma:alice" resolve openAcl [verb, "*"] = pure (.ok ()) := by
    have hcap : [verb, "*"].any (tableCore.checkCap openAcl "did:ma:alice") = true := by
      rw [List.any_cons, List.any_cons, show tableCore.checkCap openAcl "did:ma:alice" "*" = true by
        decide +kernel, Bool.true_or, Bool.or_true]
    unfold checkFull
    rw [if_neg (by decide +kernel), if_neg (by decide +kernel), if_pos hcap]
  have hcaller : callerDid (courierEnv t result) "did:ma:alice" = "did:ma:alice" := by
    unfold callerDid
    rw [show Text.stripPrefix "did:ma:alice" ((courierEnv t result).ourDid ++ "#") = none by
      show Text.stripPrefix "did:ma:alice" "did:ma:runtime#" = none; decide +kernel]
  unfold authorizeEntity
  have hacl : (courier fragment).acl ≠ "" := by
    show "open" ≠ ""
    decide
  rw [if_neg hacl]
  refine (Proc.bind_of_ok hlook).trans (withContext_of_ok ?_)
  show (do Proc.ofExcept (← checkFull tableCore
    (callerDid (courierEnv t result) "did:ma:alice") _ openAcl _) : M Unit) _ _ = _
  rw [hcaller, hcheck]
  rfl

/-- What agreement of the paths says of the entity: an RPC message leaves what a group query
does. -/
theorem courier_effects (h : PathsAgree result) (t : Tables) (fragment : String)
    (kinds : StrMap KindNode) :
    SameEffects (courierEnv t result) (courier fragment)
      (processResult (courierEnv t result) (courier fragment) result rpcGuards
        (courierWorld fragment kinds drainedCell 1)).2
      (courierWorld fragment kinds drainedCell 2) := by
  have hentity := @courierWorld_registry fragment kinds (fullCell result) 0
  have hauth := @courier_authorized t result fragment kinds (fullCell result) 0 (.text ":go")
  have hdispatch := @courier_handleCall t result fragment kinds rpcGuards
    { msg := localMessage (courierEnv t result) (castTo fragment) (.text ":go") } 0
  have hcall := @courier_handleCall t result fragment kinds rpcGuards
    { msg := containsMessage (courierEnv t result) fragment "did:ma:alice" 0 } 1
  have hto : Text.stripPrefix (castTo fragment).to ((courierEnv t result).ourDid ++ "#") =
      some fragment := Text.stripPrefix_append "did:ma:runtime#" fragment
  have hgroupRef : Text.stripPrefix ("+#" ++ fragment) "+#" = some fragment :=
    Text.stripPrefix_append _ _
  have hrpc := Invokes.rpc hto hentity hauth hdispatch
  have hgroup := Invokes.group hgroupRef hentity hcall
  have hsame := h _ _ _ _ _ _ _ hrpc hgroup
  rw [handleEntityPluginMessage_run hauth hdispatch,
    queryActorGroup_result hgroupRef hentity hcall] at hsame
  exact hsame

/-- **A deletion request is dropped** by the paths that do not look at it. -/
theorem PathsAgree.no_deletes (h : PathsAgree result) : result.deleteRequests = [] := by
  cases hdeletes : result.deleteRequests with
  | nil => rfl
  | cons target rest =>
    exfalso
    have hregistry := (courier_effects h {} target ∅).registry
    obtain ⟨w1, hpersist, h1⟩ := @persistPending_run (courierEnv {} result) rpcGuards
      (courier target) result.pendingState (courierWorld target ∅ drainedCell 1)
    have hknown (protocol : String) : w1.rt.kindRegistry[protocol]? = none := by
      rw [show w1.rt = _ from h1]
      exact Std.ExtTreeMap.getElem?_empty
    have hrun : processResult (courierEnv {} result) (courier target) result rpcGuards
        (courierWorld target ∅ drainedCell 1) =
          Proc.each result.deleteRequests (deleteRequested (courier target)) rpcGuards w1 :=
      (Proc.bind_of_ok hpersist).trans
        (Proc.bind_of_ok (createRequests_unknown rfl hknown result.createRequests))
    have hmay : mayDelete (courier target)
        ((∅ : StrMap EntityPlugin).insert target (courier target)) target = true := by
      have hchildless : ((∅ : StrMap EntityPlugin).insert target (courier target)).values.any
          (fun ep => ep.parent = some target) = false := rfl
      unfold mayDelete
      rw [Std.ExtTreeMap.getElem?_insert_self, hchildless]
      simp [courier]
    have hgone : target ∉ (target :: rest).foldl (afterDelete (courier target))
        ((∅ : StrMap EntityPlugin).insert target (courier target)) := by
      refine foldl_afterDelete_not_mem rest ?_
      unfold afterDelete
      rw [if_pos hmay]
      simp
    rw [hrun, deleteRequests_run, hdeletes, h1.entityRegistry] at hregistry
    have hsame : (∅ : StrMap EntityPlugin).insert target (courier target) =
        (target :: rest).foldl (afterDelete (courier target))
          ((∅ : StrMap EntityPlugin).insert target (courier target)) := hregistry
    rw [← hsame] at hgone
    exact hgone Std.ExtTreeMap.mem_insert_self

/-- A kind without an `init`. -/
def plainKind : KindNode := { protocol := "", api := [], hostFunctions := [] }

/-- A module that Kubo holds is loaded. -/
theorem courier_load {behaviourCid : Cid} {node : EntityNode}
    (hbehaviour : node.behaviour = some ⟨behaviourCid⟩) (hstate : node.state = none)
    (g : Lib.Guards Lock) (w : World) :
    ∃ ep w1, load (courierEnv { blobs := [(behaviourCid, [])] } result) fragment node
      plainKind g w =
      (.ok (ep, .running), w1) := by
  have hget : (courierEnv { blobs := [(behaviourCid, [])] } result).kubo.blobs.get w.io.calls
      behaviourCid = .ok [] := Lib.ContentStore.ofList_get (by simp) _
  unfold load
  rw [if_neg (by decide), if_neg (by decide), hbehaviour]
  show ∃ ep w1, loadExtism _ fragment node plainKind behaviourCid g w = (.ok (ep, .running), w1)
  unfold loadExtism initState
  rw [hstate]
  have hfetch : withContext s!"fetching wasm for '{fragment}' from {behaviourCid}"
      (dagGet (courierEnv { blobs := [(behaviourCid, [])] } result).kubo.blobs behaviourCid) g w =
        (.ok [], { w with io := { w.io with calls := w.io.calls + 1 } }) :=
    withContext_of_ok (dagGet_of_get hget)
  let cell : PluginCell := { emptyCell with fragment := fragment }
  refine ⟨{ fragment, kind := plainKind.pluginKind, acl := node.acl, parent := node.parent
            backend := .extism w.rt.nextCell },
    { rt := { w.rt with
        cells := Function.update w.rt.cells w.rt.nextCell cell, nextCell := w.rt.nextCell + 1 }
      io := { w.io with calls := w.io.calls + 1 + 1 } }, (Proc.bind_of_ok hfetch).trans ?_⟩
  exact (Proc.bind_of_ok rfl).trans ((Proc.bind_of_ok rfl).trans ((Proc.bind_of_ok rfl).trans
    ((Proc.bind_of_ok rfl).trans ((Proc.bind_of_ok rfl).trans rfl))))

/-- **A creation request is dropped** by the paths that do not look at it. -/
theorem PathsAgree.no_creates (h : PathsAgree result) : result.createRequests = [] := by
  cases hcreates : result.createRequests with
  | nil => rfl
  | cons req rest =>
    exfalso
    let t : Tables := { blobs := [(req.behaviourCid, [])] }
    let fragment := req.fragment ++ "#"
    let kinds := (∅ : StrMap KindNode).insert req.kindProtocol plainKind
    have hregistry := (courier_effects h t fragment kinds).registry
    obtain ⟨w1, hpersist, h1⟩ := @persistPending_run (courierEnv t result) rpcGuards
      (courier fragment) result.pendingState (courierWorld fragment kinds drainedCell 1)
    have hkind : w1.rt.kindRegistry[req.kindProtocol]? = some plainKind := by
      rw [show w1.rt = _ from h1]
      exact Std.ExtTreeMap.getElem?_insert_self
    obtain ⟨ep, w2, hload⟩ := @courier_load result req.fragment req.behaviourCid
      (requestedNode (courier fragment) req) rfl rfl rpcGuards w1
    have h2 := ((calm_load (courierEnv t result) _ _ _).of_run hload).2
    have hroot : w2.rt.stats.rootCid = none := by
      rw [h2.stats, h1.stats]
      rfl
    have hcreate := createRequested_loaded rfl rfl rfl hkind hload hroot
    have hrun : processResult (courierEnv t result) (courier fragment) result rpcGuards
        (courierWorld fragment kinds drainedCell 1) =
          (do
            Proc.each rest (createRequested (courierEnv t result) (courier fragment))
            Proc.each result.deleteRequests (deleteRequested (courier fragment)) : M Unit)
            rpcGuards { w2 with rt := { w2.rt with
              entityRegistry := w2.rt.entityRegistry.insert req.fragment ep } } := by
      refine (Proc.bind_of_ok hpersist).trans ?_
      rw [hcreates]
      show ((createRequested _ _ req >>= fun _ => Proc.each rest _) >>= _) rpcGuards w1 = _
      rw [Proc.bind_assoc]
      exact Proc.bind_of_ok hcreate
    have hgrows : Proc.Keeps Grows (do
        Proc.each rest (createRequested (courierEnv t result) (courier fragment))
        Proc.each result.deleteRequests (deleteRequested (courier fragment)) : M Unit) := by
      refine (Proc.Keeps.each keeps_createRequested_grows rest).bind fun _ => ?_
      rw [h.no_deletes]
      exact Proc.keeps_pure ()
    have hnew : req.fragment ∈ (courierWorld fragment kinds drainedCell 2).rt.entityRegistry := by
      rw [hregistry, hrun]
      exact hgrows _ _ req.fragment Std.ExtTreeMap.mem_insert_self
    rcases mem_insert_iff.mp hnew with hsame | hempty
    · have hlength := congrArg String.length hsame
      simp [fragment] at hlength
    · exact Std.ExtTreeMap.not_mem_empty hempty

/-- **A state is dropped** by the path that does not look at it. -/
theorem PathsAgree.no_pending (h : PathsAgree result) : result.pendingState = none := by
  cases hpending : result.pendingState with
  | none => rfl
  | some bytes =>
    exfalso
    have hsnapshot := (courier_effects h { blobs := [("bafystate", bytes)] } "notes" ∅).snapshot
    have hsaved : persistPending (courierEnv { blobs := [("bafystate", bytes)] } result)
        (courier "notes") (some bytes) rpcGuards (courierWorld "notes" ∅ drainedCell 1) =
          (.ok (), courierWorld "notes" ∅
            { drainedCell with state := drainedCell.state.markSaved bytes } 2) := by
      have hput := dagPut_of_put (g := rpcGuards) (w := courierWorld "notes" ∅ drainedCell 1)
        (Lib.ContentStore.ofList_put_singleton "bafystate" bytes ["not found"] _)
      refine (Proc.bind_of_ok (Proc.attempt_of_ok hput)).trans ?_
      show modifyCell 0 (fun cell => { cell with state := cell.state.markSaved bytes }) rpcGuards
        (courierWorld "notes" ∅ drainedCell 2) = _
      unfold modifyCell modifyRt
      simp only [Proc.update_run, courierWorld, Function.update_idem, Function.update_self]
    have hrun : processResult (courierEnv { blobs := [("bafystate", bytes)] } result)
        (courier "notes") result rpcGuards (courierWorld "notes" ∅ drainedCell 1) =
          (.ok (), courierWorld "notes" ∅
            { drainedCell with state := drainedCell.state.markSaved bytes } 2) := by
      unfold processResult
      rw [hpending, h.no_creates, h.no_deletes]
      exact (Proc.bind_of_ok hsaved).trans rfl
    rw [hrun] at hsnapshot
    exact absurd (show (none : Option Bytes) = some bytes from hsnapshot) (by simp)

end Courier

/-- **The paths agree about a result iff it carries no state and no request.** -/
theorem paths_agree_iff (result : DispatchResult) :
    PathsAgree result ↔
      result.pendingState = none ∧ result.createRequests = [] ∧ result.deleteRequests = [] := by
  refine ⟨fun h => ⟨h.no_pending, h.no_creates, h.no_deletes⟩, ?_⟩
  rintro ⟨hpending, hcreates, hdeletes⟩ env entity w wp wq p q hp hq
  obtain ⟨w1, h1, rfl⟩ := hp.finish
  obtain ⟨w2, h2, rfl⟩ := hq.finish
  rw [p.finish_nothing hpending hcreates hdeletes, q.finish_nothing hpending hcreates hdeletes]
  exact h1.sameEffects.symm.trans h2.sameEffects

/-! ## A deletion -/

/-- The entity that asks for its own deletion. -/
def leafPlugin : EntityPlugin :=
  { fragment := "leaf", kind := .stateless, acl := "open", parent := none, backend := .extism 0 }

/-- What its exports hand over. -/
def leafResult : DispatchResult :=
  { output := [], pendingState := none, createRequests := [], deleteRequests := ["leaf"] }

set_option maxRecDepth 100000 in
/-- **The same request, three fates**: asked for in an RPC message the deletion is carried out,
asked for in a scheduled job or a group query it is dropped. -/
theorem leaf_deletion_dropped :
    ∃ wr ws wg, Invokes leafEnv leafPlugin leafStart leafResult .rpc wr ∧
      Invokes leafEnv leafPlugin leafStart leafResult .scheduled ws ∧
      Invokes leafEnv leafPlugin leafStart leafResult .group wg ∧
      "leaf" ∉ wr.rt.entityRegistry ∧ "leaf" ∈ ws.rt.entityRegistry ∧
      "leaf" ∈ wg.rt.entityRegistry ∧ ¬ PathsAgree leafResult := by
  have hentity : leafStart.rt.entityRegistry["leaf"]? = some leafPlugin := by decide +kernel
  have hauth := Proc.run_of_outcome
      (p := authorizeEntity leafEnv dropLeaf (.text ":drop") leafPlugin)
    (g := rpcGuards) (s := leafStart) (o := .ok ()) (by decide +kernel)
  have hdispatch := Proc.run_of_outcome (p := dispatch leafEnv leafPlugin
    { msg := localMessage leafEnv dropLeaf (.text ":drop") }) (g := rpcGuards)
    (s := (authorizeEntity leafEnv dropLeaf (.text ":drop") leafPlugin rpcGuards leafStart).2)
    (o := .ok leafResult) (by decide +kernel)
  have hjob := Proc.run_of_outcome (p := dispatch leafEnv leafPlugin
    { msg := scheduledMessage leafEnv 0 "job" "leaf" [] }) (g := []) (s := leafStart)
    (o := .ok leafResult) (by decide +kernel)
  have hquery := Proc.run_of_outcome (p := handleCall leafEnv leafPlugin
    { msg := containsMessage leafEnv "leaf" "did:ma:alice" leafStart.io.calls }) (g := rpcGuards)
    (s := { leafStart with io := { leafStart.io with calls := leafStart.io.calls + 1 } })
    (o := .ok leafResult) (by decide +kernel)
  have hrpc := Invokes.rpc (by decide +kernel) hentity hauth hdispatch
  have hscheduled := Invokes.scheduled hentity hjob
  have hgroup := @Invokes.group leafEnv leafPlugin leafStart leafResult "+#leaf" "leaf"
    "did:ma:alice" _ (by decide +kernel) hentity hquery
  refine ⟨_, _, _, hrpc, hscheduled, hgroup, by decide +kernel, by decide +kernel,
    by decide +kernel, fun h => ?_⟩
  exact absurd (h _ _ _ _ _ _ _ hrpc hscheduled).registry (by decide +kernel)

end MaRuntime
