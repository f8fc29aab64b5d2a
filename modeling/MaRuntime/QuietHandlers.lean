import MaRuntime.Main
import MaRuntime.PluginHost

/-!
# Work that touches no plugin

Most of what the daemon does leaves its plugins alone: their cells, their registry and the channel
of their envelopes (`Quiet`).
-/

namespace MaRuntime

open Lib (Cbor Proc)

/-- What there is of plugins in the world, with a record of what was started. -/
def World.plugins (w : World) (started : List (String × KindNode)) : PluginHost where
  cells := w.rt.cells
  nextCell := w.rt.nextCell
  registry := w.rt.entityRegistry
  kinds := w.rt.kindRegistry
  envelopes := w.io.envelopes
  started := started

/-- Of the plugins nothing changed. -/
def Quiet (w w' : World) : Prop := ∀ started, w'.plugins started = w.plugins started

instance : IsPreorder World Quiet where
  refl _ _ := rfl
  trans _ _ _ h h' started := (h' started).trans (h started)

section Quiet

variable {α : Type} {env : Env}

theorem quiet_nextCall : Proc.Keeps Quiet nextCall := fun _ _ _ => rfl

theorem quiet_writeStats (f : Stats → Stats) : Proc.Keeps Quiet (writeStats f) := by
  refine Proc.Keeps.holding ?_ _ _
  exact fun _ _ _ => rfl

theorem quiet_reading (l : Lock) (f : Runtime → α) :
    Proc.Keeps Quiet (reading l (getRt f)) :=
  (Proc.keeps_look _).holding _ _

theorem quiet_whenSome {o : Option α} {p : α → M Unit} (h : ∀ a, Proc.Keeps Quiet (p a)) :
    Proc.Keeps Quiet (whenSome o p) := by
  cases o with
  | some a => exact h a
  | none => exact Proc.keeps_pure _

theorem quiet_kuboCall (call : Nat → Except Error α) : Proc.Keeps Quiet (kuboCall call) := by
  have hmark : Proc.Keeps Quiet (modifyIo fun io => { io with kuboFailed := true }) :=
    fun _ _ _ => rfl
  refine quiet_nextCall.bind fun n => ?_
  split
  · exact Proc.keeps_pure _
  · exact hmark.bind fun _ => Proc.keeps_fail _

theorem quiet_pinAdd (cid : Cid) : Proc.Keeps Quiet (pinAdd env cid) := by
  refine (quiet_kuboCall _).bind fun _ => ?_
  exact fun _ _ _ => rfl

theorem quiet_pinUpdate (oldCid newCid : Cid) :
    Proc.Keeps Quiet (pinUpdate env oldCid newCid) := by
  refine (quiet_kuboCall _).bind fun _ => (Proc.keeps_look _).bind fun pinned => ?_
  split
  · exact fun _ _ _ => rfl
  · exact quiet_pinAdd newCid

theorem quiet_dagResolve (path : String) : Proc.Keeps Quiet (dagResolve env path) := by
  unfold dagResolve
  split
  · exact quiet_kuboCall _
  · exact Proc.keeps_pure _

theorem quiet_loadManifest : Proc.Keeps Quiet (loadManifest env) := by
  have hroot : Proc.Keeps Quiet currentRootCid := by
    refine (quiet_reading _ _).bind fun o => ?_
    split
    · exact Proc.keeps_pure _
    · exact Proc.keeps_fail _
  exact hroot.bind fun _ => quiet_kuboCall _

theorem quiet_withManifestCrud (f : RuntimeManifest → Except Error RuntimeManifest) :
    Proc.Keeps Quiet (withManifestCrud env f) := by
  have hroot : Proc.Keeps Quiet currentRootCid := by
    refine (quiet_reading _ _).bind fun o => ?_
    split
    · exact Proc.keeps_pure _
    · exact Proc.keeps_fail _
  refine hroot.bind fun oldCid => (quiet_kuboCall _).bind fun m => ?_
  refine (Proc.keeps_ofExcept _).bind fun m => (quiet_kuboCall _).bind fun newCid => ?_
  refine (quiet_pinUpdate _ _).attempt.bind fun _ => ?_
  refine ((quiet_reading _ _).bind fun _ => quiet_writeStats _).bind fun _ => ?_
  exact (quiet_writeStats _).bind fun _ => Proc.keeps_pure _

/-- The three ways to send a reply. -/
theorem quiet_delivery {reply : Reply} {build send : Error → Error} :
    Proc.Keeps Quiet (do
      let n ← nextCall
      match env.deliver n with
      | .buildFailed e => Proc.fail (build e)
      | .noOutbox => pure ()
      | .sendFailed e => Proc.fail (send e)
      | .sent => modifyIo fun io => { io with replies := io.replies ++ [reply] } : M Unit) := by
  refine quiet_nextCall.bind fun n => ?_
  split
  · exact Proc.keeps_fail _
  · exact Proc.keeps_pure _
  · exact Proc.keeps_fail _
  · exact fun _ _ _ => rfl

theorem quiet_sendCrudReply (incoming : Message) (body : ReplyBody) :
    Proc.Keeps Quiet (sendCrudReply env incoming body) := by
  unfold sendCrudReply
  dsimp only
  split
  · exact Proc.keeps_fail _
  · exact quiet_delivery

theorem quiet_sendRpcReply (incoming : Message) (body : ReplyBody) :
    Proc.Keeps Quiet (sendRpcReply env incoming body) := by
  unfold sendRpcReply
  dsimp only
  split
  · exact Proc.keeps_fail _
  · exact quiet_delivery

theorem quiet_loadAclFromCid (cid : Cid) : Proc.Keeps Quiet (loadAclFromCid env cid) :=
  ((quiet_kuboCall _).mapErr _).bind fun _ => Proc.keeps_pure _

/-- A write that leaves the plugins alone. -/
theorem quiet_writing (l : Lock) {f : Runtime → Runtime}
    (h : ∀ w : World, Quiet w { w with rt := f w.rt }) :
    Proc.Keeps Quiet (writing l (modifyRt f)) := by
  have hmodify : Proc.Keeps Quiet (modifyRt f) := fun _ w => h w
  exact hmodify.holding _ _

/-! ### CRUD -/

variable {message : Message}

theorem quiet_saveConfig (config : Config) : Proc.Keeps Quiet (saveConfig env config) := by
  unfold saveConfig
  split
  · exact Proc.keeps_fail _
  · refine quiet_nextCall.bind fun n => (Proc.keeps_ofExcept _).bind fun _ => ?_
    exact fun _ _ _ => rfl

theorem quiet_handleConfigNs (rest : List String) (args : Args) :
    Proc.Keeps Quiet (handleConfigNs env message rest args) := by
  unfold handleConfigNs handleConfigNsWith
  split
  · split
    · exact quiet_loadManifest.bind fun m => (quiet_reading _ _).bind fun _ =>
        quiet_sendCrudReply _ _
    · exact quiet_sendCrudReply _ _
  · rename_i key
    split
    · exact quiet_sendCrudReply _ _
    · split
      · have hvalue : Proc.Keeps Quiet (configValue env key) := by
          unfold configValue
          split
          · exact quiet_reading _ _
          · refine quiet_loadManifest.bind fun m => ?_
            split
            · exact Proc.keeps_pure _
            · exact Proc.keeps_fail _
        exact hvalue.bind fun _ => quiet_sendCrudReply _ _
      · split
        · exact quiet_sendCrudReply _ _
        · exact (quiet_withManifestCrud _).bind fun _ => quiet_sendCrudReply _ _
      · dsimp only
        split
        · refine Proc.Keeps.bind ?_ fun _ => quiet_sendCrudReply _ _
          refine (quiet_writing _ fun _ _ => rfl).bind fun _ => ?_
          have hsave : Proc.Keeps Quiet
              (reading .sharedConfig do saveConfig env (← getRt fun rt => rt.sharedConfig)) :=
            ((Proc.keeps_look _).bind fun config => quiet_saveConfig config).holding _ _
          exact hsave.attempt.bind fun _ => Proc.keeps_pure _
        · split
          · exact quiet_sendCrudReply _ _
          · exact (quiet_withManifestCrud _).bind fun _ => quiet_sendCrudReply _ _
      · exact Proc.keeps_fail _
  · exact Proc.keeps_fail _

theorem quiet_handleKindsNs (rest : List String) (args : Args) :
    Proc.Keeps Quiet (handleKindsNs env message rest args) := by
  unfold handleKindsNs handleKindsNsWith
  split
  · exact Proc.keeps_fail _
  · split
    · exact quiet_loadManifest.bind fun _ => quiet_sendCrudReply _ _
    · split
      · exact quiet_sendCrudReply _ _
      · exact (quiet_withManifestCrud _).bind fun _ => quiet_sendCrudReply _ _
    · exact (quiet_withManifestCrud _).bind fun _ => quiet_sendCrudReply _ _
    · exact Proc.keeps_fail _
    · refine quiet_loadManifest.bind fun m => ?_
      split
      · exact (quiet_kuboCall _).bind fun _ => quiet_sendCrudReply _ _
      · exact quiet_sendCrudReply _ _
    · exact quiet_sendCrudReply _ _
    · exact Proc.keeps_fail _

theorem quiet_handleRootAcl (args : Args) :
    Proc.Keeps Quiet (handleRootAcl env message args) := by
  unfold handleRootAcl handleRootAclWith
  split
  · exact quiet_loadManifest.bind fun _ => quiet_sendCrudReply _ _
  · split
    · exact quiet_sendCrudReply _ _
    · refine ((quiet_loadAclFromCid _).mapErr _).bind fun acl => ?_
      exact (quiet_withManifestCrud _).bind fun _ =>
        (quiet_writing _ fun _ _ => rfl).bind fun _ => quiet_sendCrudReply _ _
  · exact quiet_sendCrudReply _ _
  · exact Proc.keeps_fail _

theorem quiet_aclCacheUpdate (cacheKey : String) (cid : Cid) :
    Proc.Keeps Quiet (aclCacheUpdate env cacheKey cid) := by
  refine (quiet_loadAclFromCid _).attempt.bind fun r => ?_
  split
  · exact quiet_writing _ fun _ _ => rfl
  · exact Proc.keeps_pure _

theorem quiet_handleRootAcls (rest : List String) (args : Args) :
    Proc.Keeps Quiet (handleRootAcls env message rest args) := by
  unfold handleRootAcls handleRootAclsWith
  split
  · exact quiet_loadManifest.bind fun _ => quiet_sendCrudReply _ _
  · refine quiet_loadManifest.bind fun m => ?_
    split
    · exact quiet_sendCrudReply _ _
    · exact Proc.keeps_fail _
  · split
    · exact quiet_sendCrudReply _ _
    · exact (quiet_withManifestCrud _).bind fun _ =>
        (quiet_aclCacheUpdate _ _).bind fun _ => quiet_sendCrudReply _ _
  · exact (quiet_withManifestCrud _).bind fun _ =>
      (quiet_writing _ fun _ _ => rfl).bind fun _ => quiet_sendCrudReply _ _
  · exact Proc.keeps_fail _

theorem quiet_checkEntityManagementCap (caps : List String) :
    Proc.Keeps Quiet (checkEntityManagementCap env message caps) := by
  refine Proc.Keeps.holding ?_ _ _
  exact (Proc.keeps_look _).bind fun _ => (Proc.keeps_ofExcept _).mapErr _

theorem quiet_fetchEntityNode (name : String) :
    Proc.Keeps Quiet (fetchEntityNode env name) := by
  refine quiet_loadManifest.bind fun m => ?_
  split
  · exact Proc.keeps_fail _
  · exact (quiet_kuboCall _).mapErr _

theorem quiet_handleEntityField (name field : String) (subPath : List String) (args : Args) :
    Proc.Keeps Quiet (handleEntityField env message name field subPath args) := by
  have hupdate (entity : EntityNode) : Proc.Keeps Quiet (do
      let entityCid ← updateEntityNode env name entity
      sendCrudReply env message (.okCid entityCid)) := by
    refine Proc.Keeps.bind ?_ fun _ => quiet_sendCrudReply _ _
    exact ((quiet_kuboCall _).mapErr _).bind fun _ => (quiet_withManifestCrud _).bind fun _ =>
      Proc.keeps_pure _
  unfold handleEntityField handleEntityFieldWith
  split
  · refine (quiet_fetchEntityNode name).bind fun entity => ?_
    split
    · exact quiet_sendCrudReply _ _
    · exact Proc.keeps_fail _
  · split
    · unfold handleEntityAclFieldWith
      dsimp only
      split
      · exact Proc.keeps_fail _
      · split
        · exact (quiet_fetchEntityNode name).bind fun _ => quiet_sendCrudReply _ _
        · refine quiet_loadManifest.bind fun m => ?_
          split
          · exact Proc.keeps_fail _
          · exact (quiet_fetchEntityNode name).bind fun entity => hupdate _
        · exact (quiet_fetchEntityNode name).bind fun entity => hupdate _
        · exact Proc.keeps_fail _
    · exact Proc.keeps_fail _

theorem quiet_lookupKind (protocol : String) : Proc.Keeps Quiet (lookupKind env protocol) := by
  refine Proc.Keeps.holding ((Proc.keeps_look _).bind fun o => ?_) _ _
  split
  · exact Proc.keeps_pure _
  · refine quiet_loadManifest.attempt.bind fun r => ?_
    split
    · exact Proc.keeps_pure _
    · split
      · exact Proc.keeps_pure _
      · exact (quiet_kuboCall _).attempt.bind fun _ => Proc.keeps_pure _

/-! ### The rest -/

theorem quiet_schedulerDispatch (input : CastInput) :
    Proc.Keeps Quiet (schedulerDispatch env input) := by
  unfold schedulerDispatch
  split
  · exact Proc.keeps_fail _
  · refine (Proc.keeps_ofExcept _).bind fun request => ?_
    have hschedule : Proc.Keeps Quiet
        (modifyIo fun io => { io with scheduled := io.scheduled ++ [request] }) :=
      fun _ _ _ => rfl
    exact hschedule.bind fun _ => Proc.keeps_pure _

theorem quiet_initState (kind : PluginKind) (node : EntityNode) :
    Proc.Keeps Quiet (initState env kind node) := by
  unfold initState
  split
  · exact (quiet_kuboCall _).attempt.bind fun _ => Proc.keeps_pure _
  · exact Proc.keeps_pure _

theorem quiet_recordNewEntity (fragment : String) (node : EntityNode) :
    Proc.Keeps Quiet (recordNewEntity env fragment node) := by
  refine Proc.Keeps.holding ((Proc.keeps_look _).bind fun o => ?_) _ _
  split
  · have hpublish (old : Cid) (node : EntityNode) :
        Proc.Keeps Quiet (publishNewEntity env old fragment node) :=
      (quiet_kuboCall _).bind fun _ => (quiet_kuboCall _).bind fun _ => quiet_kuboCall _
    have hpersist (old : Cid) (node : EntityNode) :
        Proc.Keeps Quiet (persistNewEntity env old fragment node) :=
      (hpublish old node).bind fun _ => (quiet_pinUpdate _ _).attempt.bind fun _ =>
        quiet_writeStats _
    exact (hpersist _ _).attempt.bind fun _ => Proc.keeps_pure _
  · exact Proc.keeps_pure _

theorem quiet_ipfsTurn (message : Message) : Proc.Keeps Quiet (ipfsTurn env message) := by
  have hpublish (request : ValidatedIpfsRequest) : Proc.Keeps Quiet (publish env request) := by
    unfold publish
    split
    · refine ((quiet_kuboCall _).mapErr _).bind fun o => ?_
      split
      · exact Proc.keeps_pure _
      · exact Proc.keeps_fail _
    · split
      · exact (quiet_kuboCall _).mapErr _
      · exact (quiet_kuboCall _).mapErr _
  have hreply (cid : Cid) : Proc.Keeps Quiet (sendIpfsReply env message cid) := by
    unfold sendIpfsReply
    dsimp only
    split
    · exact Proc.keeps_fail _
    · exact quiet_delivery
  refine (quiet_writeStats _).bind fun _ => Proc.Keeps.holding ?_ _ _
  refine (Proc.keeps_look _).bind fun acl => (Proc.keeps_ofExcept _).bind fun _ => ?_
  refine quiet_nextCall.bind fun n => ((Proc.keeps_ofExcept _).mapErr _).bind fun _ => ?_
  exact ((Proc.keeps_ofExcept _).mapErr _).bind fun request => (hpublish request).bind fun cid =>
    hreply cid

theorem quiet_grantOwnersInAcl (owners : List String) :
    Proc.Keeps Quiet (grantOwnersInAcl owners) := quiet_writing _ fun _ _ => rfl

theorem quiet_handleClaim (owner : String) : Proc.Keeps Quiet (handleClaim env owner) := by
  have hpersist (configPath : Option String) (owners : List String) :
      Proc.Keeps Quiet (persistClaim env configPath owners) := by
    unfold persistClaim
    split
    · refine Proc.Keeps.bind (Proc.Keeps.attempt ?_) fun _ => Proc.keeps_pure _
      exact (Proc.keeps_look _).bind fun file => (Proc.keeps_ofExcept _).bind fun config =>
        quiet_saveConfig _
    · exact Proc.keeps_pure _
  refine (quiet_reading _ _).bind fun state => ?_
  obtain ⟨owners, configPath⟩ := state
  dsimp only
  split
  · exact Proc.keeps_pure _
  · exact (quiet_writeStats _).bind fun _ => (quiet_grantOwnersInAcl _).bind fun _ =>
      (hpersist _ _).bind fun _ => Proc.keeps_pure _

end Quiet

end MaRuntime
