import MaRuntime.Main
import MaRuntime.VerbCheck
import MaRuntime.DaemonMoves
import MaRuntime.Replies

/-!
# Work that says nothing

Most of what the daemon does on the way sends no reply and orders no job of the scheduler (`Mute`):
here for plugins, requests to publish, startup and shutdown, after the CRUD handlers of `Replies`.
A dispatch is mute too, unless it is to `#scheduler` and orders a job (`Orders`).
-/

namespace MaRuntime

open Lib (Cbor Proc)

/-- No job was ordered. -/
def Unordered (w w' : World) : Prop := w'.io.scheduled = w.io.scheduled

instance : IsPreorder World Unordered where
  refl _ := rfl
  trans _ _ _ h h' := Eq.trans h' h

section Mute

variable {α : Type} {env : Env} {message : Message}

/-! ### Plugins -/

theorem mute_callExport (ep : EntityPlugin) (i : Nat) (exportName : String) (input : Bytes) :
    Proc.Keeps Mute (callExport env ep i exportName input) :=
  (keeps_callExport_called ep i exportName input).mono fun _ _ => Called.mute

theorem mute_takePending (i : Nat) : Proc.Keeps Mute (takePending i) :=
  keeps_takePending fun _ => mute_modifyRt _

theorem mute_markSaved (ep : EntityPlugin) (savedBytes : Bytes) :
    Proc.Keeps Mute (markSaved ep savedBytes) :=
  keeps_markSaved (fun _ _ _ => mute_modifyRt _) savedBytes

theorem mute_persistPending (entity : EntityPlugin) (pending : Option Bytes) :
    Proc.Keeps Mute (persistPending env entity pending) := by
  unfold persistPending
  split
  · exact Proc.keeps_pure _
  · refine (mute_kuboCall _).attempt.bind fun r => ?_
    split
    · exact mute_markSaved _ _
    · exact Proc.keeps_pure _

theorem mute_recordNewEntity (fragment : String) (node : EntityNode) :
    Proc.Keeps Mute (recordNewEntity env fragment node) := by
  refine Proc.Keeps.holding ((Proc.keeps_look _).bind fun o => ?_) _ _
  split
  · have hpublish (old : Cid) (node : EntityNode) :
        Proc.Keeps Mute (publishNewEntity env old fragment node) :=
      (mute_kuboCall _).bind fun _ => (mute_kuboCall _).bind fun _ => mute_kuboCall _
    have hpersist (old : Cid) (node : EntityNode) :
        Proc.Keeps Mute (persistNewEntity env old fragment node) :=
      (hpublish old node).bind fun _ => (mute_pinUpdate _ _).attempt.bind fun _ =>
        mute_writeStats _
    exact (hpersist _ _).attempt.bind fun _ => Proc.keeps_pure _
  · exact Proc.keeps_pure _

theorem mute_createRequested (entity : EntityPlugin) (req : CreateEntityRequest) :
    Proc.Keeps Mute (createRequested env entity req) := by
  refine (mute_reading _ _).bind fun o => ?_
  split
  · exact Proc.keeps_pure _
  · refine ((keeps_load_called _ _ _).mono fun _ _ => Called.mute).attempt.bind fun r => ?_
    split
    · exact (mute_writing _ _).bind fun _ => mute_recordNewEntity _ _
    · exact fun _ _ => ⟨rfl, rfl, le_refl _⟩
    · exact Proc.keeps_pure _
    · exact Proc.keeps_pure _

theorem mute_deleteRequested (entity : EntityPlugin) (target : String) :
    Proc.Keeps Mute (deleteRequested entity target) := by
  refine (mute_reading _ _).bind fun registry => ?_
  split
  · exact Proc.keeps_pure _
  · split
    · exact Proc.keeps_pure _
    · split
      · exact Proc.keeps_pure _
      · exact mute_writing _ _

theorem mute_processResult (entity : EntityPlugin) (result : DispatchResult) :
    Proc.Keeps Mute (processResult env entity result) :=
  (mute_persistPending _ _).bind fun _ =>
    (Proc.Keeps.each (fun _ => mute_createRequested _ _) _).bind fun _ =>
      Proc.Keeps.each (fun _ => mute_deleteRequested _ _) _

theorem keeps_unordered {p : M α} (h : Proc.Keeps Mute p) : Proc.Keeps Unordered p :=
  h.mono fun _ _ h => h.scheduled

/-- A reply orders nothing. -/
theorem unordered_delivery {reply : Reply} {build send : Error → Error} :
    Proc.Keeps Unordered (do
      let n ← nextCall
      match env.deliver n with
      | .buildFailed e => Proc.fail (build e)
      | .noOutbox => pure ()
      | .sendFailed e => Proc.fail (send e)
      | .sent => modifyIo fun io => { io with replies := io.replies ++ [reply] } : M Unit) := by
  refine (keeps_unordered mute_nextCall).bind fun n => ?_
  split
  · exact Proc.keeps_fail _
  · exact Proc.keeps_pure _
  · exact Proc.keeps_fail _
  · exact fun _ _ => rfl

theorem mute_publish (request : ValidatedIpfsRequest) : Proc.Keeps Mute (publish env request) := by
  unfold publish
  split
  · refine ((mute_kuboCall _).mapErr _).bind fun o => ?_
    split
    · exact Proc.keeps_pure _
    · exact Proc.keeps_fail _
  · split
    · exact (mute_kuboCall _).mapErr _
    · exact (mute_kuboCall _).mapErr _

theorem unordered_ipfsTurn : Proc.Keeps Unordered (ipfsTurn env message) := by
  have hreply (cid : Cid) : Proc.Keeps Unordered (sendIpfsReply env message cid) := by
    unfold sendIpfsReply
    dsimp only
    split
    · exact Proc.keeps_fail _
    · exact unordered_delivery
  refine (keeps_unordered (mute_writeStats _)).bind fun _ => Proc.Keeps.holding ?_ _ _
  refine (Proc.keeps_look _).bind fun acl => (Proc.keeps_ofExcept _).bind fun _ => ?_
  refine (keeps_unordered mute_nextCall).bind fun n => ((Proc.keeps_ofExcept _).mapErr _).bind
    fun _ => ((Proc.keeps_ofExcept _).mapErr _).bind fun request => ?_
  exact (keeps_unordered (mute_publish request)).bind fun cid => hreply cid

/-! ### Work without a message -/

theorem mute_whenSome {p : α → M Unit} (hp : ∀ a, Proc.Keeps Mute (p a)) (o : Option α) :
    Proc.Keeps Mute (whenSome o p) := by
  cases o with
  | none => exact Proc.keeps_pure _
  | some a => exact hp a

theorem mute_loadEntities (root : Cid) : Proc.Keeps Mute (loadEntities env root) := by
  have hload (m : RuntimeManifest) (name : String) (link : IpldLink) :
      Proc.Keeps Mute (loadEntity env m name link) := by
    refine (mute_kuboCall _).attempt.bind fun r => ?_
    split
    · exact Proc.keeps_pure _
    · split
      · exact Proc.keeps_pure _
      · refine (mute_kuboCall _).attempt.bind fun r => ?_
        split
        · exact Proc.keeps_pure _
        · refine ((keeps_load_called _ _ _).mono fun _ _ => Called.mute).attempt.bind fun r => ?_
          split
          · exact Proc.keeps_pure _
          · exact (mute_writing _ _).bind fun _ => Proc.keeps_pure _
  refine (mute_kuboCall _).attempt.bind fun r => ?_
  split
  · exact Proc.keeps_pure _
  · exact Proc.Keeps.fold _ (fun _ _ _ => (hload _ _ _).bind fun _ => Proc.keeps_pure _) _

theorem mute_loadAcls (root : Cid) : Proc.Keeps Mute (loadAcls env root) := by
  refine (mute_kuboCall _).attempt.bind fun r => ?_
  split
  · exact Proc.keeps_pure _
  · refine (mute_whenSome (fun link => ?_) _).bind fun _ => ?_
    · refine (mute_loadAclFromCid _).attempt.bind fun r => ?_
      split
      · exact mute_writing _ _
      · exact Proc.keeps_pure _
    · refine (Proc.Keeps.fold _ (fun _ _ _ => ?_) _).bind fun _ => mute_writing _ _
      refine (mute_loadAclFromCid _).attempt.bind fun r => ?_
      split
      · exact Proc.keeps_pure _
      · exact Proc.keeps_pure _

theorem mute_startup (rootCid : Option Cid) (cliOwners : List String) :
    Proc.Keeps Mute (startup env rootCid cliOwners) := by
  have hroot : Proc.Keeps Mute (initialRoot env rootCid) := by
    unfold initialRoot
    split
    · exact Proc.keeps_pure _
    · refine Proc.Keeps.bind (Proc.Keeps.attempt ?_) fun _ => Proc.keeps_pure _
      have hpin (cid : Cid) : Proc.Keeps Mute (pinAdd env cid) :=
        (mute_kuboCall _).bind fun _ _ _ => ⟨rfl, rfl, le_refl _⟩
      exact ((mute_kuboCall _).mapErr _).bind fun _ => ((mute_kuboCall _).mapErr _).bind fun _ =>
        ((hpin _).mapErr _).bind fun _ => Proc.keeps_pure _
  have hseed (owners : List String) : Proc.Keeps Mute (seedOwners owners) := by
    unfold seedOwners
    split
    · exact Proc.keeps_pure _
    · exact mute_writing _ _
  refine hroot.bind fun root => ?_
  refine (mute_whenSome (fun _ => (mute_loadEntities _).bind fun _ => Proc.keeps_pure _) _).bind
    fun _ => (mute_writing _ _).bind fun _ => (mute_whenSome mute_loadAcls _).bind fun _ => ?_
  exact (Proc.keeps_look _).bind fun _ => (hseed _).bind fun _ =>
    (mute_reading _ _).bind fun _ => mute_writeStats _

theorem mute_saveEntityState (m : RuntimeManifest) (name : String) (entity : EntityPlugin) :
    Proc.Keeps Mute (saveEntityState env m name entity) := by
  have hsave : Proc.Keeps Mute (triggerSave env entity) :=
    keeps_triggerSave mute_kuboCall (fun _ _ => mute_callExport _ _ _ _)
      (fun i _ => mute_takePending i) (mute_markSaved entity)
  exact keeps_saveEntityState mute_kuboCall (fun _ => hsave) m name

theorem mute_shutdown : Proc.Keeps Mute (shutdown env) := by
  have hsave (root : Cid) : Proc.Keeps Mute (saveAllEntityStates env root) :=
    ((mute_kuboCall _).mapErr _).bind fun m => (mute_reading _ _).bind fun snapshot =>
      (Proc.Keeps.fold _ (fun _ _ _ => mute_saveEntityState _ _ _) _).bind fun m =>
        ((mute_kuboCall _).mapErr _).bind fun _ => (mute_pinUpdate _ _).attempt.bind fun _ =>
          Proc.keeps_pure _
  unfold shutdown
  refine (mute_reading _ _).bind fun o => ?_
  split
  · exact Proc.keeps_pure _
  · refine (mute_reading _ _).bind fun count => ?_
    split
    · refine (hsave _).attempt.bind fun r => ?_
      split
      · exact mute_writeStats _
      · exact Proc.keeps_pure _
    · exact Proc.keeps_pure _

theorem mute_handleClaim (owner : String) : Proc.Keeps Mute (handleClaim env owner) := by
  have hpersist (configPath : Option String) (owners : List String) :
      Proc.Keeps Mute (persistClaim env configPath owners) := by
    unfold persistClaim
    split
    · refine Proc.Keeps.bind (Proc.Keeps.attempt ?_) fun _ => Proc.keeps_pure _
      exact (Proc.keeps_look _).bind fun file => (Proc.keeps_ofExcept _).bind fun config =>
        mute_saveConfig _
    · exact Proc.keeps_pure _
  refine (mute_reading _ _).bind fun state => ?_
  obtain ⟨owners, configPath⟩ := state
  dsimp only
  split
  · exact Proc.keeps_pure _
  · exact (mute_writeStats _).bind fun _ => (mute_writing _ _).bind fun _ =>
      (hpersist _ _).bind fun _ => Proc.keeps_pure _

end Mute

/-! ## Dispatch -/

/-- The entity is `#scheduler` and was handed the term, which orders a job. -/
structure Orders (env : Env) (entity : EntityPlugin) (term : Cbor) (w w' : World) : Prop where
  native : entity.backend = .native
  replies : w'.io.replies = w.io.replies
  calls : w.io.calls ≤ w'.io.calls
  scheduled : ∃ request, parseScheduleRequest env term = .ok request ∧
    w'.io.scheduled = w.io.scheduled ++ [request]

section Dispatch

variable {env : Env} {message : Message}

theorem Orders.after {entity : EntityPlugin} {term : Cbor} {w w1 w' : World} (hmute : Mute w w1)
    (h : Orders env entity term w1 w') : Orders env entity term w w' := by
  refine ⟨h.native, h.replies.trans hmute.replies, hmute.calls.trans h.calls, ?_⟩
  rw [← hmute.scheduled]
  exact h.scheduled

theorem Orders.before {entity : EntityPlugin} {term : Cbor} {w w1 w' : World}
    (h : Orders env entity term w w1) (hmute : Mute w1 w') : Orders env entity term w w' := by
  refine ⟨h.native, hmute.replies.trans h.replies, h.calls.trans hmute.calls, ?_⟩
  rw [hmute.scheduled]
  exact h.scheduled

/-- What a dispatch of the input says: nothing, or it orders a job. -/
def MuteOrOrders (env : Env) (entity : EntityPlugin) (input : CastInput) (w w' : World) : Prop :=
  Mute w w' ∨ ∃ term, env.codec.decode input.msg.content = some term ∧ Orders env entity term w w'

theorem keeps_dispatchTo (entity : EntityPlugin) (exportName : String) (input : CastInput) :
    Proc.Keeps (MuteOrOrders env entity input) (dispatchTo env entity exportName input) := by
  intro g w
  unfold dispatchTo
  cases hbackend : entity.backend with
  | extism i =>
    refine .inl (Proc.Keeps.bind (mute_callExport _ _ _ _) (fun _ => ?_) g w)
    exact (mute_takePending _).bind fun _ => (Proc.keeps_look _).bind fun _ =>
      (mute_modifyRt _).bind fun _ => Proc.keeps_pure _
  | native =>
    dsimp only
    unfold schedulerDispatch
    cases hterm : env.codec.decode input.msg.content with
    | none => exact .inl (refl_of Mute w)
    | some term =>
      cases hrequest : parseScheduleRequest env term with
      | error e =>
        dsimp only
        rw [hrequest]
        exact .inl (refl_of Mute w)
      | ok request =>
        dsimp only
        rw [hrequest]
        exact .inr ⟨term, hterm, hbackend, rfl, le_refl _, request, hrequest, rfl⟩

/-- **A dispatch is mute, or orders a job** of the scheduler. -/
theorem keeps_dispatch (entity : EntityPlugin) (input : CastInput) :
    Proc.Keeps (MuteOrOrders env entity input) (dispatch env entity input) := by
  unfold dispatch
  split
  · exact keeps_dispatchTo entity _ input
  · exact keeps_dispatchTo entity _ input

theorem MuteOrOrders.before {entity : EntityPlugin} {input : CastInput} {w w1 w' : World}
    (h : MuteOrOrders env entity input w w1) (hmute : Mute w1 w') :
    MuteOrOrders env entity input w w' := by
  rcases h with hfirst | ⟨term, hterm, horders⟩
  · exact .inl (trans_of Mute hfirst hmute)
  · exact .inr ⟨term, hterm, horders.before hmute⟩

theorem MuteOrOrders.after {entity : EntityPlugin} {input : CastInput} {w w1 w' : World}
    (hmute : Mute w w1) (h : MuteOrOrders env entity input w1 w') :
    MuteOrOrders env entity input w w' := by
  rcases h with hrest | ⟨term, hterm, horders⟩
  · exact .inl (trans_of Mute hmute hrest)
  · exact .inr ⟨term, hterm, horders.after hmute⟩

/-- **A set actor that is asked orders nothing**, even if it is `#scheduler`. -/
theorem mute_queryActorGroup (groupRef caller : String) :
    Proc.Keeps Mute (queryActorGroup env groupRef caller) := by
  unfold queryActorGroup
  split
  · exact Proc.keeps_fail _
  · refine (mute_reading _ _).bind fun o => ?_
    split
    · exact Proc.keeps_fail _
    · rename_i ep
      refine mute_nextCall.bind fun n => Proc.Keeps.bind (fun g w => ?_) fun _ => Proc.keeps_pure _
      rcases keeps_dispatchTo ep "handle_call" { msg := _ } g w with hmute | ⟨term, hterm, h⟩
      · exact hmute
      · obtain ⟨⟨fragment, request⟩, hrequest, -⟩ := h.scheduled
        obtain ⟨rest, rfl⟩ := parseScheduleRequest_ok hrequest
        rw [env.codec.decode_encode] at hterm
        cases request <;> simp [ScheduleRequest.typeAtom] at hterm

theorem mute_authorizeEntity (term : Cbor) (entity : EntityPlugin) :
    Proc.Keeps Mute (authorizeEntity env message term entity) := by
  unfold authorizeEntity
  dsimp only
  split
  · exact Proc.keeps_fail _
  · refine (mute_reading _ _).bind fun o => ?_
    split
    · exact Proc.keeps_fail _
    · exact ((keeps_checkFull (fun _ _ => (mute_queryActorGroup _ _).attempt) _).bind
        fun _ => Proc.keeps_ofExcept _).mapErr _

end Dispatch

end MaRuntime
