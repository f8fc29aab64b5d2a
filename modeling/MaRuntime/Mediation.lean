import MaRuntime.Crud.Namespaces
import MaRuntime.Snapshot

/-!
# Both gates of an RPC message

A message is delivered behind two gates: the transport's, and the ACL of the entity it names.

* `Admitted`: what both gates say of a message, read off the state it finds.
* `rpcTurnWith deliver`: the turn with anything in place of the target's own dispatch.
* `complete_mediation`: a message that is not admitted ends the same whatever the target would do,
  and nothing of a plugin is processed for it but the answers of the groups that were asked.
-/

namespace MaRuntime

open Lib (Cbor Proc)

/-! ## The gates -/

/-- The transport gate lets the sender pass: an entity of this runtime, an owner, or who holds
`rpc`. -/
def PassesRpcGate (env : Env) (rt : Runtime) (sender : String) : Prop :=
  intraRuntime env sender = true ∨ isOwner env.core rt.stats.owners sender = true ∨
    checkFullNoGroups env.core rt.rootAcl sender [capRpc] = .ok ()

/-- The entity's ACL lets the term pass: it is named and cached, and accepts the verb or `*`. A term
without a verb stands for `*`. -/
def PassesEntityGate (env : Env) (message : Message) (term : Cbor) (entity : EntityPlugin)
    (w : World) : Prop :=
  entity.acl ≠ "" ∧ ∃ acl, w.rt.aclCache[aclCacheKey entity.acl]? = some acl ∧
    (checkFull env.core (callerDid env message.from)
      (fun g => (queryActorGroup env g (callerDid env message.from)).attempt) acl
      [(verbOf term).getD "*", "*"] rpcGuards w).1 = .ok (.ok ())

/-- Both gates let the message pass to the entity. -/
structure Admitted (env : Env) (message : Message) (term : Cbor) (entity : EntityPlugin)
    (w : World) : Prop where
  transport : PassesRpcGate env w.rt message.from
  payload : env.codec.decode message.payload = some term
  target : ∃ fragment, Text.stripPrefix message.to (env.ourDid ++ "#") = some fragment ∧
    w.rt.entityRegistry[fragment]? = some entity
  entityGate : PassesEntityGate env message term entity (counted w)

section Gates

variable {env : Env} {message : Message}

/-- The transport gate passes who may, and does nothing else. -/
theorem rpcGate_ok {w w' : World}
    (h : rpcGate env message w.rt.rootAcl rpcGuards w = (.ok (), w')) :
    PassesRpcGate env w.rt message.from ∧ w' = w := by
  unfold rpcGate at h
  by_cases hintra : intraRuntime env message.from = true
  · rw [hintra] at h
    exact ⟨.inl hintra, (congrArg Prod.snd h).symm⟩
  · rw [Bool.eq_false_of_not_eq_true hintra] at h
    obtain ⟨owners, w1, hread, h⟩ := Proc.bind_ok h
    obtain ⟨rfl, rfl⟩ : w.rt.stats.owners = owners ∧ w = w1 := by
      simpa [readStats, reading, Proc.holding, getRt, Lib.Guards.excludes] using hread
    by_cases howner : isOwner env.core w.rt.stats.owners message.from = true
    · rw [howner] at h
      exact ⟨.inr (.inl howner), (congrArg Prod.snd h).symm⟩
    · rw [Bool.eq_false_of_not_eq_true howner] at h
      have hcheck := Proc.ofExcept_ok h
      have hrun : (Proc.ofExcept (.ok ()) : M Unit) rpcGuards w = (.ok (), w') := hcheck ▸ h
      exact ⟨.inr (.inr hcheck), (congrArg Prod.snd hrun).symm⟩

/-- **Whom the entity gate lets pass.** -/
theorem authorizeEntity_ok {term : Cbor} {entity : EntityPlugin} {w w' : World}
    (h : authorizeEntity env message term entity rpcGuards w = (.ok (), w')) :
    PassesEntityGate env message term entity w := by
  unfold authorizeEntity at h
  dsimp only at h
  split at h
  · exact absurd h (by simp)
  · rename_i hname
    obtain ⟨o, w1, hread, h⟩ := Proc.bind_ok h
    obtain ⟨rfl, rfl⟩ : w.rt.aclCache[aclCacheKey entity.acl]? = o ∧ w = w1 := by
      simpa [reading, Proc.holding, getRt, Lib.Guards.excludes, aclCacheKey] using hread
    cases hacl : w.rt.aclCache[aclCacheKey entity.acl]? with
    | none =>
      rw [hacl] at h
      exact absurd h (by simp)
    | some acl =>
      rw [hacl] at h
      obtain ⟨verdict, w2, hcheck, h⟩ := Proc.bind_ok (withContext_ok h)
      obtain rfl := Proc.ofExcept_ok h
      exact ⟨hname, acl, hacl, congrArg Prod.fst hcheck⟩

end Gates

/-! ## Refused messages -/

/-- Only plugin cells changed, and no snapshot of a state. -/
def SnapshotsKept (w w' : World) : Prop :=
  CellsOnly w w' ∧ ∀ i, (w'.rt.cells i).state.persisted = (w.rt.cells i).state.persisted

instance : IsPreorder World SnapshotsKept where
  refl w := ⟨refl_of CellsOnly w, fun _ => rfl⟩
  trans _ _ _ h h' := ⟨trans_of CellsOnly h.1 h'.1, fun i => (h'.2 i).trans (h.2 i)⟩

theorem Idle.snapshotsKept {w w' : World} (h : Idle w w') : SnapshotsKept w w' :=
  ⟨h.cellsOnly, fun i => by rw [show w'.rt = w.rt from h]⟩

section Refused

variable {env : Env} {g : Lib.Guards Lock}

theorem calm_modifyCell_snapshots {i : Nat} {f : PluginCell → PluginCell}
    (hf : ∀ cell, (f cell).state.persisted = cell.state.persisted) :
    Proc.Calm g SnapshotsKept (modifyCell i f) := by
  refine calm_modifyRt fun w => ⟨rfl, fun j => ?_⟩
  by_cases hj : j = i
  · subst hj
    show (Function.update w.rt.cells j _ j).state.persisted = _
    rw [Function.update_self]
    exact hf _
  · show (Function.update w.rt.cells i _ j).state.persisted = _
    rw [Function.update_of_ne hj]

theorem calm_callExport_snapshots (ep : EntityPlugin) (i : Nat) (exportName : String)
    (input : Bytes) : Proc.Calm g SnapshotsKept (callExport env ep i exportName input) := by
  refine ⟨(calm_callExport env ep i exportName input).frees, fun g w => ?_⟩
  rcases hplay : playExport env w.io.calls exportName input (w.rt.cells i)
    { w.io with calls := w.io.calls + 1 } with ⟨result, cell, io⟩
  have hkeeps := playExport_persisted env w.io.calls exportName input (w.rt.cells i)
    { w.io with calls := w.io.calls + 1 }
  rw [hplay] at hkeeps
  rw [callExport_run env ep i exportName input w hplay]
  refine ⟨rfl, fun j => ?_⟩
  by_cases hj : j = i
  · subst hj
    show (Function.update w.rt.cells j cell j).state.persisted = _
    rw [Function.update_self]
    exact hkeeps
  · show (Function.update w.rt.cells i cell j).state.persisted = _
    rw [Function.update_of_ne hj]

theorem calm_dispatchTo_snapshots (ep : EntityPlugin) (exportName : String) (input : CastInput) :
    Proc.Calm g SnapshotsKept (dispatchTo env ep exportName input) := by
  unfold dispatchTo
  split
  · exact (calm_schedulerDispatch env input).mono fun _ _ h => h.snapshotsKept
  · refine (calm_callExport_snapshots ep _ _ _).bind fun output => ?_
    refine Proc.Calm.bind ?_ fun pending => ?_
    · refine (calm_getRt _).bind fun _ =>
        (calm_modifyCell_snapshots ?_).bind fun _ => Proc.calm_pure _
      exact fun _ => rfl
    · refine (calm_getRt _).bind fun _ =>
        (calm_modifyCell_snapshots ?_).bind fun _ => Proc.calm_pure _
      exact fun _ => rfl

theorem calm_handleCall_snapshots (ep : EntityPlugin) (input : CastInput) :
    Proc.Calm g SnapshotsKept (handleCall env ep input) := calm_dispatchTo_snapshots ep _ input

/-- **A dispatch moves no snapshot**: what becomes of its result is for the caller to say. -/
theorem calm_dispatch_snapshots (ep : EntityPlugin) (input : CastInput) :
    Proc.Calm g SnapshotsKept (dispatch env ep input) := by
  unfold dispatch
  split
  · exact calm_dispatchTo_snapshots ep _ input
  · exact calm_dispatchTo_snapshots ep _ input

/-- Asking for the members of a group moves no snapshot: its answer's state is dropped. -/
theorem calm_queryActorGroup_snapshots (hg : g.excludes .entityRegistry .read = false)
    (groupRef caller : String) :
    Proc.Calm g SnapshotsKept (queryActorGroup env groupRef caller) := by
  unfold queryActorGroup
  split
  · exact Proc.calm_fail _
  · refine (Proc.Calm.holding hg (calm_getRt _)).bind fun o => ?_
    split
    · exact Proc.calm_fail _
    · exact (calm_nextCall.mono fun _ _ h => h.snapshotsKept).bind fun _ =>
        (calm_handleCall_snapshots _ _).bind fun _ => Proc.calm_pure _

theorem calm_authorizeEntity_snapshots (message : Message) (term : Cbor) (entity : EntityPlugin) :
    Proc.Calm rpcGuards SnapshotsKept (authorizeEntity env message term entity) := by
  unfold authorizeEntity
  dsimp only
  split
  · exact Proc.calm_fail _
  · refine (Proc.Calm.holding rfl (calm_getRt _)).bind fun o => ?_
    split
    · exact Proc.calm_fail _
    · exact calm_withContext _ <|
        (calm_checkFull (fun key => (calm_queryActorGroup_snapshots rfl key _).attempt) _ _).bind
          fun _ => Proc.calm_ofExcept _

/-- No export is called. -/
def undelivered (_ : EntityPlugin) (_ : CastInput) : M DispatchResult := Proc.fail ["undelivered"]

/-- **A turn that delivers nothing processes nothing.** -/
theorem calm_undelivered (message : Message) (acl : AclMap) :
    Proc.Calm rpcGuards SnapshotsKept (handleRpcMessageWith undelivered env message acl) := by
  have reply (body : ReplyBody) :
      Proc.Calm rpcGuards SnapshotsKept (sendRpcReply env message body) :=
    (calm_sendRpcReply message body).mono fun _ _ h => h.snapshotsKept
  refine ((calm_rpcGate rfl message acl).mono fun _ _ h => h.snapshotsKept).bind fun _ => ?_
  split
  · exact Proc.calm_fail _
  · split
    · exact Proc.calm_fail _
    · split
      · refine (Proc.Calm.holding rfl (calm_getRt _)).bind fun o => ?_
        split
        · refine Proc.Calm.bind (Proc.Calm.attempt ?_) fun r => ?_
          · exact (calm_authorizeEntity_snapshots message _ _).bind fun _ =>
              (Proc.calm_fail ["undelivered"] : Proc.Calm _ _ (Proc.fail _ : M Unit))
          · split
            · exact Proc.calm_pure _
            · exact reply _
        · exact reply _
      · split
        · split
          · exact reply _
          · exact reply _
        · exact reply _

end Refused

/-! ## Mediation -/

/-- A message that is not admitted does not reach what delivers. -/
theorem undelivered_of_not_admitted {env : Env} {message : Message} {w : World}
    (h : ¬ ∃ term entity, Admitted env message term entity w)
    (deliver : EntityPlugin → CastInput → M DispatchResult) :
    rpcTurnWith deliver env message [] w = rpcTurnWith undelivered env message [] w := by
  show handleRpcMessageWith deliver env message w.rt.rootAcl rpcGuards (counted w) =
    handleRpcMessageWith undelivered env message w.rt.rootAcl rpcGuards (counted w)
  rcases hgate : rpcGate env message w.rt.rootAcl rpcGuards (counted w) with ⟨o, w1⟩
  cases o with
  | err e => exact (Proc.bind_of_err hgate).trans (Proc.bind_of_err hgate).symm
  | stuck => exact (Proc.bind_of_stuck hgate).trans (Proc.bind_of_stuck hgate).symm
  | ok u =>
    obtain ⟨htransport, rfl⟩ := rpcGate_ok (w := counted w) hgate
    refine (Proc.bind_of_ok hgate).trans (Eq.trans ?_ (Proc.bind_of_ok hgate).symm)
    split
    · rfl
    · cases hterm : env.codec.decode message.payload with
      | none => rfl
      | some term =>
        cases hfragment : Text.stripPrefix message.to (env.ourDid ++ "#") with
        | none => rfl
        | some fragment =>
          dsimp only
          have hread : reading .entityRegistry (getRt fun rt => rt.entityRegistry[fragment]?)
              rpcGuards (counted w) =
                (Lib.Outcome.ok w.rt.entityRegistry[fragment]?, counted w) := rfl
          unfold dispatchFragmentWith
          rw [Proc.bind_of_ok hread, Proc.bind_of_ok hread]
          cases hentity : w.rt.entityRegistry[fragment]? with
          | none => rfl
          | some entity =>
            dsimp only
            have hsame : handleEntityPluginMessageWith deliver env message term entity rpcGuards
                (counted w) =
                  handleEntityPluginMessageWith undelivered env message term entity rpcGuards
                    (counted w) := by
              rcases hauth : authorizeEntity env message term entity rpcGuards (counted w) with
                ⟨o, w2⟩
              cases o with
              | err e => exact (Proc.bind_of_err hauth).trans (Proc.bind_of_err hauth).symm
              | stuck => exact (Proc.bind_of_stuck hauth).trans (Proc.bind_of_stuck hauth).symm
              | ok u =>
                exact absurd ⟨term, entity, htransport, hterm, ⟨fragment, hfragment, hentity⟩,
                  authorizeEntity_ok hauth⟩ h
            rw [Proc.bind_run, Proc.bind_run]
            unfold Proc.attempt
            rw [hsame]

/-- **Complete mediation**: a message that is not admitted ends the same whatever its target would
do, and no creation, deletion or state of a plugin is processed for it. -/
theorem complete_mediation (env : Env) (message : Message) (w : World) :
    (∃ term entity, Admitted env message term entity w) ∨
      (∀ deliver, rpcTurnWith deliver env message [] w = rpcTurn env message [] w) ∧
        SnapshotsKept (counted w) (rpcTurn env message [] w).2 := by
  by_cases h : ∃ term entity, Admitted env message term entity w
  · exact .inl h
  · have hturn : rpcTurn env message [] w = rpcTurnWith undelivered env message [] w :=
      undelivered_of_not_admitted h (dispatch env)
    rw [hturn]
    refine .inr ⟨undelivered_of_not_admitted h, ?_⟩
    exact (calm_undelivered message w.rt.rootAcl).keeps rpcGuards (counted w)

end MaRuntime
