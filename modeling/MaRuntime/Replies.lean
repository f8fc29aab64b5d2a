import MaRuntime.Crud.Effect

/-!
# The reply to a CRUD message

A handler sends one reply, when it is done.

* `Mute`: what runs before the reply sends none, and orders no job of the scheduler.
* `Replied`: the one reply of a process, taken back to the call that sent it by `Replied.bind` and
  `Replied.body`; `AnsweredWith` is that of a turn.
-/

namespace MaRuntime

open Lib (Cbor Proc)

/-! ## Before the reply -/

/-- No reply has gone out, and no job was ordered. Calls went on. -/
structure Mute (w w' : World) : Prop where
  replies : w'.io.replies = w.io.replies
  scheduled : w'.io.scheduled = w.io.scheduled
  calls : w.io.calls ≤ w'.io.calls

instance : IsPreorder World Mute where
  refl _ := ⟨rfl, rfl, le_refl _⟩
  trans _ _ _ h h' :=
    ⟨h'.replies.trans h.replies, h'.scheduled.trans h.scheduled, h.calls.trans h'.calls⟩

section Mute

variable {α : Type} {env : Env} {message : Message}

theorem Called.mute {w w' : World} (h : Called w w') : Mute w w' := by
  obtain ⟨envelopes, k, failed, -, h⟩ := h
  exact ⟨by rw [h], by rw [h], by rw [h]; exact Nat.le_add_right _ _⟩

theorem mute_nextCall : Proc.Keeps Mute nextCall :=
  keeps_nextCall_called.mono fun _ _ => Called.mute

theorem mute_kuboCall (call : Nat → Except Error α) : Proc.Keeps Mute (kuboCall call) :=
  (keeps_kuboCall_called call).mono fun _ _ => Called.mute

theorem mute_modifyRt (f : Runtime → Runtime) : Proc.Keeps Mute (modifyRt f) :=
  fun _ _ => ⟨rfl, rfl, le_refl _⟩

theorem mute_reading (l : Lock) (f : Runtime → α) : Proc.Keeps Mute (reading l (getRt f)) :=
  (Proc.keeps_look _).holding _ _

theorem mute_writing (l : Lock) (f : Runtime → Runtime) :
    Proc.Keeps Mute (writing l (modifyRt f)) := (mute_modifyRt f).holding _ _

theorem mute_writeStats (f : Stats → Stats) : Proc.Keeps Mute (writeStats f) :=
  (mute_modifyRt _).holding _ _

theorem mute_pinUpdate (oldCid newCid : Cid) : Proc.Keeps Mute (pinUpdate env oldCid newCid) := by
  have hpins (f : Io → Std.ExtTreeSet String compare) :
      Proc.Keeps Mute (modifyIo fun io => { io with pins := f io }) :=
    fun _ _ => ⟨rfl, rfl, le_refl _⟩
  refine (mute_kuboCall _).bind fun _ => (Proc.keeps_look _).bind fun known => ?_
  split
  · exact hpins _
  · exact (mute_kuboCall _).bind fun _ => hpins _

theorem mute_currentRootCid : Proc.Keeps Mute currentRootCid := by
  refine (mute_reading _ _).bind fun root => ?_
  split
  · exact Proc.keeps_pure _
  · exact Proc.keeps_fail _

theorem mute_loadManifest : Proc.Keeps Mute (loadManifest env) :=
  mute_currentRootCid.bind fun _ => mute_kuboCall _

theorem mute_withManifestCrud (f : RuntimeManifest → Except Error RuntimeManifest) :
    Proc.Keeps Mute (withManifestCrud env f) := by
  refine mute_currentRootCid.bind fun oldCid => (mute_kuboCall _).bind fun m => ?_
  refine (Proc.keeps_ofExcept _).bind fun m => (mute_kuboCall _).bind fun newCid => ?_
  refine (mute_pinUpdate _ _).attempt.bind fun _ => ?_
  refine ((mute_reading _ _).bind fun _ => mute_writeStats _).bind fun _ => ?_
  exact (mute_writeStats _).bind fun _ => Proc.keeps_pure _

/-! ### CRUD -/

theorem mute_saveConfig (config : Config) : Proc.Keeps Mute (saveConfig env config) := by
  unfold saveConfig
  split
  · exact Proc.keeps_fail _
  · exact mute_nextCall.bind fun n => (Proc.keeps_ofExcept _).bind fun _ => mute_modifyRt _

theorem mute_configValue (key : String) : Proc.Keeps Mute (configValue env key) := by
  unfold configValue
  split
  · exact mute_reading _ _
  · refine mute_loadManifest.bind fun m => ?_
    split
    · exact Proc.keeps_pure _
    · exact Proc.keeps_fail _

theorem mute_writeDaemonKey (key : String) (yamlVal : Yaml) :
    Proc.Keeps Mute (writeDaemonKey env key yamlVal) := by
  refine (mute_writing _ _).bind fun _ => ?_
  have hsave : Proc.Keeps Mute
      (reading .sharedConfig do saveConfig env (← getRt fun rt => rt.sharedConfig)) :=
    ((Proc.keeps_look _).bind fun config => mute_saveConfig config).holding _ _
  exact hsave.attempt.bind fun _ => Proc.keeps_pure _

theorem mute_loadAclFromCid (cid : Cid) : Proc.Keeps Mute (loadAclFromCid env cid) :=
  ((mute_kuboCall _).mapErr _).bind fun _ => Proc.keeps_pure _

theorem mute_aclCacheUpdate (cacheKey : String) (cid : Cid) :
    Proc.Keeps Mute (aclCacheUpdate env cacheKey cid) := by
  refine (mute_loadAclFromCid _).attempt.bind fun r => ?_
  split
  · exact mute_writing _ _
  · exact Proc.keeps_pure _

theorem mute_checkEntityManagementCap (caps : List String) :
    Proc.Keeps Mute (checkEntityManagementCap env message caps) := by
  refine Proc.Keeps.holding ?_ _ _
  exact (Proc.keeps_look _).bind fun _ => (Proc.keeps_ofExcept _).mapErr _

theorem mute_fetchEntityNode (name : String) : Proc.Keeps Mute (fetchEntityNode env name) := by
  refine mute_loadManifest.bind fun m => ?_
  split
  · exact Proc.keeps_fail _
  · exact (mute_kuboCall _).mapErr _

theorem mute_updateEntityNode (name : String) (entity : EntityNode) :
    Proc.Keeps Mute (updateEntityNode env name entity) :=
  ((mute_kuboCall _).mapErr _).bind fun _ => (mute_withManifestCrud _).bind fun _ =>
    Proc.keeps_pure _

theorem mute_linkEntity (name path : String) :
    Proc.Keeps Mute (linkEntity env message name path) := by
  have hresolve : Proc.Keeps Mute (dagResolve env path) := by
    unfold dagResolve
    split
    · exact mute_kuboCall _
    · exact Proc.keeps_pure _
  refine (hresolve.mapErr _).bind fun cid => ((mute_kuboCall _).mapErr _).bind fun node => ?_
  exact (mute_checkEntityManagementCap _).bind fun _ => (mute_withManifestCrud _).bind fun _ =>
    Proc.keeps_pure _

theorem mute_registerEntityPlugin (name : String) (node : EntityNode) :
    Proc.Keeps Mute (registerEntityPlugin env name node) := by
  have hkind : Proc.Keeps Mute (lookupKind env node.kind) := by
    refine Proc.Keeps.holding ((Proc.keeps_look _).bind fun known => ?_) _ _
    split
    · exact Proc.keeps_pure _
    · refine mute_loadManifest.attempt.bind fun r => ?_
      split
      · exact Proc.keeps_pure _
      · split
        · exact Proc.keeps_pure _
        · exact (mute_kuboCall _).attempt.bind fun _ => Proc.keeps_pure _
  refine Proc.Keeps.bind (hkind.bind fun k => ?_) fun o => ?_
  · split
    · exact Proc.keeps_pure _
    · refine ((keeps_load_called _ _ _).mono fun _ _ => Called.mute).attempt.bind fun r => ?_
      split
      · exact Proc.keeps_pure _
      · exact Proc.keeps_pure _
  · split
    · exact mute_writing _ _
    · exact Proc.keeps_pure _

end Mute

/-! ## The reply -/

/-- No reply has gone out. -/
def NoReply (w w' : World) : Prop := w'.io.replies = w.io.replies

instance : IsPreorder World NoReply where
  refl _ := rfl
  trans _ _ _ h h' := h'.trans h

theorem Mute.noReply {w w' : World} (h : Mute w w') : NoReply w w' := h.replies

theorem sendCrudReply_replies {env : Env} {message : Message} (body : ReplyBody) (w : World) :
    (sendCrudReply env message body [] w).2.io.replies = w.io.replies ∨
      ∃ reply, reply.body = body ∧
        (sendCrudReply env message body [] w).2.io.replies = w.io.replies ++ [reply] := by
  unfold sendCrudReply
  split
  · exact .inl rfl
  · rw [nextCall_bind]
    cases env.deliver w.io.calls with
    | sent => exact .inr ⟨_, rfl, rfl⟩
    | _ => exact .inl rfl

/-- The process sends one reply. -/
def Replied {α : Type} (p : M α) (w : World) (reply : Reply) : Prop :=
  (p [] w).2.io.replies = w.io.replies ++ [reply]

section Replied

variable {α : Type} {env : Env} {message : Message} {w : World} {reply : Reply}

theorem not_replied {p : M α} (h : NoReply w (p [] w).2) : ¬ Replied p w reply := by
  intro hreply
  rw [Replied, show (p [] w).2.io.replies = _ from h] at hreply
  exact absurd (congrArg List.length hreply) (by simp)

/-- A reply after a part that sends none comes from the rest. -/
theorem Replied.bind {p : M α} {f : α → M Unit} (hp : Proc.Keeps Mute p)
    (h : Replied (p >>= f) w reply) : ∃ a w1, p [] w = (.ok a, w1) ∧ Replied (f a) w1 reply := by
  have hsilent : NoReply w (p [] w).2 := (hp [] w).noReply
  rcases hrun : p [] w with ⟨o, w1⟩
  rw [hrun] at hsilent
  cases o with
  | ok a =>
    refine ⟨a, w1, rfl, ?_⟩
    rw [Replied, Proc.bind_of_ok hrun] at h
    rw [Replied, h, show w1.io.replies = _ from hsilent]
  | err e =>
    refine absurd h (not_replied ?_)
    rw [Proc.bind_of_err hrun]
    exact hsilent
  | stuck =>
    refine absurd h (not_replied ?_)
    rw [Proc.bind_of_stuck hrun]
    exact hsilent

/-- A reply that went out has the body that was sent. -/
theorem Replied.body {body : ReplyBody} (h : Replied (sendCrudReply env message body) w reply) :
    reply.body = body := by
  rcases @sendCrudReply_replies env message body w with hnone | ⟨reply', hbody, hone⟩
  · exact absurd h (not_replied hnone)
  · obtain rfl : reply' = reply := by simpa using hone.symm.trans h
    exact hbody

/-- Where replies go out, what is sent is the reply. -/
theorem exists_replied (body : ReplyBody) (w : World)
    (hsender : (env.parseDid message.from).isNone = false) (hsent : ∀ n, env.deliver n = .sent) :
    ∃ reply, reply.body = body ∧ Replied (sendCrudReply env message body) w reply := by
  unfold Replied sendCrudReply
  rw [hsender, if_neg Bool.false_ne_true, nextCall_bind, hsent]
  exact ⟨_, rfl, rfl⟩

/-- A turn that replies passed the gate, and ran the handler of its request. -/
theorem Replied.handler {ns : String} {rest : List String} {args : Args}
    (hreq : crudRequest env message = some (ns, rest, args))
    (h : Replied (crudTurn env message) w reply) :
    PassesCrudGate env w.rt message.from ∧ Replied (handleNs env message ns rest args) w reply := by
  rcases crudTurn_cases env message w with ⟨hgate, -⟩ | ⟨e, herr⟩
  · rw [Replied, crudTurn_of_request hreq hgate] at h
    exact ⟨hgate, h⟩
  · refine absurd h (not_replied ?_)
    rw [herr]
    exact refl_of NoReply w

end Replied

/-- The message is answered with the body. -/
def AnsweredWith (env : Env) (message : Message) (w : World) (body : ReplyBody) : Prop :=
  ∃ reply, reply.body = body ∧ Replied (crudTurn env message) w reply

end MaRuntime
