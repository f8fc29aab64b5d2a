import MaRuntime.I18n
import MaRuntime.LeastPrivilege
import MaRuntime.MuteHandlers
import MaRuntime.Replies

/-!
# Who gets an answer

The daemon itself answers messages over three protocols. `Answering` is the way in which each of
its handlers ends: one reply, as its last act and only if it succeeds, or none. `Exchange` is a
piece of work with the answer to it.

* **`answers_run`**: in a run, each message is answered at most once, by its own protocol, to its
  sender and under its id, and to a sender that the gate refuses nothing is ever said.
* **`error_texts`**: a localised error is one of `errorIds`; four of them are sent as their bare key
  in every language, since no table lists them.
-/

namespace MaRuntime

open Lib (Cbor Outcome Proc Run)

/-! ## Before the reply -/

/-- No reply has gone out. Calls went on. -/
structure Unanswered (w w' : World) : Prop where
  replies : w'.io.replies = w.io.replies
  calls : w.io.calls ≤ w'.io.calls

instance : IsPreorder World Unanswered where
  refl _ := ⟨rfl, le_refl _⟩
  trans _ _ _ h h' := ⟨h'.replies.trans h.replies, h.calls.trans h'.calls⟩

theorem keeps_unanswered {α : Type} {p : M α} (h : Proc.Keeps Mute p) :
    Proc.Keeps Unanswered p :=
  h.mono fun _ _ hmute => ⟨hmute.replies, hmute.calls⟩

theorem MuteOrOrders.unanswered {env : Env} {entity : EntityPlugin} {input : CastInput}
    {w w' : World} (h : MuteOrOrders env entity input w w') : Unanswered w w' := by
  rcases h with hmute | ⟨term, -, horders⟩
  · exact ⟨hmute.replies, hmute.calls⟩
  · exact ⟨horders.replies, horders.calls⟩

theorem keeps_dispatch_unanswered {env : Env} (entity : EntityPlugin) (input : CastInput) :
    Proc.Keeps Unanswered (dispatch env entity input) :=
  (keeps_dispatch entity input).mono fun _ _ => MuteOrOrders.unanswered

/-- **A plugin that a message gets to is all that speaks**: the daemon says nothing of its own. -/
theorem keeps_handleEntityPluginMessage_unanswered {env : Env} {message : Message} (term : Cbor)
    (entity : EntityPlugin) :
    Proc.Keeps Unanswered (handleEntityPluginMessage env message term entity) :=
  (keeps_unanswered (mute_authorizeEntity term entity)).bind fun _ =>
    (keeps_dispatch_unanswered entity _).bind fun result =>
      keeps_unanswered (mute_processResult entity result)

theorem keeps_dispatchScheduled_unanswered {env : Env} (nowNanos : UInt64) (id fragment : String)
    (content : Bytes) :
    Proc.Keeps Unanswered (dispatchScheduled env nowNanos id fragment content) := by
  refine (keeps_unanswered (mute_reading _ _)).bind fun o => ?_
  split
  · exact Proc.keeps_pure _
  · refine (keeps_dispatch_unanswered _ _).attempt.bind fun r => ?_
    split
    · exact keeps_unanswered (mute_persistPending _ _)
    · exact Proc.keeps_pure _

/-! ## One reply, or none -/

/-- One reply was sent, with success, or none, and then the end is one of `silent`. -/
inductive Answered (spoken : Reply → Prop) (silent : Outcome Error Unit → World → Prop)
    (w : World) : Outcome Error Unit × World → Prop where
  | replied {w' : World} (reply : Reply) (hspoken : spoken reply)
      (hreplies : w'.io.replies = w.io.replies ++ [reply]) :
      Answered spoken silent w (.ok (), w')
  | silence {o : Outcome Error Unit} {w' : World} (hnone : Unanswered w w')
      (hsilent : silent o w') :
      Answered spoken silent w (o, w')

/-- The process answers, once or not at all, in an exchange that began at `w0`. -/
def Answering (w0 : World) (spoken : Reply → Prop) (silent : Outcome Error Unit → World → Prop)
    (p : M Unit) : Prop :=
  ∀ g w, w0.io.calls ≤ w.io.calls → Answered spoken silent w (p g w)

/-- The last call since `w0` was a delivery, and this became of it. -/
def Delivered (env : Env) (w0 w : World) (delivery : Delivery) : Prop :=
  ∃ n, w0.io.calls ≤ n ∧ w.io.calls = n + 1 ∧ env.deliver n = delivery

section Answering

variable {spoken : Reply → Prop} {silent : Outcome Error Unit → World → Prop} {w0 : World}

theorem Answered.after {w w1 : World} {out : Outcome Error Unit × World} (hquiet : Unanswered w w1)
    (h : Answered spoken silent w1 out) : Answered spoken silent w out := by
  cases h with
  | replied reply hspoken hreplies =>
    exact .replied reply hspoken (hreplies.trans (congrArg (· ++ [reply]) hquiet.replies))
  | silence hnone hsilent => exact .silence (trans_of Unanswered hquiet hnone) hsilent

theorem Answered.mono {spoken' : Reply → Prop} {w : World} {out : Outcome Error Unit × World}
    (hmore : ∀ reply, spoken reply → spoken' reply) (h : Answered spoken silent w out) :
    Answered spoken' silent w out := by
  cases h with
  | replied reply hspoken hreplies => exact .replied reply (hmore reply hspoken) hreplies
  | silence hnone hsilent => exact .silence hnone hsilent

theorem answering_fail {e : Error} (h : ∀ w, silent (.err e) w) :
    Answering w0 spoken silent (Proc.fail e) :=
  fun _ w _ => .silence (refl_of Unanswered w) (h w)

/-- **A part that sends nothing, then the answer**. -/
theorem Answering.bind {α : Type} {p : M α} {f : α → M Unit} (hp : Proc.Keeps Unanswered p)
    (hfails : ∀ g w e w', p g w = (.err e, w') → silent (.err e) w')
    (hstuck : ∀ w, silent .stuck w) (hf : ∀ a, Answering w0 spoken silent (f a)) :
    Answering w0 spoken silent (p >>= f) := by
  intro g w hcalls
  have hquiet := hp g w
  rcases hrun : p g w with ⟨o, w1⟩
  rw [hrun] at hquiet
  cases o with
  | ok a =>
    rw [Proc.bind_of_ok hrun]
    exact (hf a g w1 (hcalls.trans hquiet.calls)).after hquiet
  | err e =>
    rw [Proc.bind_of_err hrun]
    exact .silence hquiet (hfails g w e w1 hrun)
  | stuck =>
    rw [Proc.bind_of_stuck hrun]
    exact .silence hquiet (hstuck w1)

/-- What the peer transport can do to a reply, with the texts of its two errors. -/
theorem answering_delivery {env : Env} {reply : Reply} {build send : Error → Error}
    (hspoken : spoken reply) (hunopened : ∀ w, Delivered env w0 w .noOutbox → silent (.ok ()) w)
    (hbuild : ∀ w e, Delivered env w0 w (.buildFailed e) → silent (.err (build e)) w)
    (hsend : ∀ w e, Delivered env w0 w (.sendFailed e) → silent (.err (send e)) w) :
    Answering w0 spoken silent (do
      let n ← nextCall
      match env.deliver n with
      | .buildFailed e => Proc.fail (build e)
      | .noOutbox => pure ()
      | .sendFailed e => Proc.fail (send e)
      | .sent => modifyIo fun io => { io with replies := io.replies ++ [reply] } : M Unit) := by
  intro g w hcalls
  rw [nextCall_bind]
  have hquiet : Unanswered w { w with io := { w.io with calls := w.io.calls + 1 } } :=
    ⟨rfl, Nat.le_succ _⟩
  cases hdeliver : env.deliver w.io.calls with
  | sent => exact .replied reply hspoken rfl
  | noOutbox => exact .silence hquiet (hunopened _ ⟨_, hcalls, rfl, hdeliver⟩)
  | buildFailed e => exact .silence hquiet (hbuild _ e ⟨_, hcalls, rfl, hdeliver⟩)
  | sendFailed e => exact .silence hquiet (hsend _ e ⟨_, hcalls, rfl, hdeliver⟩)

end Answering

/-- Silence means failure, or that the outbox of the reply could not be opened. -/
def Unopened (env : Env) (w0 : World) (o : Outcome Error Unit) (w : World) : Prop :=
  o = .ok () → Delivered env w0 w .noOutbox

theorem unopened_err (env : Env) (w0 : World) (e : Error) (w : World) :
    Unopened env w0 (.err e) w := fun h => nomatch h

theorem unopened_stuck (env : Env) (w0 w : World) : Unopened env w0 .stuck w := fun h => nomatch h

/-- A part that fails keeps silent. -/
theorem Answering.unopened {α : Type} {env : Env} {w0 : World} {spoken : Reply → Prop} {p : M α}
    {f : α → M Unit} (hp : Proc.Keeps Mute p)
    (hf : ∀ a, Answering w0 spoken (Unopened env w0) (f a)) :
    Answering w0 spoken (Unopened env w0) (p >>= f) :=
  .bind (keeps_unanswered hp) (fun _ _ e w' _ => unopened_err env w0 e w') (unopened_stuck env w0)
    hf

/-- The messages of the localised errors that the daemon sends. -/
def errorIds : List String :=
  ["cidv1-required", "config-key-no-delete", "config-key-not-manifest", "config-key-protected",
   "entity-name-invalid", "kind-not-found", "refuse-delete-root", "reserved-entity-name",
   "rpc-not-text-atom", "rpc-unknown-verb", "unknown-rpc-atom", "wrong-crud-protocol"]

/-- An error that is localised is one of these. -/
def ReplyBody.Known : ReplyBody → Prop
  | .i18nError key _ => key ∈ errorIds
  | _ => True

theorem known_i18nError {key : String} {args : List (String × String)} (hkey : key ∈ errorIds) :
    (ReplyBody.i18nError key args).Known := hkey

/-- The reply that a message gets over CRUD. -/
def crudReply (env : Env) (message : Message) (body : ReplyBody) : Reply :=
  { «to» := message.from, replyType := env.messageTypeCrudReply, replyTo := message.id, body }

/-- The reply that a message gets over RPC. -/
def rpcReply (env : Env) (message : Message) (body : ReplyBody) : Reply :=
  { «to» := message.from, replyType := env.messageTypeRpcReply, replyTo := message.id, body }

/-- The reply that a message gets over IPFS: to the `#rpc` fragment of the sender. -/
def ipfsReply (env : Env) (message : Message) (ipns : String) (cid : Cid) : Reply :=
  { «to» := s!"did:ma:{ipns}#rpc", replyType := env.messageTypeRpcReply, replyTo := message.id
    body := .okCid cid }

/-! ### CRUD -/

/-- A CRUD handler answers its message, or fails. It has nothing to do with the scheduler. -/
structure CrudAnswering (env : Env) (message : Message) (w0 : World) (p : M Unit) : Prop where
  answers : Answering w0
    (fun reply => ∃ body : ReplyBody, body.Known ∧ reply = crudReply env message body)
    (Unopened env w0) p
  unordered : Proc.Keeps Unordered p

section CrudAnswering

variable {env : Env} {message : Message} {w0 : World}

theorem CrudAnswering.after {α : Type} {p : M α} {f : α → M Unit} (hp : Proc.Keeps Mute p)
    (hf : ∀ a, CrudAnswering env message w0 (f a)) : CrudAnswering env message w0 (p >>= f) where
  answers := .unopened hp fun a => (hf a).answers
  unordered := (keeps_unordered hp).bind fun a => (hf a).unordered

theorem crudAnswering_fail (e : Error) : CrudAnswering env message w0 (Proc.fail e) where
  answers := answering_fail (unopened_err env w0 e)
  unordered := Proc.keeps_fail e

theorem crudAnswering_reply {body : ReplyBody} (hbody : body.Known) :
    CrudAnswering env message w0 (sendCrudReply env message body) := by
  unfold sendCrudReply
  dsimp only
  split
  · exact crudAnswering_fail _
  · constructor
    · exact answering_delivery ⟨body, hbody, rfl⟩ (fun _ h _ => h)
        (fun w _ _ => unopened_err env w0 _ w) fun w _ _ => unopened_err env w0 _ w
    · exact unordered_delivery

theorem crudAnswering_i18nError {key : String} {args : List (String × String)}
    (hkey : key ∈ errorIds) :
    CrudAnswering env message w0 (sendCrudI18nErrorf env message key args) :=
  crudAnswering_reply (known_i18nError hkey)

/-- A part that sends nothing, then a reply with what it came to. -/
theorem crudAnswering_of {α : Type} {p : M α} (hp : Proc.Keeps Mute p) {body : α → ReplyBody}
    (hbody : ∀ a, (body a).Known) :
    CrudAnswering env message w0 (p >>= fun a => sendCrudReply env message (body a)) :=
  .after hp fun a => crudAnswering_reply (hbody a)

theorem crudAnswering_handleConfigNs (rest : List String) (args : Args) :
    CrudAnswering env message w0 (handleConfigNs env message rest args) := by
  unfold handleConfigNs handleConfigNsWith
  split
  · split
    · exact .after mute_loadManifest fun m =>
        crudAnswering_of (mute_reading _ _) fun _ => trivial
    · exact crudAnswering_i18nError (by decide)
  · rename_i key
    split
    · exact crudAnswering_i18nError (by decide)
    · split
      · exact crudAnswering_of (mute_configValue key) fun _ => trivial
      · split
        · exact crudAnswering_i18nError (by decide)
        · exact .after (mute_withManifestCrud _) fun _ => crudAnswering_reply trivial
      · dsimp only
        split
        · exact .after (mute_writeDaemonKey _ _) fun _ => crudAnswering_reply trivial
        · split
          · exact crudAnswering_i18nError (by decide)
          · exact .after (mute_withManifestCrud _) fun _ => crudAnswering_reply trivial
      · exact crudAnswering_fail _
  · exact crudAnswering_fail _

theorem crudAnswering_handleKindsNs (rest : List String) (args : Args) :
    CrudAnswering env message w0 (handleKindsNs env message rest args) := by
  unfold handleKindsNs handleKindsNsWith
  split
  · exact crudAnswering_fail _
  · split
    · exact crudAnswering_of mute_loadManifest fun _ => trivial
    · split
      · exact crudAnswering_i18nError (by decide)
      · exact .after (mute_withManifestCrud _) fun _ => crudAnswering_reply trivial
    · exact .after (mute_withManifestCrud _) fun _ => crudAnswering_reply trivial
    · exact crudAnswering_fail _
    · refine .after mute_loadManifest fun m => ?_
      split
      · exact crudAnswering_of (mute_kuboCall _) fun _ => trivial
      · exact crudAnswering_i18nError (by decide)
    · exact crudAnswering_i18nError (by decide)
    · exact crudAnswering_fail _

theorem crudAnswering_handleRootAcl (args : Args) :
    CrudAnswering env message w0 (handleRootAcl env message args) := by
  unfold handleRootAcl handleRootAclWith
  split
  · exact crudAnswering_of mute_loadManifest fun _ => trivial
  · split
    · exact crudAnswering_i18nError (by decide)
    · exact .after ((mute_loadAclFromCid _).mapErr _) fun acl =>
        .after (mute_withManifestCrud _) fun _ =>
          .after (mute_writing _ _) fun _ => crudAnswering_reply trivial
  · exact crudAnswering_i18nError (by decide)
  · exact crudAnswering_fail _

theorem crudAnswering_handleRootAcls (rest : List String) (args : Args) :
    CrudAnswering env message w0 (handleRootAcls env message rest args) := by
  unfold handleRootAcls handleRootAclsWith
  split
  · exact crudAnswering_of mute_loadManifest fun _ => trivial
  · refine .after mute_loadManifest fun m => ?_
    split
    · exact crudAnswering_reply trivial
    · exact crudAnswering_fail _
  · split
    · exact crudAnswering_i18nError (by decide)
    · exact .after (mute_withManifestCrud _) fun _ =>
        .after (mute_aclCacheUpdate _ _) fun _ => crudAnswering_reply trivial
  · exact .after (mute_withManifestCrud _) fun _ =>
      .after (mute_writing _ _) fun _ => crudAnswering_reply trivial
  · exact crudAnswering_fail _

theorem crudAnswering_handleEntityField (name field : String) (subPath : List String)
    (args : Args) :
    CrudAnswering env message w0 (handleEntityField env message name field subPath args) := by
  have hupdate (entity : EntityNode) : CrudAnswering env message w0 (do
      let entityCid ← updateEntityNode env name entity
      sendCrudReply env message (.okCid entityCid)) :=
    crudAnswering_of (mute_updateEntityNode _ _) fun _ => trivial
  unfold handleEntityField handleEntityFieldWith
  split
  · refine .after (mute_fetchEntityNode name) fun entity => ?_
    split
    · exact crudAnswering_reply trivial
    · exact crudAnswering_fail _
  · split
    · unfold handleEntityAclFieldWith
      dsimp only
      split
      · exact crudAnswering_fail _
      · split
        · exact crudAnswering_of (mute_fetchEntityNode name) fun _ => trivial
        · refine .after mute_loadManifest fun m => ?_
          split
          · exact crudAnswering_fail _
          · exact .after (mute_fetchEntityNode name) fun entity => hupdate _
        · exact .after (mute_fetchEntityNode name) fun entity => hupdate _
        · exact crudAnswering_fail _
    · exact crudAnswering_fail _

theorem crudAnswering_handleEntitiesNs (rest : List String) (args : Args) :
    CrudAnswering env message w0 (handleEntitiesNs env message rest args) := by
  unfold handleEntitiesNs handleEntitiesNsWith
  split
  · split
    · exact crudAnswering_of (mute_reading _ _) fun _ => trivial
    · exact crudAnswering_i18nError (by decide)
  · rename_i name
    unfold handleSingleEntityWith
    split
    · refine .after mute_loadManifest fun m => ?_
      split
      · exact crudAnswering_fail _
      · exact crudAnswering_of (mute_kuboCall _) fun _ => trivial
    · exact .after (mute_checkEntityManagementCap _) fun _ =>
        .after (mute_writing _ _) fun _ =>
          .after (mute_withManifestCrud _) fun _ => crudAnswering_reply trivial
    · unfold upsertEntityWith
      split
      · exact crudAnswering_i18nError (by decide)
      · split
        · exact crudAnswering_i18nError (by decide)
        · exact .after (mute_linkEntity _ _) fun _ =>
            .after (mute_registerEntityPlugin _ _) fun _ => crudAnswering_reply trivial
    · exact crudAnswering_fail _
  · exact crudAnswering_handleEntityField _ _ _ _

/-- **Past its gate**, a CRUD message is answered once if it succeeds, and not at all if it
fails. -/
theorem crudAnswering_dispatchManagement :
    CrudAnswering env message w0 (dispatchManagement env message) := by
  unfold dispatchManagement dispatchManagementWith
  split
  · exact crudAnswering_i18nError (by decide)
  · refine .after (Proc.keeps_ofExcept _) fun op => .after (Proc.keeps_ofExcept _) fun path => ?_
    obtain ⟨ns, rest⟩ := path
    show CrudAnswering env message w0 (handleNs env message ns rest op.target.2)
    unfold handleNs handleNsWith
    split
    · exact crudAnswering_handleEntitiesNs _ _
    · exact crudAnswering_handleKindsNs _ _
    · exact crudAnswering_handleConfigNs _ _
    · exact crudAnswering_handleRootAcl _
    · exact crudAnswering_handleRootAcls _ _
    · exact crudAnswering_i18nError (by decide)

end CrudAnswering

/-! ### RPC -/

/-- The message is `:ping` to the daemon itself. -/
def Pings (env : Env) (message : Message) : Prop :=
  Text.stripPrefix message.to (env.ourDid ++ "#") = none ∧
    env.codec.decode message.payload = some (.text ":ping")

/-- The message is for an entity that is registered. -/
def ToEntity (env : Env) (rt : Runtime) (message : Message) : Prop :=
  ∃ fragment entity, Text.stripPrefix message.to (env.ourDid ++ "#") = some fragment ∧
    rt.entityRegistry[fragment]? = some entity

/-- The reply did not get to the sender. -/
def Undeliverable (env : Env) (message : Message) (w0 w : World) : Prop :=
  env.parseDid message.from = none ∨
    ∃ e, Delivered env w0 w (.buildFailed e) ∨ Delivered env w0 w (.sendFailed e)

/-- What silence means over RPC: to a message that succeeded, that it went to an entity; to one that
failed, that it was refused, was none, or that its reply failed. -/
def RpcSilent (env : Env) (message : Message) (w0 : World) : Outcome Error Unit → World → Prop
  | .ok (), w => ToEntity env w0.rt message ∨ Delivered env w0 w .noOutbox
  | .err _, w => ¬ PassesRpcGate env w0.rt message.from ∨
      message.messageType ≠ env.messageTypeRpc ∨ env.codec.decode message.payload = none ∨
      Undeliverable env message w0 w
  | .stuck, _ => True

/-- What the daemon says over RPC: `:pong`, or an error. -/
def RpcSpoken (env : Env) (message : Message) (reply : Reply) : Prop :=
  ∃ body : ReplyBody, body.Known ∧ reply = rpcReply env message body ∧
    (body = .pong ∧ Pings env message ∨ body.isSuccess = false)

section Rpc

variable {env : Env} {message : Message} {w0 : World}

/-- **Who does not pass the transport gate is refused**, and nothing else happens. -/
theorem rpcGate_cases (w : World) :
    PassesRpcGate env w.rt message.from ∧
        rpcGate env message w.rt.rootAcl rpcGuards w = (.ok (), w) ∨
      ¬ PassesRpcGate env w.rt message.from ∧
        ∃ e, rpcGate env message w.rt.rootAcl rpcGuards w = (.err e, w) := by
  unfold PassesRpcGate rpcGate
  by_cases hintra : intraRuntime env message.from = true
  · rw [hintra]
    exact .inl ⟨.inl rfl, rfl⟩
  · rw [Bool.eq_false_of_not_eq_true hintra]
    have hread : readStats (fun s => s.owners) rpcGuards w = (.ok w.rt.stats.owners, w) := rfl
    by_cases howner : isOwner env.core w.rt.stats.owners message.from = true
    · refine .inl ⟨.inr (.inl howner), (Proc.bind_of_ok hread).trans ?_⟩
      rw [howner]
      rfl
    · rw [Bool.eq_false_of_not_eq_true howner]
      cases hcheck : checkFullNoGroups env.core w.rt.rootAcl message.from [capRpc] with
      | ok u =>
        refine .inl ⟨.inr (.inr rfl), (Proc.bind_of_ok hread).trans ?_⟩
        rw [Bool.eq_false_of_not_eq_true howner]
        rfl
      | error e =>
        refine .inr ⟨by simp, e, (Proc.bind_of_ok hread).trans ?_⟩
        rw [Bool.eq_false_of_not_eq_true howner]
        rfl

theorem answering_sendRpcReply {body : ReplyBody} (hknown : body.Known)
    (hbody : body = .pong ∧ Pings env message ∨ body.isSuccess = false) :
    Answering w0 (RpcSpoken env message) (RpcSilent env message w0)
      (sendRpcReply env message body) := by
  have undeliverable {e : Error} {w : World} (h : Undeliverable env message w0 w) :
      RpcSilent env message w0 (.err e) w := .inr (.inr (.inr h))
  unfold sendRpcReply
  dsimp only
  split
  · rename_i hsender
    exact answering_fail fun _ => undeliverable (.inl (Option.isNone_iff_eq_none.mp hsender))
  · exact answering_delivery ⟨body, hknown, rfl, hbody⟩ (fun _ h => .inr h)
      (fun _ e h => undeliverable (.inr ⟨e, .inl h⟩))
      fun _ e h => undeliverable (.inr ⟨e, .inr h⟩)

/-- A message to an entity: whatever goes wrong there is reported to the sender. -/
theorem answering_dispatchFragment {w : World} {term : Cbor} {fragment : String}
    (hregistry : w.rt.entityRegistry = w0.rt.entityRegistry) (hcalls : w0.io.calls ≤ w.io.calls)
    (hfragment : Text.stripPrefix message.to (env.ourDid ++ "#") = some fragment) :
    Answered (RpcSpoken env message) (RpcSilent env message w0) w
      (dispatchFragment env message term fragment rpcGuards w) := by
  have hlook : reading .entityRegistry (getRt fun rt => rt.entityRegistry[fragment]?) rpcGuards w =
      (.ok w0.rt.entityRegistry[fragment]?, w) := by
    rw [← hregistry]
    rfl
  unfold dispatchFragment dispatchFragmentWith
  rw [Proc.bind_of_ok hlook]
  cases hentity : w0.rt.entityRegistry[fragment]? with
  | none => exact answering_sendRpcReply (by trivial) (.inr rfl) _ w hcalls
  | some entity =>
    have hto : ToEntity env w0.rt message := ⟨fragment, entity, hfragment, hentity⟩
    refine Answering.bind (keeps_handleEntityPluginMessage_unanswered term entity).attempt ?_
      (fun _ => trivial) (fun r => ?_) _ w hcalls
    · intro g w1 e w2 he
      unfold Proc.attempt at he
      split at he
      · cases he
      · cases he
      · cases he
    · cases r with
      | ok u => exact fun g w1 _ => .silence (refl_of Unanswered w1) (.inl hto)
      | error e => exact answering_sendRpcReply trivial (.inr rfl)

/-- **How an RPC message is answered.** -/
theorem rpcTurn_answered (w : World) :
    Answered (fun reply => PassesRpcGate env w.rt message.from ∧ RpcSpoken env message reply)
      (RpcSilent env message w) w (rpcTurn env message [] w) := by
  have hcounted : Unanswered w (counted w) := ⟨rfl, le_refl _⟩
  refine Answered.after hcounted ?_
  show Answered _ _ _ (handleRpcMessage env message w.rt.rootAcl rpcGuards (counted w))
  unfold handleRpcMessage handleRpcMessageWith
  rcases @rpcGate_cases env message (counted w) with ⟨hgate, hrun⟩ | ⟨hgate, e, hrun⟩
  · have hgate : PassesRpcGate env w.rt message.from := hgate
    have hrun : rpcGate env message w.rt.rootAcl rpcGuards (counted w) = (.ok (), counted w) :=
      hrun
    have reply {body : ReplyBody} (hknown : body.Known)
        (hbody : body = .pong ∧ Pings env message ∨ body.isSuccess = false) :
        Answering w (RpcSpoken env message) (RpcSilent env message w)
          (sendRpcReply env message body) := answering_sendRpcReply hknown hbody
    rw [Proc.bind_of_ok hrun]
    refine .mono (fun _ (hspoken : RpcSpoken env message _) => ⟨hgate, hspoken⟩) ?_
    have fail {e : Error} (h : ∀ w', RpcSilent env message w (.err e) w') :
        Answering w (RpcSpoken env message) (RpcSilent env message w) (Proc.fail e) :=
      answering_fail h
    split
    · rename_i htype
      exact fail (fun _ => .inr (.inl htype)) _ _ (le_refl _)
    · cases hterm : env.codec.decode message.payload with
      | none =>
        exact fail (fun _ => .inr (.inr (.inl hterm))) _ _ (le_refl _)
      | some term =>
        cases hfragment : Text.stripPrefix message.to (env.ourDid ++ "#") with
        | some fragment => exact answering_dispatchFragment rfl (le_refl _) hfragment
        | none =>
          dsimp only
          split
          · split
            · rename_i hping
              subst hping
              exact reply (by trivial) (.inl ⟨rfl, hfragment, hterm⟩) _ _ (le_refl _)
            · exact reply (known_i18nError (by decide)) (.inr rfl) _ _ (le_refl _)
          · exact reply (known_i18nError (by decide)) (.inr rfl) _ _ (le_refl _)
  · have hrun : rpcGate env message w.rt.rootAcl rpcGuards (counted w) = (.err e, counted w) :=
      hrun
    rw [Proc.bind_of_err hrun]
    exact .silence (refl_of Unanswered _) (.inl hgate)

end Rpc

/-! ### Turns -/

section Turns

variable {env : Env} {message : Message}

/-- **How a CRUD message is answered.** -/
theorem crudTurn_answered (w : World) :
    Answered (fun reply => PassesCrudGate env w.rt message.from ∧
        ∃ body : ReplyBody, body.Known ∧ reply = crudReply env message body)
      (Unopened env w) w (crudTurn env message [] w) := by
  rcases crudTurn_cases env message w with ⟨hgate, hrun⟩ | ⟨e, hrun⟩
  · rw [hrun]
    exact (crudAnswering_dispatchManagement.answers [] w (le_refl _)).mono fun _ hspoken =>
      ⟨hgate, hspoken⟩
  · rw [hrun]
    exact .silence (refl_of Unanswered w) (unopened_err env w e w)

/-- **How an IPFS message is answered.** -/
theorem ipfsTurn_answered (w : World) :
    Answered (fun reply => checkFullNoGroups env.core w.rt.rootAcl message.from [capIpfs] = .ok () ∧
        ∃ ipns cid, env.parseDid message.from = some ipns ∧ reply = ipfsReply env message ipns cid)
      (Unopened env w) w (ipfsTurn env message [] w) := by
  let asked : World := { w with rt := { w.rt with stats :=
    { w.rt.stats with ipfsRequests := w.rt.stats.ipfsRequests + 1 } } }
  have hasked : Unanswered w asked := ⟨rfl, le_refl _⟩
  refine Answered.after hasked ?_
  show Answered _ _ _ (handleIpfsMessage env message w.rt.rootAcl [(.rootAcl, .read)] asked)
  unfold handleIpfsMessage ipfsGate
  cases hgate : checkFullNoGroups env.core w.rt.rootAcl message.from [capIpfs] with
  | error e => exact .silence (refl_of Unanswered asked) (unopened_err env w e asked)
  | ok u =>
    rw [Proc.bind_of_ok (a := u) (t := asked) rfl]
    refine .mono (fun _ (hspoken : ∃ ipns cid,
      env.parseDid message.from = some ipns ∧ _ = ipfsReply env message ipns cid) =>
        ⟨rfl, hspoken⟩) ?_
    refine Answering.unopened mute_nextCall (fun n => ?_) _ asked hasked.calls
    refine .unopened ((Proc.keeps_ofExcept _).mapErr _) fun _ =>
      .unopened ((Proc.keeps_ofExcept _).mapErr _) fun request =>
        .unopened (mute_publish request) fun cid => ?_
    unfold sendIpfsReply
    dsimp only
    split
    · exact answering_fail (unopened_err env w _)
    · rename_i ipns hsender
      exact answering_delivery ⟨ipns, cid, hsender, rfl⟩ (fun _ h _ => h)
        (fun w' _ _ => unopened_err env w _ w') fun w' _ _ => unopened_err env w _ w'

end Turns

/-! ## Runs -/

/-- How work in the state may be answered, by its outcome and the state it leaves. -/
inductive Answer (env : Env) (w : World) :
    HostEvent → Outcome Error Unit → World → Option Reply → Prop where
  | crud {message : Message} {body : ReplyBody} {w' : World}
      (hgate : PassesCrudGate env w.rt message.from) (hknown : body.Known) :
      Answer env w (.turn (.crud message)) (.ok ()) w' (some (crudReply env message body))
  | noCrud {message : Message} {o : Outcome Error Unit} {w' : World} (h : Unopened env w o w') :
      Answer env w (.turn (.crud message)) o w' none
  | rpc {message : Message} {reply : Reply} {w' : World}
      (hgate : PassesRpcGate env w.rt message.from) (hspoken : RpcSpoken env message reply) :
      Answer env w (.turn (.rpc message)) (.ok ()) w' (some reply)
  | noRpc {message : Message} {o : Outcome Error Unit} {w' : World}
      (h : RpcSilent env message w o w') : Answer env w (.turn (.rpc message)) o w' none
  | ipfs {message : Message} {ipns : String} {cid : Cid} {w' : World}
      (hgate : checkFullNoGroups env.core w.rt.rootAcl message.from [capIpfs] = .ok ())
      (hsender : env.parseDid message.from = some ipns) :
      Answer env w (.turn (.ipfs message)) (.ok ()) w' (some (ipfsReply env message ipns cid))
  | noIpfs {message : Message} {o : Outcome Error Unit} {w' : World} (h : Unopened env w o w') :
      Answer env w (.turn (.ipfs message)) o w' none
  | claim {owner : String} {o : Outcome Error Unit} {w' : World} :
      Answer env w (.turn (.claim owner)) o w' none
  | scheduled {nowNanos : UInt64} {id fragment : String} {content : Bytes}
      {o : Outcome Error Unit} {w' : World} :
      Answer env w (.scheduled nowNanos id fragment content) o w' none
  | shutdown {o : Outcome Error Unit} {w' : World} : Answer env w .shutdown o w' none

/-- A piece of work, how it ended and what was answered. -/
abbrev Exchange := HostEvent × Outcome Error Unit × Option Reply

/-- The work is done, and answered as it may be. -/
inductive ExchangeStep (env : Env) (w : World) : Exchange → World → Prop where
  | run {e : HostEvent} {o : Outcome Error Unit} {answer : Option Reply} {w' : World}
      (hrun : e.run env [] w = (o, w')) (hanswer : Answer env w e o w' answer)
      (hreplies : w'.io.replies = w.io.replies ++ answer.toList) :
      ExchangeStep env w (e, o, answer) w'

/-- The message that an event brings. -/
def HostEvent.message : HostEvent → Option Message
  | .turn (.rpc message) => some message
  | .turn (.crud message) => some message
  | .turn (.ipfs message) => some message
  | _ => none

section Runs

variable {env : Env}

/-- What was sent, as a step. -/
theorem Answered.step {spoken : Reply → Prop} {silent : Outcome Error Unit → World → Prop}
    {w : World} {e : HostEvent} (h : Answered spoken silent w (e.run env [] w))
    (hspoken : ∀ reply w', spoken reply → Answer env w e (.ok ()) w' (some reply))
    (hsilent : ∀ o w', silent o w' → Answer env w e o w' none) :
    ∃ answer, ExchangeStep env w (e, answer) (e.run env [] w).2 := by
  generalize hout : e.run env [] w = out at h
  cases h with
  | replied reply hsays hreplies => exact ⟨_, .run hout (hspoken reply _ hsays) hreplies⟩
  | silence hnone hends =>
    exact ⟨_, .run hout (hsilent _ _ hends) (hnone.replies.trans (List.append_nil _).symm)⟩

/-- A piece of work that brings no message says nothing. -/
theorem exchangeStep_of_unanswered {w : World} {e : HostEvent}
    (h : Proc.Keeps Unanswered (e.run env)) (hanswer : ∀ o w', Answer env w e o w' none) :
    ∃ answer, ExchangeStep env w (e, answer) (e.run env [] w).2 :=
  ⟨_, .run rfl (hanswer _ _) ((h [] w).replies.trans (List.append_nil _).symm)⟩

/-- **Every piece of work is answered as it may be.** -/
theorem HostStep.exchange {w w' : World} {e : HostEvent} (h : HostStep env w e w') :
    ∃ answer, ExchangeStep env w (e, answer) w' := by
  obtain @⟨e⟩ := h
  cases e with
  | turn t =>
    cases t with
    | rpc message =>
      exact Answered.step (rpcTurn_answered w) (fun _ _ h => .rpc h.1 h.2) fun _ _ h => .noRpc h
    | crud message =>
      refine Answered.step (crudTurn_answered w) (fun reply _ h => ?_) fun _ _ h => .noCrud h
      obtain ⟨hgate, body, hknown, rfl⟩ := h
      exact .crud hgate hknown
    | ipfs message =>
      refine Answered.step (ipfsTurn_answered w) (fun reply _ h => ?_) fun _ _ h => .noIpfs h
      obtain ⟨hgate, ipns, cid, hsender, rfl⟩ := h
      exact .ipfs hgate hsender
    | claim owner =>
      exact exchangeStep_of_unanswered
        (keeps_unanswered ((mute_handleClaim owner).bind fun _ => Proc.keeps_pure _))
        fun _ _ => .claim
  | scheduled nowNanos id fragment content =>
    exact exchangeStep_of_unanswered (keeps_dispatchScheduled_unanswered _ _ _ _)
      fun _ _ => .scheduled
  | shutdown =>
    exact exchangeStep_of_unanswered (keeps_unanswered mute_shutdown) fun _ _ => .shutdown

/-- The answer to a message is under its id. -/
theorem Answer.replyTo {w w' : World} {e : HostEvent} {o : Outcome Error Unit} {reply : Reply}
    (h : Answer env w e o w' (some reply)) :
    ∃ message, e.message = some message ∧ reply.replyTo = message.id := by
  cases h with
  | crud => exact ⟨_, rfl, rfl⟩
  | rpc _ hspoken =>
    obtain ⟨body, -, rfl, -⟩ := hspoken
    exact ⟨_, rfl, rfl⟩
  | ipfs => exact ⟨_, rfl, rfl⟩

/-- The replies of a run are its answers, in order. -/
theorem exchanges_replies {w w' : World} {xs : List Exchange}
    (hrun : Run (ExchangeStep env) w xs w') :
    w'.io.replies = w.io.replies ++ xs.filterMap (·.2.2) := by
  induction hrun with
  | nil w => exact (List.append_nil _).symm
  | @cons w w1 w' x xs hstep _ ih =>
    obtain @⟨e, o, answer, _, -, -, hreplies⟩ := hstep
    rw [ih, hreplies, List.append_assoc, List.filterMap_cons]
    cases answer with
    | none => rfl
    | some reply => rfl

/-- **Who gets an answer**: in a run, each message gets at most one reply of the daemon, by its own
protocol, from a state in which its sender passes the gate, and the work without a message none.
Silence tells what it means (`Answer`). -/
theorem answers_run {w w' : World} {es : List HostEvent} (hrun : Run (HostStep env) w es w') :
    ∃ xs : List Exchange, xs.map Prod.fst = es ∧ Run (ExchangeStep env) w xs w' ∧
      w'.io.replies = w.io.replies ++ xs.filterMap (·.2.2) := by
  obtain ⟨xs, hxs, hrun'⟩ := hrun.labelled fun _ _ _ hstep => HostStep.exchange hstep
  exact ⟨xs, hxs, hrun', exchanges_replies hrun'⟩

/-- A `:ping` to the daemon with the birds. -/
def pingBirds (sender : String) : Message :=
  { castParrot with
    id := sender, «from» := sender, «to» := "did:ma:runtime"
    payload := Lib.rfcCodec.encode (.text ":ping") }

/-- The daemon after a ping of its owner and one of a stranger. -/
def birdsPinged : World :=
  (rpcTurn birdEnv (pingBirds "did:ma:mallory") []
    (rpcTurn birdEnv (pingBirds "did:ma:alice") [] birdStart).2).2

set_option maxRecDepth 100000 in
/-- The owner gets the only answer. -/
theorem answers_run_pings :
    birdsPinged.io.replies.map (fun reply => (reply.to, reply.replyTo)) =
        [("did:ma:alice", "did:ma:alice")] ∧
      ∃ xs : List Exchange, xs.map Prod.fst =
          [.turn (.rpc (pingBirds "did:ma:alice")), .turn (.rpc (pingBirds "did:ma:mallory"))] ∧
        Run (ExchangeStep birdEnv) birdStart xs birdsPinged := by
  have hpinged : Run (HostStep birdEnv) birdStart
      [.turn (.rpc (pingBirds "did:ma:alice")), .turn (.rpc (pingBirds "did:ma:mallory"))]
      birdsPinged :=
    .cons .run (.cons .run (.nil _))
  obtain ⟨xs, hxs, hrun, -⟩ := answers_run hpinged
  exact ⟨by decide +kernel, xs, hxs, hrun⟩

/-- **No more replies than messages**, under each id. -/
theorem replies_le_messages {w w' : World} {es : List HostEvent}
    (hrun : Run (HostStep env) w es w') (id : String) :
    w'.io.replies.countP (·.replyTo = id) ≤ w.io.replies.countP (·.replyTo = id) +
      es.countP (fun e => e.message.any (·.id = id)) := by
  induction hrun with
  | nil w => exact Nat.le_add_right _ _
  | @cons w w1 w' e es hstep _ ih =>
    obtain ⟨answer, hexchange⟩ := hstep.exchange
    obtain @⟨_, o, reply, _, -, hanswer, hreplies⟩ := hexchange
    have hfirst : w1.io.replies.countP (·.replyTo = id) ≤ w.io.replies.countP (·.replyTo = id) +
        [e].countP (fun e => e.message.any (·.id = id)) := by
      rw [hreplies, List.countP_append]
      refine Nat.add_le_add_left ?_ _
      cases reply with
      | none => exact Nat.zero_le _
      | some reply =>
        obtain ⟨message, hmessage, hid⟩ := hanswer.replyTo
        simp [hmessage, hid]
    have hsplit : (e :: es).countP (fun e => e.message.any (·.id = id)) =
        [e].countP (fun e => e.message.any (·.id = id)) +
          es.countP (fun e => e.message.any (·.id = id)) := @List.countP_append _ _ [e] es
    omega

end Runs

/-! ## What an error reads like -/

/-- The messages of errors that `MESSAGE_IDS` does not list. -/
def unlistedErrors : List String :=
  ["cidv1-required", "entity-name-invalid", "kind-not-found", "reserved-entity-name"]

theorem mem_unlistedErrors_iff :
    ∀ key ∈ errorIds, key ∈ unlistedErrors ↔ key ∉ messageIds := by decide +kernel

section Texts

variable {env : Env} {w w' : World} {e : HostEvent} {reply : Reply}

theorem Answer.known {o : Outcome Error Unit} (h : Answer env w e o w' (some reply)) :
    reply.body.Known := by
  cases h with
  | crud _ hknown => exact hknown
  | rpc _ hspoken =>
    obtain ⟨body, hknown, rfl, -⟩ := hspoken
    exact hknown
  | ipfs => exact trivial

/-- **A localised error that is sent is one of these.** -/
theorem HostStep.known (h : HostStep env w e w')
    (hsent : w'.io.replies = w.io.replies ++ [reply]) : reply.body.Known := by
  obtain ⟨answer, hexchange⟩ := h.exchange
  obtain @⟨_, o, answer, _, -, hanswer, hreplies⟩ := hexchange
  have hsame : answer.toList = [reply] := List.append_cancel_left (hreplies.symm.trans hsent)
  cases answer with
  | none => exact absurd hsame (by simp)
  | some sent =>
    obtain rfl : sent = reply := by simpa using hsame
    exact hanswer.known

/-- A text without placeholders takes no arguments. -/
theorem fillIn_of_plain {s : String} (hs : '%' ∉ s.toList) (args : List (String × String)) :
    fillIn s args = s := by
  unfold fillIn
  induction args with
  | nil => rfl
  | cons arg args ih =>
    have hpattern : ("%" ++ arg.1 ++ "%").toList = '%' :: (arg.1 ++ "%").toList := by
      simp
    rw [List.foldl_cons, Text.replace_of_notMem hpattern hs]
    exact ih

theorem plain_of_unlisted : ∀ key ∈ unlistedErrors, '%' ∉ key.toList := by decide +kernel

/-- **How a localised error reads**, whatever languages were loaded or switched to before, and
whatever language its receiver prefers: four messages have their bare key for a text. The others
have the text of a source for the language, compiled in or fetched in the run, if it is loaded, with
the arguments filled in. -/
theorem error_texts {C : Compiled} {ls : List LangEvent} {l : Langs}
    (hlangs : Run (LangStep C) {} ls l) (hstep : HostStep env w e w')
    (hsent : w'.io.replies = w.io.replies ++ [reply]) {key : String}
    {args : List (String × String)} (hbody : reply.body = .i18nError key args)
    (docLang : Option String) :
    key ∈ errorIds ∧
      (key ∈ unlistedErrors → l.tfLang (l.callerLang docLang) key args = key) ∧
      (key ∉ unlistedErrors → l.hasLang (l.callerLang docLang) = true →
        ∃ ftl, SourceIn C ls (l.callerLang docLang) ftl ∧
          l.tfLang (l.callerLang docLang) key args =
            fillIn (ftlText C ftl (l.callerLang docLang) key) args) := by
  have hknown := hstep.known hsent
  rw [hbody] at hknown
  have hkey : key ∈ errorIds := hknown
  have hparsed := langs_run hlangs
  refine ⟨hkey, fun hunlisted => ?_, fun hlisted hlang => ?_⟩
  · have hid := (mem_unlistedErrors_iff key hkey).mp hunlisted
    unfold Langs.tfLang
    rw [tLang_of_unlisted hparsed hid]
    exact fillIn_of_plain (plain_of_unlisted key hunlisted) args
  · have hid : key ∈ messageIds := by
      by_contra hid
      exact hlisted ((mem_unlistedErrors_iff key hkey).mpr hid)
    obtain ⟨ftl, hftl, htext⟩ := tLang_of_loaded hparsed hid hlang
    unfold Langs.tfLang
    exact ⟨ftl, hftl, congrArg (fillIn · args) htext⟩

end Texts

/-- English is built in, with a text for every message. -/
def english : Compiled where
  bundle _ _ := some fun id => some (some ("text of " ++ id))
  bundledLangs := [("en", "")]
  bundledLangMap := ∅

/-- Kubo has no languages. -/
def offline : LangNet where
  langMap _ := none
  manifest _ := none
  catBytes _ _ := none

/-- The message of a localised error. -/
def ReplyBody.localised : ReplyBody → Option (String × List (String × String))
  | .i18nError key args => some (key, args)
  | _ => none

theorem eq_of_localised {body : ReplyBody} {key : String} {args : List (String × String)}
    (h : body.localised = some (key, args)) : body = .i18nError key args := by
  cases body with
  | i18nError key' args' =>
    obtain ⟨rfl, rfl⟩ := Prod.mk.inj (Option.some.inj h)
    rfl
  | _ => cases h

/-- The owner asks for a kind that there is not. -/
def askNoKind : Message :=
  crudMessage "did:ma:alice" ":kinds" (.text "/ma/none/0.0.1")

set_option maxRecDepth 100000 in
/-- The owner reads the bare key, though there is an English text. -/
theorem error_texts_kind :
    ∃ reply, (crudTurn birdEnv askNoKind [] birdStart).2.io.replies =
        birdStart.io.replies ++ [reply] ∧
      reply.body = .i18nError "kind-not-found" [] ∧
      (Langs.init english offline "en" none none).tfLang "en" "kind-not-found" [] =
        "kind-not-found" ∧
      ftlText english "" "en" "kind-not-found" = "text of kind-not-found" := by
  have hsent : ∃ reply, (crudTurn birdEnv askNoKind [] birdStart).2.io.replies =
      birdStart.io.replies ++ [reply] ∧ reply.body = .i18nError "kind-not-found" [] := by
    have hnone : birdStart.io.replies = [] := (mute_startup _ _ [] _).replies
    have hlocalised : (crudTurn birdEnv askNoKind [] birdStart).2.io.replies.map
        (·.body.localised) = [some ("kind-not-found", [])] := by decide +kernel
    obtain ⟨reply, hreplies, hbody⟩ := List.map_eq_singleton_iff.mp hlocalised
    exact ⟨reply, by rw [hreplies, hnone, List.nil_append], eq_of_localised hbody⟩
  obtain ⟨reply, hsent, hbody⟩ := hsent
  have hlangs : Run (LangStep english) {} [.init (some "en") offline offline none none]
      (Langs.init english offline "en" none none) :=
    .cons (@LangStep.init english {} (some "en") offline offline none none) (.nil _)
  have hstep : HostStep birdEnv birdStart (.turn (.crud askNoKind))
      (crudTurn birdEnv askNoKind [] birdStart).2 := .run
  have htexts := error_texts hlangs hstep hsent hbody none
  exact ⟨reply, hsent, hbody, htexts.2.1 (by decide), rfl⟩

end MaRuntime
