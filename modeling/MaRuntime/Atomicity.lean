import MaRuntime.LiveAcl

/-!
# CRUD messages under failures

A handler that fails before its reply should leave the stores as they were, so each store has to be
written after the last call that can fail.

* `Env.replying`: the environment in which replies go out, so that an error comes from before them.
* `Atomic`, `Answers`: a handler beside the same handler with its replies sent.
* `atomic_iff`: an early error leaves the stores, but for the deletion of a registered entity.
* `delete_not_atomic`: the deletion that fails and takes the entity out of the registry.
-/

namespace MaRuntime

open Lib (Cbor Proc)

/-- The environment with every reply sent. -/
def Env.replying (env : Env) : Env :=
  { env with deliver := fun _ => .sent, parseDid := fun s => some s }

/-- The handler of the message fails before its reply. -/
def FailsEarly (env : Env) (message : Message) (w : World) : Prop :=
  ∃ e, (crudTurn env.replying message [] w).1 = .err e

/-- The stores that CRUD writes are as before. -/
structure StoresKept (rt rt' : Runtime) : Prop where
  rootCid : rt'.stats.rootCid = rt.stats.rootCid
  owners : rt'.stats.owners = rt.stats.owners
  entityRegistry : rt'.entityRegistry = rt.entityRegistry
  aclCache : rt'.aclCache = rt.aclCache
  rootAcl : rt'.rootAcl = rt.rootAcl
  sharedConfig : rt'.sharedConfig = rt.sharedConfig

theorem StoresKept.of_eq {rt rt' : Runtime} (h : rt' = rt) : StoresKept rt rt' := by
  subst h
  exact ⟨rfl, rfl, rfl, rfl, rfl, rfl⟩

/-! ## A handler and its replies -/

/-- `q` is `p` with its replies sent: the shared state comes out the same, and `q` succeeds. -/
structure Answers {α : Type} (p q : M α) : Prop where
  same : ∀ w, (p [] w).2.rt = (q [] w).2.rt
  done : ∀ w e, (q [] w).1 ≠ .err e

/-- `q` is `p` with its replies sent: the shared state comes out the same, and an error of `q`
leaves it as it was. -/
structure Atomic {α : Type} (p q : M α) : Prop where
  same : ∀ w, (p [] w).2.rt = (q [] w).2.rt
  undone : ∀ w e, (q [] w).1 = .err e → Idle w (q [] w).2

/-- An error of `p` leaves the shared state. -/
def Undone {α : Type} (p : M α) : Prop := ∀ w e, (p [] w).1 = .err e → Idle w (p [] w).2

section Rules

variable {α β : Type}

theorem same_bind {r : M α} {f f' : α → M β} (h : ∀ a w, (f a [] w).2.rt = (f' a [] w).2.rt)
    (w : World) : ((r >>= f) [] w).2.rt = ((r >>= f') [] w).2.rt := by
  rw [Proc.bind_run, Proc.bind_run]
  rcases r [] w with ⟨o, w1⟩
  cases o with
  | ok a => exact h a w1
  | err e => rfl
  | stuck => rfl

theorem Answers.bind {r : M α} {f f' : α → M β} (hr : ∀ w e, (r [] w).1 ≠ .err e)
    (h : ∀ a, Answers (f a) (f' a)) : Answers (r >>= f) (r >>= f') where
  same := same_bind fun a => (h a).same
  done w _ := Proc.bind_ne_err (hr w _) fun a w' => (h a).done w' _

theorem Atomic.of_calm {p q : M α} (hp : Proc.Calm [] Idle p) (hq : Proc.Calm [] Idle q) :
    Atomic p q where
  same w := (hp.keeps [] w : _ = w.rt).trans (hq.keeps [] w : _ = w.rt).symm
  undone w _ _ := hq.keeps [] w

/-- Reading first. -/
theorem Atomic.bind {r : M α} {f f' : α → M β} (hr : Proc.Calm [] Idle r)
    (h : ∀ a, Atomic (f a) (f' a)) : Atomic (r >>= f) (r >>= f') where
  same := same_bind fun a => (h a).same
  undone w e he := by
    rcases hrun : r [] w with ⟨o, w1⟩
    have hidle := (hr.of_run hrun).2
    cases o with
    | ok a =>
      rw [Proc.bind_of_ok hrun] at he ⊢
      exact trans_of Idle hidle ((h a).undone w1 e he)
    | err e => rwa [Proc.bind_of_err hrun]
    | stuck => rwa [Proc.bind_of_stuck hrun]

/-- **Committing**: after a step that an error undoes, nothing may fail. -/
theorem Atomic.commit {r : M α} {f f' : α → M β} (hr : Undone r) (h : ∀ a, Answers (f a) (f' a)) :
    Atomic (r >>= f) (r >>= f') where
  same := same_bind fun a => (h a).same
  undone w e he := by
    rcases hrun : r [] w with ⟨o, w1⟩
    cases o with
    | ok a =>
      rw [Proc.bind_of_ok hrun] at he
      exact absurd he ((h a).done w1 e)
    | err e1 =>
      rw [Proc.bind_of_err hrun]
      have hidle := hr w e1
      rw [hrun] at hidle
      exact hidle rfl
    | stuck =>
      rw [Proc.bind_of_stuck hrun] at he
      exact absurd he (by simp)

end Rules

/-! ## Handlers -/

section Handlers

variable {env : Env} {message : Message}

theorem sendCrudReply_replying (body : ReplyBody) (g : Lib.Guards Lock) (w : World) :
    (sendCrudReply env.replying message body g w).1 = .ok () := rfl

theorem atomic_reply (body : ReplyBody) :
    Atomic (sendCrudReply env message body) (sendCrudReply env.replying message body) :=
  .of_calm (calm_sendCrudReply _ _) (calm_sendCrudReply _ _)

theorem answers_reply (body : ReplyBody) :
    Answers (sendCrudReply env message body) (sendCrudReply env.replying message body) where
  same := (atomic_reply body).same
  done w e := by
    rw [sendCrudReply_replying]
    simp

theorem atomic_fail (e : Error) : Atomic (Proc.fail e : M Unit) (Proc.fail e) :=
  .of_calm (Proc.calm_fail _) (Proc.calm_fail _)

theorem withManifestCrud_undone (f : RuntimeManifest → RuntimeManifest) :
    Undone (withManifestCrud env fun m => .ok (f m)) := by
  intro w e he
  rcases withManifestCrud_run (Proc.run_of_outcome he) with ⟨newCid, ho, -⟩ | ⟨-, -, hidle⟩
  · exact absurd ho (by simp)
  · exact hidle

/-- A read, then its reply. -/
theorem atomic_read {α : Type} {r : M α} (hr : Proc.Calm [] Idle r) (body : α → ReplyBody) :
    Atomic (r >>= fun a => sendCrudReply env message (body a))
      (r >>= fun a => sendCrudReply env.replying message (body a)) :=
  .bind hr fun _ => atomic_reply _

/-- A manifest write, then its reply. -/
theorem atomic_write (f : RuntimeManifest → RuntimeManifest) (body : Cid → ReplyBody) :
    Atomic (withManifestCrud env (fun m => .ok (f m)) >>= fun cid =>
        sendCrudReply env message (body cid))
      (withManifestCrud env (fun m => .ok (f m)) >>= fun cid =>
        sendCrudReply env.replying message (body cid)) :=
  .commit (withManifestCrud_undone f) fun _ => answers_reply _

/-- A change of the shared state never fails. -/
theorem total_writing (l : Lock) (f : Runtime → Runtime) :
    Proc.Total [] (writing l (modifyRt f)) :=
  Proc.Total.holding rfl (Proc.total_update _)

theorem writeDaemonKey_ne_err (key : String) (val : Yaml) (w : World) (e : Error) :
    (writeDaemonKey env key val [] w).1 ≠ .err e :=
  Proc.bind_ne_err ((total_writing _ _).ne_err w e) fun _ _ => Proc.attempt_pure_ne_err _ _ _ _

theorem total_aclCacheUpdate (key : String) (cid : Cid) :
    Proc.Total [] (aclCacheUpdate env key cid) := by
  refine (calm_loadAclFromCid env cid).frees.total_attempt.bind fun r => ?_
  split
  · exact total_writing _ _
  · exact Proc.total_pure _

theorem total_lookupKind (protocol : String) : Proc.Total [] (lookupKind env protocol) := by
  refine Proc.Total.holding rfl ((Proc.total_look _).bind fun k => ?_)
  split
  · exact Proc.total_pure _
  · refine (calm_loadManifest rfl).frees.total_attempt.bind fun r => ?_
    split
    · exact Proc.total_pure _
    · split
      · exact Proc.total_pure _
      · exact (calm_dagGet _ _).frees.total_attempt.bind fun _ => Proc.total_pure _

theorem total_registerEntityPlugin (name : String) (node : EntityNode) :
    Proc.Total [] (registerEntityPlugin env name node) := by
  refine Proc.Total.bind ?_ fun o => ?_
  · refine (total_lookupKind _).bind fun k => ?_
    split
    · exact Proc.total_pure _
    · refine (calm_load env _ _ _).frees.total_attempt.bind fun r => ?_
      split
      · exact Proc.total_pure _
      · exact Proc.total_pure _
  · split
    · exact total_writing _ _
    · exact Proc.total_pure _

theorem handleConfigNs_atomic (rest : List String) (args : Args) :
    Atomic (handleConfigNs env message rest args)
      (handleConfigNs env.replying message rest args) := by
  unfold handleConfigNs handleConfigNsWith
  split
  · split
    · refine .bind (r := loadManifest env) (calm_loadManifest rfl) fun m => ?_
      exact atomic_read (Proc.Calm.holding rfl (calm_getRt _)) _
    · exact atomic_reply _
  · split
    · exact atomic_reply _
    · split
      · exact atomic_read (r := configValue env _) (calm_configValue _) _
      · split
        · exact atomic_reply _
        · exact atomic_write _ _
      · split
        · refine .commit (r := writeDaemonKey env _ _) (fun w e he => ?_) fun _ => answers_reply _
          exact absurd he (writeDaemonKey_ne_err _ _ w e)
        · split
          · exact atomic_reply _
          · exact atomic_write _ _
      · exact atomic_fail _
  · exact atomic_fail _

theorem handleKindsNs_atomic (rest : List String) (args : Args) :
    Atomic (handleKindsNs env message rest args)
      (handleKindsNs env.replying message rest args) := by
  unfold handleKindsNs handleKindsNsWith
  split
  · exact atomic_fail _
  · split
    · exact atomic_read (r := loadManifest env) (calm_loadManifest rfl) _
    · split
      · exact atomic_reply _
      · exact atomic_write _ _
    · exact atomic_write _ _
    · exact atomic_fail _
    · refine .bind (r := loadManifest env) (calm_loadManifest rfl) fun m => ?_
      split
      · exact atomic_read (r := dagGet env.kubo.kinds _) (calm_dagGet _ _) _
      · exact atomic_reply _
    · exact atomic_reply _
    · exact atomic_fail _

theorem handleRootAcl_atomic (args : Args) :
    Atomic (handleRootAcl env message args) (handleRootAcl env.replying message args) := by
  unfold handleRootAcl handleRootAclWith
  split
  · exact atomic_read (r := loadManifest env) (calm_loadManifest rfl) _
  · split
    · exact atomic_reply _
    · refine .bind (calm_withContext _ (calm_loadAclFromCid env _)) fun aclMap => ?_
      refine .commit (@withManifestCrud_undone env _) fun newRoot => ?_
      exact .bind (total_writing _ _).ne_err fun _ => answers_reply _
  · exact atomic_reply _
  · exact atomic_fail _

theorem handleRootAcls_atomic (rest : List String) (args : Args) :
    Atomic (handleRootAcls env message rest args)
      (handleRootAcls env.replying message rest args) := by
  unfold handleRootAcls handleRootAclsWith
  split
  · exact atomic_read (r := loadManifest env) (calm_loadManifest rfl) _
  · refine .bind (r := loadManifest env) (calm_loadManifest rfl) fun m => ?_
    split
    · exact atomic_reply _
    · exact atomic_fail _
  · split
    · exact atomic_reply _
    · refine .commit (@withManifestCrud_undone env _) fun newRoot => ?_
      exact .bind (r := aclCacheUpdate env _ _) (total_aclCacheUpdate _ _).ne_err
        fun _ => answers_reply _
  · refine .commit (@withManifestCrud_undone env _) fun newRoot => ?_
    exact .bind (total_writing _ _).ne_err fun _ => answers_reply _
  · exact atomic_fail _

theorem updateEntityNode_undone (name : String) (node : EntityNode) :
    Undone (updateEntityNode env name node) := by
  intro w e
  refine (calm_withContext _ (calm_dagPut env.kubo.entities node)).sat_bind
    (Q := fun o w' => o = .err e → Idle w w') (fun _ _ h _ => h) fun cid w1 _ h1 => ?_
  refine withManifestCrud_bind (fun e' w' h _ => trans_of Idle h1 h) fun _ _ _ ho => ?_
  exact absurd ho (by simp)

theorem handleEntityField_atomic (name field : String) (subPath : List String) (args : Args) :
    Atomic (handleEntityField env message name field subPath args)
      (handleEntityField env.replying message name field subPath args) := by
  have update (aclName : String) : Atomic
      (fetchEntityNode env name >>= fun entity =>
        updateEntityNode env name { entity with acl := aclName } >>= fun cid =>
          sendCrudReply env message (.okCid cid))
      (fetchEntityNode env name >>= fun entity =>
        updateEntityNode env name { entity with acl := aclName } >>= fun cid =>
          sendCrudReply env.replying message (.okCid cid)) :=
    .bind (calm_fetchEntityNode name) fun _ =>
      .commit (updateEntityNode_undone name _) fun _ => answers_reply _
  unfold handleEntityField handleEntityFieldWith
  split
  · refine .bind (r := fetchEntityNode env name) (calm_fetchEntityNode name) fun entity => ?_
    split
    · exact atomic_reply _
    · exact atomic_fail _
  · split
    · unfold handleEntityAclFieldWith
      split
      · exact atomic_fail _
      · split
        · exact atomic_read (r := fetchEntityNode env name) (calm_fetchEntityNode name) _
        · refine .bind (r := loadManifest env) (calm_loadManifest rfl) fun m => ?_
          split
          · exact atomic_fail _
          · exact update _
        · exact update _
        · exact atomic_fail _
    · exact atomic_fail _

/-- Registering a plugin does not ask how replies go out. -/
theorem lookupKind_replying (protocol : String) :
    lookupKind env.replying protocol = lookupKind env protocol := by
  have hkubo : env.replying.kubo = env.kubo := rfl
  have hload : loadManifest env.replying = loadManifest env := rfl
  simp only [lookupKind, hload, hkubo]

theorem registerEntityPlugin_replying (name : String) (node : EntityNode) :
    registerEntityPlugin env.replying name node = registerEntityPlugin env name node := by
  have hload (kindNode : KindNode) : load env.replying name node kindNode =
      load env name node kindNode := rfl
  simp only [registerEntityPlugin, pluginToRegister, lookupKind_replying, hload]

theorem upsertEntity_atomic (name path : String) :
    Atomic (upsertEntity env message name path) (upsertEntity env.replying message name path) := by
  unfold upsertEntity upsertEntityWith
  split
  · exact atomic_reply _
  · split
    · exact atomic_reply _
    · refine .commit (r := linkEntity env message name path) (fun w e he => ?_) fun r => ?_
      · exact (linkEntity_sat name path).of_run (Proc.run_of_outcome he)
      · show Answers (registerEntityPlugin env name r.2 >>= _)
          (registerEntityPlugin env.replying name r.2 >>= _)
        rw [registerEntityPlugin_replying]
        exact .bind (total_registerEntityPlugin _ _).ne_err fun _ => answers_reply _

/-- **A deletion that fails early** was refused, or took the entity out of the registry. -/
theorem deleteEntity_early {name : String} {w w' : World} {e : Error}
    (h : deleteEntity env.replying message name [] w = (.err e, w')) :
    checkFullNoGroups env.core w.rt.rootAcl message.from ["delete", "entities"] ≠ .ok () ∧
        Idle w w' ∨
      checkFullNoGroups env.core w.rt.rootAcl message.from ["delete", "entities"] = .ok () ∧
        w'.rt = { w.rt with entityRegistry := w.rt.entityRegistry.erase name } := by
  have hsat : (deleteEntity env.replying message name).Sat [] w fun o w' => o = .err e →
      checkFullNoGroups env.core w.rt.rootAcl message.from ["delete", "entities"] ≠ .ok () ∧
          Idle w w' ∨
        checkFullNoGroups env.core w.rt.rootAcl message.from ["delete", "entities"] = .ok () ∧
          w'.rt = { w.rt with entityRegistry := w.rt.entityRegistry.erase name } := by
    have hcalm := @calm_checkEntityManagementCap env message ["delete", "entities"]
    refine Proc.sat_bind_run (p := checkEntityManagementCap env message _) (fun _ w1 hrun => ?_)
      (fun e1 w1 hrun _ => .inl ⟨fun hcap => ?_, (hcalm.of_run hrun).2⟩)
      fun w1 hrun => absurd rfl (hcalm.of_run hrun).1
    swap
    · have hok := checkEntityManagementCap_ok_iff.mpr hcap
      rw [hrun] at hok
      exact absurd hok (by simp)
    have hcap := checkEntityManagementCap_ok hrun
    refine writing_bind rfl ?_
    rw [show w1.rt = w.rt from (hcalm.of_run hrun).2]
    refine @withManifestCrud_bind env _ _ _ _ _ (fun e1 w2 h2 _ => .inr ⟨hcap, h2⟩)
      fun newCid w2 _ ho => ?_
    exact absurd (ho.symm.trans (sendCrudReply_replying _ _ _)) (by simp)
  exact hsat.of_run h rfl

/-- Every request but the deletion of an entity. -/
theorem handleNs_atomic {ns : String} {rest : List String} {args : Args}
    (hdelete : ∀ name, (ns, rest, args) ≠ ("entities", [name], .put [])) :
    Atomic (handleNs env message ns rest args) (handleNs env.replying message ns rest args) := by
  unfold handleNs handleNsWith
  split
  · unfold handleEntitiesNsWith
    split
    · split
      · exact atomic_read (Proc.Calm.holding rfl (calm_getRt _)) _
      · exact atomic_reply _
    · unfold handleSingleEntityWith
      split
      · refine .bind (r := loadManifest env) (calm_loadManifest rfl) fun m => ?_
        split
        · exact atomic_fail _
        · exact atomic_read (r := dagGet env.kubo.entities _) (calm_dagGet _ _) _
      · exact absurd rfl (hdelete _)
      · exact upsertEntity_atomic _ _
      · exact atomic_fail _
    · exact handleEntityField_atomic _ _ _ _
  · exact handleKindsNs_atomic _ _
  · exact handleConfigNs_atomic _ _
  · exact handleRootAcl_atomic _
  · exact handleRootAcls_atomic _ _
  · exact atomic_reply _

/-- **The replies do not matter** to the shared state. -/
theorem crudTurn_same (w : World) :
    (crudTurn env message [] w).2.rt = (crudTurn env.replying message [] w).2.rt := by
  have hns (ns : String) (rest : List String) (args : Args) (w : World) :
      (handleNs env message ns rest args [] w).2.rt =
        (handleNs env.replying message ns rest args [] w).2.rt := by
    by_cases hdelete : ∃ name, (ns, rest, args) = ("entities", [name], .put [])
    · obtain ⟨name, heq⟩ := hdelete
      simp only [Prod.mk.injEq] at heq
      obtain ⟨rfl, rfl, rfl⟩ := heq
      exact same_bind (fun _ => same_bind fun _ => same_bind fun _ => (atomic_reply .ok).same) w
    · exact (handleNs_atomic fun name heq => hdelete ⟨name, heq⟩).same w
  refine same_bind (fun acl => same_bind fun _ => ?_) w
  show ∀ w : World, (dispatchManagement env message [] w).2.rt =
    (dispatchManagement env.replying message [] w).2.rt
  by_cases htype : message.messageType ≠ env.messageTypeCrud
  · rw [show dispatchManagement env message = _ from if_pos htype,
      show dispatchManagement env.replying message = _ from if_pos htype]
    exact (atomic_reply _).same
  · rw [show dispatchManagement env message = _ from if_neg htype,
      show dispatchManagement env.replying message = _ from if_neg htype]
    exact same_bind fun op => same_bind fun (ns, rest) => hns ns rest _

end Handlers

/-! ## Messages -/

theorem erase_of_not_mem {α : Type} {t : StrMap α} {key : String} (h : key ∉ t) :
    t.erase key = t := by
  refine Std.ExtTreeMap.ext_getElem? fun k => ?_
  rw [Std.ExtTreeMap.getElem?_erase]
  split
  · rename_i hk
    obtain rfl := Std.LawfulEqCmp.compare_eq_iff_eq.mp hk
    exact (Std.ExtTreeMap.getElem?_eq_none h).symm
  · rfl

/-- The message deletes a registered entity, past the gates. -/
def DeletesRegistered (env : Env) (message : Message) (w : World) : Prop :=
  ∃ name, crudRequest env message = some ("entities", [name], .put []) ∧
    PassesCrudGate env w.rt message.from ∧
    checkFullNoGroups env.core w.rt.rootAcl message.from ["delete", "entities"] = .ok () ∧
    name ∈ w.rt.entityRegistry

/-- **A message that fails early leaves the stores**, if it does not delete a registered entity. -/
theorem atomic_iff {env : Env} {message : Message} {w : World} (h : FailsEarly env message w) :
    StoresKept w.rt (crudTurn env message [] w).2.rt ↔ ¬ DeletesRegistered env message w := by
  obtain ⟨e, he⟩ := h
  rw [crudTurn_same]
  have kept (hidle : Idle w (crudTurn env.replying message [] w).2)
      (hnot : ¬ DeletesRegistered env message w) :
      StoresKept w.rt (crudTurn env.replying message [] w).2.rt ↔
        ¬ DeletesRegistered env message w :=
    iff_of_true (.of_eq hidle) hnot
  by_cases hgate : PassesCrudGate env w.rt message.from
  · have hturn : crudTurn env.replying message [] w =
      dispatchManagement env.replying message [] w :=
      crudTurn_of_gate hgate
    rcases dispatchManagement_cases env.replying message w with
      ⟨ns, rest, args, hreq, hrun⟩ | ⟨hnone, -, hidle⟩
    · rw [hturn, hrun] at he kept ⊢
      by_cases hdelete : ∃ name, (ns, rest, args) = ("entities", [name], .put [])
      · obtain ⟨name, heq⟩ := hdelete
        rw [heq] at hreq
        simp only [Prod.mk.injEq] at heq
        obtain ⟨rfl, rfl, rfl⟩ := heq
        have hname {name' : String} (h : crudRequest env message =
            some ("entities", [name'], .put [])) : name' = name := by
          simpa using h.symm.trans hreq
        rcases deleteEntity_early (Proc.run_of_outcome he) with ⟨hcap, hidle⟩ | ⟨hcap, hrt⟩
        · exact kept hidle fun ⟨_, _, _, hcap', _⟩ => hcap hcap'
        · by_cases hmem : name ∈ w.rt.entityRegistry
          · refine iff_of_false (fun h => ?_) fun h => h ⟨name, hreq, hgate, hcap, hmem⟩
            have herase : w.rt.entityRegistry.erase name = w.rt.entityRegistry :=
              (congrArg Runtime.entityRegistry hrt).symm.trans h.entityRegistry
            rw [← herase] at hmem
            exact absurd hmem (by simp)
          · refine kept ?_ fun ⟨name', hreq', _, _, hmem'⟩ => hmem (hname hreq' ▸ hmem')
            exact hrt.trans (by rw [erase_of_not_mem hmem])
      · refine kept ((handleNs_atomic fun name heq => hdelete ⟨name, heq⟩).undone w e he) ?_
        rintro ⟨name, hreq', -⟩
        exact hdelete ⟨name, Option.some.inj (hreq.symm.trans hreq')⟩
    · rw [hturn] at kept ⊢
      refine kept hidle ?_
      rintro ⟨name, hreq, -⟩
      exact absurd (hnone.symm.trans hreq) (by simp)
  · rcases crudTurn_cases env.replying message w with ⟨hgate', -⟩ | ⟨e', hturn⟩
    · exact absurd hgate' hgate
    · rw [hturn] at kept ⊢
      exact kept rfl fun ⟨_, _, hgate', _⟩ => hgate hgate'

/-! ## Kubo goes away -/

/-- Kubo stops answering gets of manifests at call `n`. -/
def Tables.manifestsLostFrom (t : Tables) (n : Nat) : Env :=
  { t.live with kubo := { t.kubo with manifests := t.kubo.manifests.failingFrom n ["timed out"] } }

/-- The surroundings of the entity, where Kubo goes away after startup. -/
def lostEnv : Env := echoTables.manifestsLostFrom 7

/-- The daemon with the entity loaded. -/
def lostStart : World := started lostEnv (some "bafyroot") ["did:ma:alice"]

/-- The owner deletes the entity. -/
def deleteEcho : Message := crudMessage "did:ma:alice" ":delete" (.text ":entities.echo")

set_option maxRecDepth 100000

/-- An upsert that Kubo fails leaves the stores. -/
theorem atomic_iff_upsert :
    FailsEarly lostEnv relinkEcho lostStart ∧
      StoresKept lostStart.rt (crudTurn lostEnv relinkEcho [] lostStart).2.rt := by
  have hearly : FailsEarly lostEnv relinkEcho lostStart := ⟨["timed out"], by decide +kernel⟩
  refine ⟨hearly, (atomic_iff hearly).mpr ?_⟩
  rintro ⟨name, hreq, -⟩
  have hargs : (crudRequest lostEnv relinkEcho).map (·.2.2) =
      some (.put [.text "bafyechosecond"]) := by decide +kernel
  rw [hreq] at hargs
  exact absurd hargs (by simp)

/-- **A failed deletion is half done**: the owner gets no success, the manifest has the entity and
the registry does not. -/
theorem delete_not_atomic :
    FailsEarly lostEnv deleteEcho lostStart ∧
      (crudTurn lostEnv deleteEcho [] lostStart).1 = .err ["timed out"] ∧
      (crudTurn lostEnv deleteEcho [] lostStart).2.rt.stats.rootCid =
        lostStart.rt.stats.rootCid ∧
      ¬ StoresKept lostStart.rt (crudTurn lostEnv deleteEcho [] lostStart).2.rt := by
  refine ⟨⟨["timed out"], by decide +kernel⟩, by decide +kernel, by decide +kernel, fun h => ?_⟩
  have hkeys := congrArg Std.ExtTreeMap.keys h.entityRegistry
  exact absurd hkeys (by decide +kernel)

end MaRuntime
