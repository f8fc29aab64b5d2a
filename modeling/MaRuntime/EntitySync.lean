import MaRuntime.Deadlock
import MaRuntime.Durability
import MaRuntime.Startup

/-!
# The registry and the manifest

Four operations change which entities exist. CRUD upserts and deletes change the registry and the
manifest, one after the other; the queues a plugin filled are drained after its call.

* `InSync`: the registered entities, the native scheduler aside, are those of the root manifest.
* `inSync_run`: it holds in every run without a failed Kubo call or load whose upserts name a kind
  that is bound and whose plugins delete nothing, and then a restart finds the same entities.
* `deleted_entity_returns`: a plugin's deletion does not reach the manifest.
-/

namespace MaRuntime

open Lib (Cbor Proc Run)

/-! ## Failures leave their mark -/

/-- A failed Kubo call is not forgotten. -/
abbrev Marks : World → World → Prop := SameCells fun _ => False

section Marks

variable {env : Env} {g : Lib.Guards Lock}

theorem calm_modifyIo_marks {f : Io → Io} (hf : ∀ io, (f io).kuboFailed = io.kuboFailed) :
    Proc.Calm g Marks (modifyIo f) :=
  Proc.calm_update fun w => ⟨fun _ h => h.elim, fun h => (hf w.io).trans h⟩

theorem Called.marks {w w' : World} (h : Called w w') : Marks w w' :=
  ⟨fun _ h => h.elim, h.kuboFailed⟩

theorem calm_nextCall_marks : Proc.Calm g Marks nextCall :=
  ⟨calm_nextCall.frees, keeps_nextCall_called.mono fun _ _ => Called.marks⟩

theorem calm_modifyRt_marks (f : Runtime → Runtime) : Proc.Calm g Marks (modifyRt f) :=
  calm_modifyRt fun _ => ⟨fun _ h => h.elim, id⟩

theorem calm_sendCrudReply_marks (message : Message) (body : ReplyBody) :
    Proc.Calm g Marks (sendCrudReply env message body) := by
  unfold sendCrudReply
  dsimp only
  split
  · exact Proc.calm_fail _
  · refine calm_nextCall_marks.bind fun n => ?_
    split
    · exact Proc.calm_fail _
    · exact Proc.calm_pure _
    · exact Proc.calm_fail _
    · exact calm_modifyIo_marks fun _ => rfl

theorem calm_load_marks (fragment : String) (node : EntityNode) (kindNode : KindNode) :
    Proc.Calm g Marks (load env fragment node kindNode) :=
  ⟨(calm_load env fragment node kindNode).frees,
    (keeps_load_called fragment node kindNode).mono fun _ _ => Called.marks⟩

theorem calm_publishNewEntity_marks (root : Cid) (fragment : String) (node : EntityNode) :
    Proc.Calm g Marks (publishNewEntity env root fragment node) :=
  (calm_kuboCall_cells _).bind fun _ => (calm_kuboCall_cells _).bind fun _ =>
    calm_kuboCall_cells _

theorem keeps_createRequested_marks (entity : EntityPlugin) (req : CreateEntityRequest) :
    Proc.Keeps Marks (createRequested env entity req) := by
  refine (Proc.Keeps.holding (Proc.keeps_look _) _ _).bind fun k => ?_
  split
  · exact Proc.keeps_pure _
  · refine (@calm_load_marks env [] _ _ _).keeps.attempt.bind fun r => ?_
    split
    · refine (Proc.Keeps.holding (@calm_modifyRt_marks [] _).keeps _ _).bind fun _ => ?_
      refine Proc.Keeps.holding ((Proc.keeps_look _).bind fun root => ?_) _ _
      split
      · refine Proc.Keeps.bind (Proc.Keeps.attempt ?_) fun _ => Proc.keeps_pure _
        exact (@calm_publishNewEntity_marks env [] _ _ _).keeps.bind fun _ =>
          (@calm_pinUpdate_cells env [] _ _ _).keeps.attempt.bind fun _ =>
            Proc.Keeps.holding (@calm_modifyRt_marks [] _).keeps _ _
      · exact Proc.keeps_pure _
    · exact (@calm_modifyIo_marks [] (fun io => { io with envelopes := io.envelopes ++ _ })
        fun _ => rfl).keeps
    · exact Proc.keeps_pure _
    · exact Proc.keeps_pure _

end Marks

/-! ## What a Kubo failure explains -/

section Failures

variable {env : Env} {g : Lib.Guards Lock}

theorem kuboCall_err {α : Type} {call : Nat → Except Error α} {w w' : World} {e : Error}
    (h : kuboCall call g w = (.err e, w')) : w'.io.kuboFailed = true := by
  rcases ((kuboCall_sat call).of_run h).2 with ⟨_, _, _, ho⟩ | ⟨_, _, hf⟩
  · exact absurd ho (by simp)
  · exact hf

theorem publishNewEntity_err {root : Cid} {fragment : String} {node : EntityNode} {w w' : World}
    {e : Error} (h : publishNewEntity env root fragment node g w = (.err e, w')) :
    w'.io.kuboFailed = true := by
  have hsat : (publishNewEntity env root fragment node).Sat g w fun o w1 =>
      ∀ e, o = .err e → w1.io.kuboFailed = true := by
    have frees {α : Type} (call : Nat → Except Error α) (w1 w2 : World)
        (hrun : kuboCall call g w1 = (.stuck, w2)) (e : Error)
        (_ : (Lib.Outcome.stuck : Lib.Outcome Error Cid) = .err e) : w2.io.kuboFailed = true :=
      absurd (congrArg Prod.fst hrun) ((calm_kuboCall call).frees w1)
    refine Proc.sat_bind_run (fun m w1 _ => ?_) (fun e w1 hrun _ _ => kuboCall_err hrun)
      (frees _ _)
    refine Proc.sat_bind_run (fun cid w2 _ => ?_) (fun e w1 hrun _ _ => kuboCall_err hrun)
      (frees _ _)
    intro e he
    exact kuboCall_err (Prod.ext he rfl)
  exact hsat.of_run h e rfl

/-- A new entity whose record does not wait was not published. -/
theorem recordNewEntity_marks {fragment : String} {node : EntityNode} {w : World}
    (hroot : w.rt.stats.rootCid ≠ none)
    (ho : (recordNewEntity env fragment node rpcGuards w).1 ≠ .stuck) :
    (recordNewEntity env fragment node rpcGuards w).2.io.kuboFailed = true := by
  obtain ⟨root, hroot⟩ := Option.ne_none_iff_exists'.mp hroot
  rcases hpub : publishNewEntity env root fragment { node with lifecycle := .running }
    ((.stats, .read) :: rpcGuards) w with ⟨o, w1⟩
  cases o with
  | ok newRoot =>
    exact absurd (recordNewEntity_stuck_iff.mpr ⟨root, newRoot, hroot, by rw [hpub]⟩) ho
  | stuck => exact absurd (congrArg Prod.fst hpub) ((calm_publishNewEntity _ _ _).frees w)
  | err e =>
    have hrun : recordNewEntity env fragment node rpcGuards w = (.ok (), w1) := by
      unfold recordNewEntity reading
      rw [Proc.holding_run rfl, Proc.bind_of_ok (a := w.rt.stats.rootCid) (t := w) rfl, hroot]
      exact (Proc.bind_of_ok (Proc.attempt_of_err (Proc.bind_of_err hpub))).trans rfl
    rw [hrun]
    exact publishNewEntity_err hpub

/-- A creation request that neither waits nor meets a Kubo failure registers nothing. -/
theorem createRequested_sat {entity : EntityPlugin} {req : CreateEntityRequest} {w : World}
    (hroot : w.rt.stats.rootCid ≠ none) :
    (createRequested env entity req).Sat rpcGuards w fun o w' =>
      o ≠ .stuck → w'.io.kuboFailed = false → CellsOnly w w' := by
  unfold createRequested
  refine Proc.sat_bind_of_ok (a := w.rt.kindRegistry[req.kindProtocol]?) (t := w) rfl ?_
  cases w.rt.kindRegistry[req.kindProtocol]? with
  | none => exact fun _ _ => refl_of CellsOnly w
  | some kindNode =>
    refine (calm_load env _ _ _).attempt.sat_bind (fun e w1 h1 _ _ => h1) fun r w1 hload h1 => ?_
    split
    · rename_i ep
      refine writing_bind rfl fun ho hf => ?_
      generalize hw2 : ({ w1 with rt := { w1.rt with
        entityRegistry := w1.rt.entityRegistry.insert req.fragment ep } } : World) = w2 at ho hf ⊢
      exact absurd (recordNewEntity_marks (by rw [← hw2]; exact h1.stats ▸ hroot) ho) (by simp [hf])
    · exact fun _ _ => h1
    · exact fun _ _ => h1
    · exact fun _ _ => h1

theorem createRequests_sat {entity : EntityPlugin} :
    ∀ (reqs : List CreateEntityRequest) {w : World}, w.rt.stats.rootCid ≠ none →
      (Proc.each reqs (createRequested env entity)).Sat rpcGuards w fun o w' =>
        o ≠ .stuck → w'.io.kuboFailed = false → CellsOnly w w'
  | [], w, _ => fun _ _ => refl_of CellsOnly w
  | req :: reqs, w, hroot => by
    have hreq := @createRequested_sat env entity req w hroot
    refine Proc.sat_bind_run (fun _ w1 hrun => ?_) (fun e w1 hrun => ?_) fun w1 _ h => absurd rfl h
    · intro ho hf
      have hf1 : w1.io.kuboFailed = false := by
        by_contra hfail
        have hmarks := Proc.Keeps.each (@keeps_createRequested_marks env entity) reqs
          rpcGuards w1
        rw [hmarks.2 (by simpa using hfail)] at hf
        exact absurd hf (by simp)
      have h1 := hreq.of_run hrun (by simp) hf1
      have hroot1 : w1.rt.stats.rootCid ≠ none := by
        rw [h1.stats]
        exact hroot
      have hrest := @createRequests_sat entity reqs w1 hroot1
      exact trans_of CellsOnly h1 (hrest ho hf)
    · exact absurd (congrArg Prod.fst hrun) (createRequested_ne_err e)

end Failures

/-! ## In sync -/

/-- An entity is registered, the native scheduler aside. -/
def Registers (rt : Runtime) (name : String) : Prop :=
  name ≠ schedulerFragment ∧ name ∈ rt.entityRegistry

/-- The registered entities are those of the manifest at the root. -/
def InSync (env : Env) (rt : Runtime) : Prop :=
  ∃ m, AtRoot env rt m ∧ ∀ name, Registers rt name ↔ name ∈ m.entities

section InSync

variable {env : Env}

theorem InSync.rooted {rt : Runtime} (h : InSync env rt) : rt.stats.rootCid ≠ none := by
  obtain ⟨m, ⟨root, hroot, -⟩, -⟩ := h
  rw [hroot]
  simp

theorem InSync.congr {rt rt' : Runtime} (h : InSync env rt)
    (hroot : rt'.stats.rootCid = rt.stats.rootCid)
    (hnames : ∀ name, Registers rt' name ↔ Registers rt name) : InSync env rt' := by
  obtain ⟨m, hm, hsync⟩ := h
  exact ⟨m, (atRoot_congr hroot).mpr hm, fun name => (hnames name).trans (hsync name)⟩

/-- A write after which the names still agree. -/
theorem InSync.written {f : RuntimeManifest → RuntimeManifest} {rt rt' : Runtime} {newCid : Cid}
    (h : InSync env rt) (hw : ManifestWrite env f rt newCid rt') {registry : StrMap EntityPlugin}
    (hf : ∀ m name, (Registers rt name ↔ name ∈ m.entities) →
      (Registers { rt' with entityRegistry := registry } name ↔ name ∈ (f m).entities)) :
    InSync env { rt' with entityRegistry := registry } := by
  obtain ⟨m, hm, hsync⟩ := h
  obtain ⟨m0, hm0, hm'⟩ := hw.atRoot
  obtain rfl := hm.eq hm0
  exact ⟨f m, hm', fun name => hf m name (hsync name)⟩

/-- A write that leaves the names alone. -/
theorem InSync.kept {f : RuntimeManifest → RuntimeManifest} {rt rt' : Runtime} {newCid : Cid}
    (h : InSync env rt) (hw : ManifestWrite env f rt newCid rt')
    (hf : ∀ m name, AtRoot env rt m → (name ∈ (f m).entities ↔ name ∈ m.entities)) :
    InSync env rt' := by
  obtain ⟨m, hm, hsync⟩ := h
  obtain ⟨m0, hm0, hm'⟩ := hw.atRoot
  obtain rfl := hm.eq hm0
  refine ⟨f m, hm', fun name => ?_⟩
  rw [hf m name hm, ← hsync name, hw.frame]
  exact Iff.rfl

/-! ### CRUD messages -/

/-- Every effect but those of an upsert and a delete. -/
theorem CrudEffect.inSync {sender : String} {req : CrudRequest} {rt rt' : Runtime}
    (heff : CrudEffect env sender req rt rt') (h : InSync env rt)
    (hdelete : ∀ name, req ≠ ("entities", [name], .put []))
    (hupsert : ∀ name path, req ≠ ("entities", [name], .put [.text path])) : InSync env rt' := by
  cases heff with
  | idle => exact h
  | configDelete hw => exact h.kept hw fun _ _ _ => Iff.rfl
  | configSet hkey hw => exact h.kept hw fun _ _ _ => Iff.rfl
  | daemonSet hkey => exact h
  | aclSet hdoc hw => exact (h.kept hw fun _ _ _ => Iff.rfl).congr rfl fun _ => Iff.rfl
  | aclsSet hw hcache => exact (h.kept hw fun _ _ _ => Iff.rfl).congr rfl fun _ => Iff.rfl
  | aclsDelete hw => exact (h.kept hw fun _ _ _ => Iff.rfl).congr rfl fun _ => Iff.rfl
  | kindSet hw => exact h.kept hw fun _ _ _ => Iff.rfl
  | kindDelete hw => exact h.kept hw fun _ _ _ => Iff.rfl
  | entityDelete hcap hw => exact absurd rfl (hdelete _)
  | entityDeleteCut hcap => exact absurd rfl (hdelete _)
  | entityUpsert hcid hnode hname hcap hw hreg => exact absurd rfl (hupsert _ _)
  | entityAcl hargs hroot hold hlink hnode hcid hw =>
    refine h.kept hw fun m name hm => ?_
    obtain rfl := hm.eq ⟨_, hroot, hold⟩
    rw [mem_insert_iff]
    refine ⟨?_, .inr⟩
    rintro (rfl | hmem)
    · exact Std.ExtTreeMap.mem_iff_isSome_getElem?.mpr (by rw [hlink]; rfl)
    · exact hmem

theorem currentRootCid_failed {g : Lib.Guards Lock} {w w' : World} {e : Error}
    (hg : g.excludes .stats .read = false) (h : currentRootCid g w = (.err e, w')) :
    w.rt.stats.rootCid = none := by
  rw [currentRootCid_run hg] at h
  cases hroot : w.rt.stats.rootCid with
  | none => rfl
  | some root =>
    rw [hroot] at h
    exact absurd h (by simp)

theorem loadManifest_failed {g : Lib.Guards Lock} {w w' : World} {e : Error}
    (hg : g.excludes .stats .read = false) (h : loadManifest env g w = (.err e, w')) :
    w.rt.stats.rootCid = none ∨ w'.io.kuboFailed = true := by
  have hsat : (loadManifest env).Sat g w fun o w1 =>
      ∀ e, o = .err e → w.rt.stats.rootCid = none ∨ w1.io.kuboFailed = true :=
    Proc.sat_bind_run (fun _ _ _ _ he => .inr (kuboCall_err (Prod.ext he rfl)))
      (fun _ _ hrun _ _ => .inl (currentRootCid_failed hg hrun))
      fun _ _ _ he => absurd he (by simp)
  exact hsat.of_run h e rfl

/-- A manifest write fails only where Kubo does, or where no root is known. -/
theorem withManifestCrud_failed {f : RuntimeManifest → RuntimeManifest} {w w' : World} {e : Error}
    (h : withManifestCrud env (fun m => .ok (f m)) [] w = (.err e, w')) :
    w.rt.stats.rootCid = none ∨ w'.io.kuboFailed = true := by
  have hsat : (withManifestCrud env fun m => .ok (f m)).Sat [] w fun o w1 =>
      ∀ e, o = .err e → w.rt.stats.rootCid = none ∨ w1.io.kuboFailed = true := by
    refine Proc.sat_bind_run (fun root w1 _ => ?_) (fun e w1 hrun _ _ => .inl ?_)
      fun w1 _ e he => absurd he (by simp)
    · refine Proc.sat_bind_run (fun m w2 _ => ?_) (fun e w2 hrun _ _ => .inr (kuboCall_err hrun))
        fun w2 _ e he => absurd he (by simp)
      refine Proc.sat_bind_of_ok (a := f m) (t := w2) rfl ?_
      refine Proc.sat_bind_run (fun cid w3 _ => ?_) (fun e w3 hrun _ _ => .inr (kuboCall_err hrun))
        fun w3 _ e he => absurd he (by simp)
      obtain ⟨r, w4, hpin⟩ := (calm_pinUpdate (g := []) env root cid).frees.attempt_run w3
      refine Proc.sat_bind_of_ok hpin ?_
      exact fun e he => nomatch (he : Lib.Outcome.ok cid = .err e)
    · exact currentRootCid_failed rfl hrun
  exact hsat.of_run h e rfl

/-- **A delete takes the entity out of both.** -/
theorem deleteEntity_inSync {message : Message} {name : String} {w : World}
    (h : InSync env w.rt) :
    (deleteEntity env message name).Sat [] w fun _ w' =>
      w'.io.kuboFailed = false → InSync env w'.rt := by
  have idle {w' : World} (hi : Idle w w') : InSync env w'.rt := by
    rwa [show w'.rt = w.rt from hi]
  refine (calm_checkEntityManagementCap message _).sat_bind (fun e w1 h1 _ => idle h1)
    fun _ w1 _ h1 => ?_
  refine writing_bind rfl ?_
  rw [show w1.rt = w.rt from h1]
  refine Proc.sat_bind_run (fun newCid w2 hrun => ?_) (fun e w2 hrun hf => ?_) fun w2 hrun => ?_
  · rcases withManifestCrud_run hrun with ⟨_, -, hw⟩ | ⟨_, he, -⟩
    · refine (calm_sendCrudReply message _).sat fun _ w3 _ h3 _ => ?_
      rw [show w3.rt = w2.rt from h3]
      obtain ⟨m, hm, hsync⟩ := h
      obtain ⟨m0, hm0, hm'⟩ := hw.atRoot
      obtain rfl := @AtRoot.eq _ w.rt _ _ hm hm0
      refine ⟨_, hm', fun name' => ?_⟩
      have hreg : w2.rt.entityRegistry = w.rt.entityRegistry.erase name := by rw [hw.frame]
      have hsync := hsync name'
      unfold Registers at hsync ⊢
      rw [hreg, mem_erase_iff, mem_erase_iff, ← hsync]
      exact and_left_comm
    · exact absurd he (by simp)
  · rcases withManifestCrud_failed hrun with hnone | hfail
    · exact absurd hnone h.rooted
    · exact absurd (hfail.symm.trans hf) (by simp)
  · rcases withManifestCrud_run hrun with ⟨_, he, -⟩ | ⟨_, he, -⟩
    · exact absurd he (by simp)
    · exact absurd he (by simp)

/-- The kind is registered, or the manifest at the root binds it. -/
def KindBound (env : Env) (rt : Runtime) (protocol : String) : Prop :=
  rt.kindRegistry[protocol]? ≠ none ∨ ∃ m, AtRoot env rt m ∧ m.kinds.getProtocol protocol ≠ none

theorem KindBound.written {f : RuntimeManifest → RuntimeManifest} {rt rt' : Runtime}
    {protocol : String} {newCid : Cid} (h : KindBound env rt protocol)
    (hw : ManifestWrite env f rt newCid rt') (hf : ∀ m, (f m).kinds = m.kinds) :
    KindBound env rt' protocol := by
  rcases h with hkind | ⟨m, hm, hbound⟩
  · rw [hw.frame]
    exact .inl hkind
  · obtain ⟨m0, hm0, hm'⟩ := hw.atRoot
    obtain rfl := hm.eq hm0
    exact .inr ⟨f m, hm', by rw [hf]; exact hbound⟩

/-- A kind that is bound is found, unless Kubo fails. -/
theorem lookupKind_found {protocol : String} {w : World} (h : KindBound env w.rt protocol) :
    (lookupKind env protocol).Sat [] w fun o w' =>
      w'.io.kuboFailed = false → ∃ kindNode, o = .ok (some kindNode) := by
  refine Proc.sat_holding rfl ?_
  refine Proc.sat_bind_of_ok (a := w.rt.kindRegistry[protocol]?) (t := w) rfl ?_
  cases hkind : w.rt.kindRegistry[protocol]? with
  | some kindNode => exact fun _ => ⟨kindNode, rfl⟩
  | none =>
    obtain ⟨m, hm, hbound⟩ := h.resolve_left fun hne => hne hkind
    obtain ⟨kindLink, hlink⟩ := Option.ne_none_iff_exists'.mp hbound
    rcases hload : loadManifest env [(.kindRegistry, .read)] w with ⟨o, w1⟩
    cases o with
    | stuck => exact absurd (congrArg Prod.fst hload) ((calm_loadManifest rfl).frees w)
    | err e =>
      refine Proc.sat_bind_of_ok (Proc.attempt_of_err hload) fun hf => ?_
      rcases loadManifest_failed rfl hload with hnone | hfail
      · obtain ⟨root, hroot, -⟩ := hm
        exact absurd (hnone.symm.trans hroot) (by simp)
      · exact absurd (hfail.symm.trans hf) (by simp)
    | ok m' =>
      obtain rfl := AtRoot.eq (loadManifest_ok hload) hm
      refine Proc.sat_bind_of_ok (Proc.attempt_of_ok hload) ?_
      dsimp only
      rw [hlink]
      rcases hget : dagGet env.kubo.kinds kindLink.cid [(.kindRegistry, .read)] w1 with ⟨o, w2⟩
      cases o with
      | stuck => exact absurd (congrArg Prod.fst hget) ((calm_dagGet _ _).frees w1)
      | err e =>
        refine Proc.sat_bind_of_ok (Proc.attempt_of_err hget) fun hf => ?_
        exact absurd ((kuboCall_err hget).symm.trans hf) (by simp)
      | ok kindNode =>
        exact Proc.sat_bind_of_ok (Proc.attempt_of_ok hget) fun _ => ⟨kindNode, rfl⟩

/-- A plugin whose kind is bound and which loads is registered, unless Kubo fails. -/
theorem pluginToRegister_found {name : String} {node : EntityNode} {w : World}
    (hbound : KindBound env w.rt node.kind)
    (hloads : ∀ kindNode w1, lookupKind env node.kind [] w = (.ok (some kindNode), w1) →
      ∃ r, (load env name node kindNode [] w1).1 = .ok r) :
    (pluginToRegister env name node).Sat [] w fun o w' =>
      w'.io.kuboFailed = false → ∃ ep, o = .ok (some ep) := by
  have hfound := lookupKind_found hbound
  refine Proc.sat_bind_run (fun k w1 hrun => ?_) (fun e w1 hrun hf => ?_) fun w1 hrun hf => ?_
  · cases k with
    | none =>
      intro hf
      obtain ⟨kindNode, hk⟩ := hfound.of_run hrun hf
      exact absurd hk (by simp)
    | some kindNode =>
      obtain ⟨⟨ep, lifecycle⟩, hload⟩ := hloads kindNode w1 hrun
      exact Proc.sat_bind_of_ok (Proc.attempt_of_ok (Proc.run_of_outcome hload)) fun _ => ⟨ep, rfl⟩
  · obtain ⟨kindNode, hk⟩ := hfound.of_run hrun hf
    exact absurd hk (by simp)
  · obtain ⟨kindNode, hk⟩ := hfound.of_run hrun hf
    exact absurd hk (by simp)

/-- After the link of a name, a registry is in sync that has the name too. -/
theorem InSync.linked {rt rt' : Runtime} {name : String} {cid newCid : Cid}
    {registry : StrMap EntityPlugin} (h : InSync env rt)
    (hw : ManifestWrite env (fun m => { m with entities := m.entities.insert name ⟨cid⟩ }) rt
      newCid rt') (hname : name ≠ schedulerFragment)
    (hregistry : ∀ name', name' ∈ registry ↔ name' = name ∨ name' ∈ rt.entityRegistry) :
    InSync env { rt' with entityRegistry := registry } := by
  refine h.written hw fun m name' hsync => ?_
  unfold Registers at hsync ⊢
  rw [mem_insert_iff, ← hsync]
  show name' ≠ schedulerFragment ∧ name' ∈ registry ↔ _
  rw [hregistry name']
  constructor
  · rintro ⟨hne, rfl | hmem⟩
    · exact .inl rfl
    · exact .inr ⟨hne, hmem⟩
  · rintro (rfl | ⟨hne, hmem⟩)
    · exact ⟨hname, .inl rfl⟩
    · exact ⟨hne, .inr hmem⟩

/-- **An upsert puts the entity into both**, if it was registered before or its kind is bound. -/
theorem upsertEntity_inSync {message : Message} {name path : String} {w : World}
    (h : InSync env w.rt)
    (hkind : ∀ cid node w1, linkEntity env message name path [] w = (.ok (cid, node), w1) →
      name ∈ w.rt.entityRegistry ∨ KindBound env w.rt node.kind)
    (hloads : ∀ cid node w1 kindNode w2,
      linkEntity env message name path [] w = (.ok (cid, node), w1) →
        lookupKind env node.kind [] w1 = (.ok (some kindNode), w2) →
          ∃ r, (load env name node kindNode [] w2).1 = .ok r) :
    (upsertEntity env message name path).Sat [] w fun _ w' =>
      w'.io.kuboFailed = false → InSync env w'.rt := by
  have idle {w' : World} (hi : Idle w w') : InSync env w'.rt := by
    rwa [show w'.rt = w.rt from hi]
  unfold upsertEntity upsertEntityWith
  split
  · exact (calm_sendCrudI18nError _).sat fun _ _ _ hi _ => idle hi
  · split
    · exact (calm_sendCrudI18nErrorf _ _).sat fun _ _ _ hi _ => idle hi
    · rename_i hreserved
      have hname : name ≠ schedulerFragment := by
        rintro rfl
        exact hreserved (by decide)
      have hlink := @linkEntity_sat env message w name path
      refine Proc.sat_bind_run (fun r w1 hrun => ?_)
        (fun e w1 hrun _ => idle (hlink.of_run hrun)) fun w1 hrun => (hlink.of_run hrun).elim
      obtain ⟨cid, node⟩ := r
      obtain ⟨-, -, -, newCid, hw⟩ := hlink.of_run hrun
      have hreg1 : w1.rt.entityRegistry = w.rt.entityRegistry := by rw [hw.frame]
      rcases hplug : pluginToRegister env name node [] w1 with ⟨o, w2⟩
      have hcells := (calm_pluginToRegister name node).of_run hplug
      -- Nothing was registered: the name was there before.
      have skipped (hf : w2.io.kuboFailed = false) (ho : ¬ ∃ ep, o = .ok (some ep)) :
          InSync env w2.rt := by
        have hmem : name ∈ w.rt.entityRegistry := by
          refine (hkind cid node w1 hrun).resolve_right fun hbound => ?_
          have hfound := pluginToRegister_found (hbound.written hw fun _ => rfl)
            fun kindNode w2 hk => hloads cid node w1 kindNode w2 hrun hk
          exact ho (hfound.of_run hplug hf)
        have hsync := @InSync.linked _ _ _ _ _ _ w.rt.entityRegistry h hw hname fun name' =>
          ⟨.inr, fun hor => hor.elim (fun heq => heq ▸ hmem) id⟩
        refine hsync.congr (congrArg Stats.rootCid hcells.2.stats) fun name' => ?_
        unfold Registers
        rw [hcells.2.entityRegistry, hreg1]
      cases o with
      | stuck => exact absurd rfl hcells.1
      | err e =>
        have hregister : registerEntityPlugin env name node [] w1 = (.err e, w2) :=
          Proc.bind_of_err hplug
        exact Proc.sat_bind_of_err hregister fun hf => skipped hf (by simp)
      | ok o =>
        cases o with
        | none =>
          have hregister : registerEntityPlugin env name node [] w1 = (.ok (), w2) :=
            Proc.bind_of_ok hplug
          refine Proc.sat_bind_of_ok hregister fun hf => ?_
          have hmarks := (@calm_sendCrudReply_marks env [] message (.okCid cid)).keeps [] w2
          have hidle := (@calm_sendCrudReply env [] message (.okCid cid)).keeps [] w2
          rw [show _ = w2.rt from hidle]
          refine skipped ?_ (by simp)
          by_contra hfail
          exact absurd ((hmarks.2 (by simpa using hfail)).symm.trans hf) (by simp)
        | some ep =>
          have hregister : registerEntityPlugin env name node [] w1 = (.ok (), { w2 with rt :=
              { w2.rt with entityRegistry := w2.rt.entityRegistry.insert name ep } }) :=
            (Proc.bind_of_ok hplug).trans rfl
          refine Proc.sat_bind_of_ok hregister ((calm_sendCrudReply message _).sat
            fun _ w3 _ h3 _ => ?_)
          rw [show w3.rt = _ from h3]
          have hsync := @InSync.linked _ _ _ _ _ _ (w.rt.entityRegistry.insert name ep) h hw hname
            fun name' => mem_insert_iff
          refine hsync.congr (congrArg Stats.rootCid hcells.2.stats) fun name' => ?_
          unfold Registers
          show _ ∧ name' ∈ w2.rt.entityRegistry.insert name ep ↔ _
          rw [hcells.2.entityRegistry, hreg1]

/-! ### RPC messages -/

/-- None of the deletion requests takes a registered entity away, each seen when its turn comes. -/
def DeletesSpare (entity : EntityPlugin) : List String → StrMap EntityPlugin → Prop
  | [], _ => True
  | target :: targets, registry =>
    (mayDelete entity registry target = true → target = schedulerFragment) ∧
      DeletesSpare entity targets (afterDelete entity registry target)

theorem DeletesSpare.names {entity : EntityPlugin} :
    ∀ {targets : List String} {registry : StrMap EntityPlugin},
      DeletesSpare entity targets registry → ∀ name, name ≠ schedulerFragment →
        (name ∈ targets.foldl (afterDelete entity) registry ↔ name ∈ registry)
  | [], _, _, _, _ => Iff.rfl
  | target :: targets, registry, ⟨hspared, hrest⟩, name, hname => by
    rw [List.foldl_cons, hrest.names name hname]
    unfold afterDelete
    split
    · rename_i hmay
      rw [hspared hmay, mem_erase_iff]
      exact ⟨And.right, fun hmem => ⟨hname, hmem⟩⟩
    · exact Iff.rfl

/-- **A message whose plugin deletes nothing keeps the names**: a creation waits for itself. -/
theorem rpcTurn_inSync {message : Message} {w : World} (h : InSync env w.rt)
    (hspare : ∀ entity result w', RpcResult env message w entity result w' →
      DeletesSpare entity result.deleteRequests w'.rt.entityRegistry)
    (ho : (rpcTurn env message [] w).1 ≠ .stuck)
    (hf : (rpcTurn env message [] w).2.io.kuboFailed = false) :
    InSync env (rpcTurn env message [] w).2.rt := by
  rcases rpcTurn_cases env message w with ⟨entity, result, w', hresult⟩ | ⟨-, hcells⟩
  · have hcells := hresult.cellsOnly
    have hspare := hspare entity result w' hresult
    rw [hresult.run] at ho hf ⊢
    have hroot : w'.rt.stats.rootCid ≠ none := by
      rw [hcells.stats]
      exact h.rooted
    have hcreates := @createRequests_sat env entity result.createRequests _ hroot
    unfold processQueues at ho hf ⊢
    rcases hrun : Proc.each result.createRequests (createRequested env entity) rpcGuards w'
      with ⟨o, w1⟩
    cases o with
    | stuck =>
      rw [Proc.bind_of_stuck hrun] at ho
      exact absurd rfl ho
    | err e => exact absurd (congrArg Prod.fst hrun) (each_createRequested_ne_err e)
    | ok u =>
      rw [Proc.bind_of_ok hrun, deleteRequests_run] at hf ⊢
      have h1 := hcreates.of_run hrun (by simp) hf
      refine h.congr ?_ fun name => and_congr_right fun hname => ?_
      · show w1.rt.stats.rootCid = _
        rw [h1.stats, hcells.stats]
        rfl
      · show name ∈ result.deleteRequests.foldl (afterDelete entity) w1.rt.entityRegistry ↔ _
        rw [h1.entityRegistry, hspare.names name hname, hcells.entityRegistry]
        rfl
  · refine h.congr ?_ fun name => and_congr_right fun _ => ?_
    · rw [hcells.stats]
      rfl
    · rw [hcells.entityRegistry]
      rfl

/-! ## Runs -/

/-- The loads of an upsert succeed: its plugin loads if its kind is found. -/
def UpsertLoads (env : Env) (w : World) : Turn → Prop
  | .crud message => ∀ name path cid node w1 kindNode w2,
    crudRequest env message = some ("entities", [name], .put [.text path]) →
      linkEntity env message name path [] w = (.ok (cid, node), w1) →
        lookupKind env node.kind [] w1 = (.ok (some kindNode), w2) →
          ∃ r, (load env name node kindNode [] w2).1 = .ok r
  | _ => True

/-- When a turn keeps registry and manifest in sync: an upsert is of a registered entity or names a
bound kind, and the plugin of an RPC message deletes nothing. -/
def KeepsSync (env : Env) (w : World) : Turn → Prop
  | .crud message => ∀ name path cid node w1,
    crudRequest env message = some ("entities", [name], .put [.text path]) →
      linkEntity env message name path [] w = (.ok (cid, node), w1) →
        name ∈ w.rt.entityRegistry ∨ KindBound env w.rt node.kind
  | .rpc message => ∀ entity result w', RpcResult env message w entity result w' →
    DeletesSpare entity result.deleteRequests w'.rt.entityRegistry
  | _ => True

/-- A turn without a failed Kubo call or load that keeps registry and manifest in sync. -/
structure SyncStep (env : Env) (w : World) (t : Turn) (w' : World) : Prop where
  step : Step env w t w'
  kubo : w'.io.kuboFailed = false
  loads : UpsertLoads env w t
  keeps : KeepsSync env w t

theorem crudTurn_inSync {message : Message} {w : World} (h : InSync env w.rt)
    (hloads : UpsertLoads env w (.crud message)) (hkeeps : KeepsSync env w (.crud message))
    (hf : (crudTurn env message [] w).2.io.kuboFailed = false) :
    InSync env (crudTurn env message [] w).2.rt := by
  rcases crudTurn_cases env message w with ⟨-, hturn⟩ | ⟨e, hturn⟩
  · rw [hturn] at hf ⊢
    rcases dispatchManagement_cases env message w with ⟨ns, rest, args, hreq, hrun⟩ | ⟨-, -, hidle⟩
    · rw [hrun] at hf ⊢
      by_cases hdelete : ∃ name, (ns, rest, args) = ("entities", [name], .put [])
      · obtain ⟨name, heq⟩ := hdelete
        simp only [Prod.mk.injEq] at heq
        obtain ⟨rfl, rfl, rfl⟩ := heq
        have hsync := @deleteEntity_inSync env message name w h
        exact hsync hf
      · by_cases hupsert : ∃ name path, (ns, rest, args) = ("entities", [name], .put [.text path])
        · obtain ⟨name, path, heq⟩ := hupsert
          simp only [Prod.mk.injEq] at heq
          obtain ⟨rfl, rfl, rfl⟩ := heq
          have hsync := @upsertEntity_inSync env message name path w h
            (fun cid node w1 => hkeeps name path cid node w1 hreq)
            fun cid node w1 kindNode w2 => hloads name path cid node w1 kindNode w2 hreq
          exact hsync hf
        · have heff := (@handleNs_effects env message w ns rest args).2
          exact heff.inSync h (fun name heq => hdelete ⟨name, heq⟩)
            fun name path heq => hupsert ⟨name, path, heq⟩
    · rwa [show _ = w.rt from hidle]
  · rwa [hturn]

/-- **One turn keeps them in sync.** -/
theorem inSync_step {w w' : World} {t : Turn} (h : InSync env w.rt)
    (hstep : SyncStep env w t w') : InSync env w'.rt := by
  obtain ⟨⟨ho⟩, hf, hloads, hkeeps⟩ := hstep
  cases t with
  | rpc message => exact rpcTurn_inSync h hkeeps ho hf
  | ipfs message =>
    have hsame := sameStores_of_turn env w (t := .ipfs message) (by simp)
    refine h.congr hsame.rootCid fun name => and_congr_right fun _ => ?_
    show name ∈ (ipfsTurn env message [] w).2.rt.entityRegistry ↔ _
    rw [ipfsTurn_counted]
  | claim owner => exact claimTurn_cases h fun _ _ => h.congr rfl fun _ => Iff.rfl
  | crud message =>
    exact crudTurn_inSync h hloads hkeeps hf

end InSync

/-! ## A restart -/

section Restart

variable {env : Env}

/-- **The shutdown keeps the names.** -/
theorem shutdown_inSync {w : World} (h : InSync env w.rt) :
    (shutdown env).Sat [] w fun _ w' => w'.rt.entityRegistry = w.rt.entityRegistry ∧
      InSync env w'.rt := by
  have cells {w1 : World} (h1 : CellsOnly w w1) :
      w1.rt.entityRegistry = w.rt.entityRegistry ∧ InSync env w1.rt :=
    ⟨h1.entityRegistry, h.congr (congrArg Stats.rootCid h1.stats) fun name => by
      unfold Registers
      rw [h1.entityRegistry]⟩
  obtain ⟨m, ⟨root, hroot, hm⟩, hsync⟩ := h
  refine Proc.sat_bind_of_ok (a := some root) (t := w)
    (congrArg (fun o => (Lib.Outcome.ok o, w)) hroot) ?_
  refine Proc.sat_bind_of_ok (a := w.rt.entityRegistry.size) (t := w) rfl ?_
  split
  · have hsave := @saveAllEntityStates_sat env root w
    refine Proc.sat_bind (Proc.sat_attempt (hsave.mono fun o w1 ⟨h1, hnew⟩ => ?_))
    cases o with
    | stuck => exact cells h1
    | err e => exact cells h1
    | ok newRoot =>
      obtain ⟨m0, links, m', hm0, hlinks, hm'⟩ := hnew newRoot rfl
      obtain rfl : m = m0 := Option.some_inj.mp (hm.symm.trans hm0)
      refine ⟨h1.entityRegistry, m', ⟨newRoot, rfl, hm'⟩, fun name => ?_⟩
      rw [relinks_names hlinks name, ← hsync name]
      show _ ∧ name ∈ w1.rt.entityRegistry ↔ _
      rw [h1.entityRegistry]
      rfl
  · exact cells (refl_of CellsOnly w)

/-- One entity of startup, by whether it was loaded. -/
theorem loadEntity_registry {manifest : RuntimeManifest} {name : String} {link : IpldLink}
    {w : World} : (loadEntity env manifest name link).Sat [] w fun o w' =>
      o = .ok false ∨ o = .ok true ∧
        ∀ name', name' ∈ w'.rt.entityRegistry ↔ name' = name ∨ name' ∈ w.rt.entityRegistry := by
  obtain ⟨loaded, w', hrun, hload⟩ := loadEntity_run env manifest name link w
  unfold Proc.Sat
  rw [hrun]
  cases hload with
  | skipped _ => exact .inl rfl
  | @loaded node kindNode ep lifecycle w1 _ hload =>
    have hcells := ((calm_load env name node kindNode).of_run hload).2
    have hregistry : w1.rt.entityRegistry = w.rt.entityRegistry := hcells.entityRegistry
    refine .inr ⟨rfl, fun name' => ?_⟩
    show name' ∈ w1.rt.entityRegistry.insert name ep ↔ _
    rw [hregistry, mem_insert_iff]

/-- The entities of a manifest: as many as were counted, and all of them if all were. -/
theorem loadEntities_names {manifest : RuntimeManifest} :
    ∀ (l : List (String × IpldLink)) (n : Nat) (w : World),
      (Proc.fold l n fun loaded (name, link) => do
        pure (if ← loadEntity env manifest name link then loaded + 1 else loaded)).Sat [] w
        fun o w' => ∀ k, o = .ok k → k ≤ n + l.length ∧ (k = n + l.length →
          ∀ name, name ∈ w'.rt.entityRegistry ↔
            name ∈ l.map Prod.fst ∨ name ∈ w.rt.entityRegistry)
  | [], n, w => by
    rintro k hk
    obtain rfl : n = k := Lib.Outcome.ok.inj hk
    exact ⟨le_refl _, fun _ name => ⟨.inr, fun h => h.resolve_left List.not_mem_nil⟩⟩
  | (name, link) :: l, n, w => by
    have hload := @loadEntity_registry env manifest name link w
    refine Proc.sat_bind_run (fun n1 w1 hrun => ?_) (fun e w1 _ => by simp) fun w1 _ => by simp
    have hrest := @loadEntities_names manifest l n1 w1
    refine hrest.mono fun o w' hlast k hk => ?_
    obtain ⟨hle, hall⟩ := hlast k hk
    obtain ⟨b, w2, hb, hpure⟩ := Proc.bind_ok hrun
    obtain ⟨hn1, rfl⟩ : (if b then n + 1 else n) = n1 ∧ w2 = w1 := by simpa using hpure
    rcases hload.of_run hb with hskipped | ⟨hloaded, hnames⟩
    · -- A skipped entity is never made up for.
      obtain rfl : b = false := by simpa using hskipped
      obtain rfl : n = n1 := hn1
      rw [List.length_cons]
      exact ⟨by omega, fun heq => by omega⟩
    · obtain rfl : b = true := by simpa using hloaded
      obtain rfl : n + 1 = n1 := hn1
      rw [List.length_cons]
      refine ⟨by omega, fun heq name' => ?_⟩
      rw [hall (by omega) name', hnames name', List.map_cons, List.mem_cons]
      tauto

/-- The entities of a root that all load. -/
theorem loadEntities_sat {root : Cid} {m : RuntimeManifest}
    (hm : env.kubo.manifests.denotes root = some m) {w : World} :
    (loadEntities env root).Sat [] w fun o w' => o = .ok m.entities.size →
      ∀ name, name ∈ w'.rt.entityRegistry ↔ name ∈ m.entities ∨ name ∈ w.rt.entityRegistry := by
  refine (calm_dagGet env.kubo.manifests root).sat_attempt_bind fun r w1 hget h1 => ?_
  split
  · -- The manifest did not load: none of its entities did, and it has none.
    intro hnone name
    have hempty : m.entities = ∅ :=
      Std.ExtTreeMap.eq_empty_iff_size_eq_zero.mpr (Lib.Outcome.ok.inj hnone).symm
    show name ∈ w1.rt.entityRegistry ↔ _
    rw [h1.cellsOnly.entityRegistry, hempty]
    exact ⟨.inr, fun h => h.resolve_left Std.ExtTreeMap.not_mem_empty⟩
  · rename_i _ manifest
    obtain rfl : m = manifest :=
      Option.some_inj.mp (hm.symm.trans (dagGet_ok (Proc.attempt_ok hget)))
    refine (loadEntities_names m.entities.toList 0 w1).mono fun o w2 hall hk name => ?_
    have hlength : m.entities.size = 0 + m.entities.toList.length := by
      rw [Std.ExtTreeMap.length_toList, Nat.zero_add]
    rw [(hall _ hk).2 hlength name, Std.ExtTreeMap.map_fst_toList_eq_keys,
      Std.ExtTreeMap.mem_keys, h1.cellsOnly.entityRegistry]

/-- All entities of the root load when the daemon starts. -/
def AllLoad (env : Env) (config : Config) (files : StrMap (Except Error Config))
    (cells : Nat → PluginCell) (root : Cid) (m : RuntimeManifest) : Prop :=
  (loadEntities env root [] ⟨blankRuntime config files cells, {}⟩).1 = .ok m.entities.size

instance {config : Config} {files : StrMap (Except Error Config)} {cells : Nat → PluginCell}
    {root : Cid} {m : RuntimeManifest} : Decidable (AllLoad env config files cells root m) :=
  inferInstanceAs (Decidable (_ = _))

/-- **A start registers the entities of its root**, if they load. -/
theorem booted_names {config : Config} {files : StrMap (Except Error Config)}
    {cells : Nat → PluginCell} {root : Cid} {cliOwners : List String} {m : RuntimeManifest}
    (hm : env.kubo.manifests.denotes root = some m) (hload : AllLoad env config files cells root m)
    (name : String) : Registers (booted env config files cells (some root) cliOwners).rt name ↔
      name ≠ schedulerFragment ∧ name ∈ m.entities := by
  obtain ⟨root', w1, w2, w3, ⟨hroot, -⟩, ⟨hrun, -⟩, ⟨-, h3⟩, hstart⟩ :=
    startup_run env (some root) cliOwners ⟨blankRuntime config files cells, {}⟩
  obtain ⟨rfl, rfl⟩ : some root = root' ∧ _ = w1 := by simpa [initialRoot] using hroot
  obtain ⟨k, w4, hk, hpure⟩ := Proc.bind_ok (p := loadEntities env root) hrun
  obtain rfl : w4 = w2 := by simpa using hpure
  obtain rfl : k = m.entities.size := by simpa [AllLoad, hk] using hload
  have hnames := (loadEntities_sat hm).of_run hk rfl name
  unfold booted
  rw [hstart]
  unfold Registers
  refine and_congr_right fun hname => ?_
  show name ∈ w3.rt.entityRegistry ↔ _
  rw [h3.entityRegistry]
  show name ∈ w4.rt.entityRegistry.insert schedulerFragment _ ↔ _
  rw [mem_insert_iff, hnames]
  refine ⟨fun h => ?_, fun h => .inr (.inl h)⟩
  rcases h with heq | hmem | hmem
  · exact absurd heq hname
  · exact hmem
  · exact absurd hmem Std.ExtTreeMap.not_mem_empty

/-- **Startup brings them into sync.** -/
theorem booted_inSync {config : Config} {files : StrMap (Except Error Config)}
    {cells : Nat → PluginCell} {root : Cid} {cliOwners : List String} {m : RuntimeManifest}
    (hm : env.kubo.manifests.denotes root = some m) (hload : AllLoad env config files cells root m)
    (hname : schedulerFragment ∉ m.entities) :
    InSync env (booted env config files cells (some root) cliOwners).rt := by
  refine ⟨m, ⟨root, ?_, hm⟩, fun name => ?_⟩
  · obtain ⟨root', w1, w2, w3, ⟨hroot, -⟩, -, -, hstart⟩ :=
      startup_run env (some root) cliOwners ⟨blankRuntime config files cells, {}⟩
    obtain ⟨rfl, rfl⟩ : some root = root' ∧ _ = w1 := by simpa [initialRoot] using hroot
    unfold booted
    rw [hstart]
    rfl
  · rw [booted_names hm hload]
    refine ⟨And.right, fun h => ⟨?_, h⟩⟩
    rintro rfl
    exact hname h

/-- **Registry and manifest agree along runs**, and the next start finds the entities of the last
state. -/
theorem inSync_run {w w' : World} {ts : List Turn} (h : InSync env w.rt)
    (hr : Run (SyncStep env) w ts w') :
    InSync env w'.rt ∧
      ∀ (env' : Env) (config : Config) (files : StrMap (Except Error Config))
        (cells : Nat → PluginCell) (cliOwners : List String) (root : Cid) (m : RuntimeManifest),
        (shutdown env [] w').2.rt.stats.rootCid = some root →
          env.kubo.manifests.denotes root = some m → env'.kubo.manifests.denotes root = some m →
            AllLoad env' config files cells root m → ∀ name,
              (Registers (booted env' config files cells (some root) cliOwners).rt name ↔
                Registers w'.rt name) := by
  have hend : InSync env w'.rt := hr.invariant (I := fun w => InSync env w.rt) inSync_step h
  refine ⟨hend, fun env' config files cells cliOwners root m hroot hm hm' hload name => ?_⟩
  obtain ⟨hregistry, m1, hm1, hsync⟩ := (shutdown_inSync hend : Proc.Sat _ _ _ _)
  obtain rfl : m = m1 := AtRoot.eq ⟨root, hroot, hm⟩ hm1
  rw [booted_names hm' hload, ← hsync name]
  unfold Registers
  rw [hregistry]
  exact ⟨And.right, fun h => ⟨h.1, h⟩⟩

end Restart

/-! ## An upsert and a deletion -/

/-- A kind whose plugins may delete entities. -/
def leafKind : KindNode :=
  { protocol := "/ma/leaf/0.0.1", api := ["handle_cast"], hostFunctions := ["ma_delete_entity"] }

/-- An entity of that kind. -/
def leafNode : EntityNode :=
  { kind := "/ma/leaf/0.0.1", behaviour := some ⟨"bafyleafwasm"⟩, acl := "open" }

/-- The manifest with the entity. -/
def leafManifest : RuntimeManifest :=
  { kinds := KindTree.insertProtocol {} "/ma/leaf/0.0.1" ⟨"bafyleafkind"⟩
    entities := (∅ : StrMap IpldLink).insert "leaf" ⟨"bafyleafnode"⟩
    acls := (∅ : StrMap IpldLink).insert "open" ⟨"bafyopenacl"⟩ }

/-- The manifest with a second entity of the same node. -/
def twinManifest : RuntimeManifest :=
  { leafManifest with entities := leafManifest.entities.insert "twin" ⟨"bafyleafnode"⟩ }

/-- Kubo with both manifests. -/
def leafTables : Tables where
  manifests := [("bafyroot", leafManifest), ("bafytwin", twinManifest)]
  entities := [("bafyleafnode", leafNode)]
  kinds := [("bafyleafkind", leafKind)]
  acls := [("bafyopenacl", (∅ : AclMap).insert "*" (.fromCaps ["*"]))]
  blobs := [("bafyleafwasm", [0])]

/-- Every cast to the plugin asks for its own deletion. -/
def leafEnv : Env :=
  { leafTables.live with
    guest := fun _ _ _ _ =>
      .call (.maDeleteEntity, Lib.rfcCodec.encode (.text "leaf")) (.error "trap", []) fun _ =>
        .done (.ok [], []) }

/-- The daemon with the entity loaded. -/
def leafStart : World := started leafEnv (some "bafyroot") ["did:ma:alice"]

/-- The owner links the node under a second name. -/
def plantTwin : Message := crudMessage "did:ma:alice" ":entities.twin" (.text "bafyleafnode")

/-- The owner casts to the entity. -/
def dropLeaf : Message where
  id := "m1"
  «from» := "did:ma:alice"
  «to» := "did:ma:runtime#leaf"
  messageType := "application/x-ma-rpc"
  contentType := "application/cbor"
  createdAt := 0
  exp := 0
  replyTo := none
  payload := Lib.rfcCodec.encode (.text ":drop")

set_option maxRecDepth 100000

theorem leafStart_inSync : InSync leafEnv leafStart.rt :=
  booted_inSync (m := leafManifest) rfl (by decide +kernel) (by decide)

/-- The daemon after the second entity. -/
def twinPlanted : World := (crudTurn leafEnv plantTwin [] leafStart).2

theorem plantTwin_sync : SyncStep leafEnv leafStart (.crud plantTwin) twinPlanted := by
  have hreq : crudRequest leafEnv plantTwin =
      some ("entities", ["twin"], .put [.text "bafyleafnode"]) := by decide +kernel
  have hlink : (linkEntity leafEnv plantTwin "twin" "bafyleafnode" [] leafStart).1 =
      .ok ("bafyleafnode", leafNode) := by decide +kernel
  have hread {name path : String}
      (h : crudRequest leafEnv plantTwin = some ("entities", [name], .put [.text path])) :
      name = "twin" ∧ path = "bafyleafnode" := by
    rw [hreq] at h
    simp only [Option.some.injEq, Prod.mk.injEq, List.cons.injEq, Args.put.injEq,
      Lib.Cbor.text.injEq, and_true, true_and] at h
    exact ⟨h.1.symm, h.2.symm⟩
  refine ⟨.turn (by decide +kernel), by decide +kernel, ?_, ?_⟩
  · intro name path cid node w1 kindNode w2 h hlinked hkind
    obtain ⟨rfl, rfl⟩ := hread h
    rw [hlinked] at hlink
    obtain ⟨rfl, rfl⟩ : cid = "bafyleafnode" ∧ node = leafNode := by simpa using hlink
    obtain rfl := congrArg Prod.snd hlinked
    have hfound : (lookupKind leafEnv leafNode.kind []
        (linkEntity leafEnv plantTwin "twin" "bafyleafnode" [] leafStart).2).1 =
          .ok (some leafKind) := by decide +kernel
    rw [hkind] at hfound
    obtain rfl : kindNode = leafKind := by simpa using hfound
    obtain rfl := congrArg Prod.snd hkind
    exact ⟨({ fragment := "twin", kind := .stateless, acl := "open", parent := none
              backend := .extism 1 }, .running), by decide +kernel⟩
  · intro name path cid node w1 h hlinked
    obtain ⟨rfl, rfl⟩ := hread h
    rw [hlinked] at hlink
    obtain ⟨rfl, rfl⟩ : cid = "bafyleafnode" ∧ node = leafNode := by simpa using hlink
    exact .inr (.inr ⟨leafManifest, ⟨"bafyroot", by decide +kernel, rfl⟩, by decide +kernel⟩)

/-- After an upsert of a second entity, a shutdown and a restart, both are registered. -/
theorem inSync_run_twin :
    ∃ w, Run (SyncStep leafEnv) leafStart [.crud plantTwin] w ∧ InSync leafEnv w.rt ∧
      (shutdown leafEnv [] w).2.rt.stats.rootCid = some "bafytwin" ∧
      (Registers w.rt "twin" ∧ Registers (started leafEnv (some "bafytwin") []).rt "twin") := by
  have hrun : Run (SyncStep leafEnv) leafStart [.crud plantTwin] twinPlanted :=
    .cons plantTwin_sync (.nil _)
  have hroot : (shutdown leafEnv [] twinPlanted).2.rt.stats.rootCid = some "bafytwin" := by
    decide +kernel
  have htwin : Registers twinPlanted.rt "twin" := ⟨by decide, by decide +kernel⟩
  obtain ⟨hsync, hrestart⟩ := inSync_run leafStart_inSync hrun
  have hnames := hrestart leafEnv plainConfig ∅ (fun _ => emptyCell) [] "bafytwin" twinManifest
    hroot rfl rfl (by decide +kernel) "twin"
  exact ⟨_, hrun, hsync, hroot, htwin, hnames.mpr htwin⟩

/-- The daemon after the deletion. -/
def leafDropped : World := (rpcTurn leafEnv dropLeaf [] leafStart).2

/-- **A deleted entity comes back**: the plugin's request takes it out of the registry and not out
of the manifest, and a restart from the shutdown root loads it again. -/
theorem deleted_entity_returns :
    InSync leafEnv leafStart.rt ∧ Step leafEnv leafStart (.rpc dropLeaf) leafDropped ∧
      leafDropped.io.kuboFailed = false ∧ ¬ InSync leafEnv leafDropped.rt ∧
      (shutdown leafEnv [] leafDropped).2.rt.stats.rootCid = some "bafyroot" ∧
      AllLoad leafEnv plainConfig ∅ (fun _ => emptyCell) "bafyroot" leafManifest ∧
      ¬ Registers leafDropped.rt "leaf" ∧
      Registers (started leafEnv (some "bafyroot") []).rt "leaf" := by
  have hgone : "leaf" ∉ leafDropped.rt.entityRegistry := by decide +kernel
  refine ⟨leafStart_inSync, .turn (by decide +kernel), by decide +kernel, ?_, by decide +kernel,
    by decide +kernel, fun h => hgone h.2, by decide, by decide +kernel⟩
  rintro ⟨m, hm, hsync⟩
  have hroot : AtRoot leafEnv leafDropped.rt leafManifest := ⟨"bafyroot", by decide +kernel, rfl⟩
  obtain rfl := hm.eq hroot
  exact hgone ((hsync "leaf").mpr (by decide)).2

end MaRuntime
