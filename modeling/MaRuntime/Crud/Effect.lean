import MaRuntime.Crud.Dispatch

/-!
# What a CRUD message can do

`CrudEffect` lists every change of the shared state that a request can make, with the guards the
source checks on the way. `crudTurn_effect` says that no turn does anything else, on the error
paths too, and that no turn gets stuck on a lock. Invariants are read off the constructors.

* `ManifestWrite` is a `with_manifest_crud` that went through: the manifest at `stats.root_cid` was
  rewritten, and the owners were taken over from the new one.
* `crudRequest` is what a payload asks for; `passesCrudGate` is the verdict of the gate.
-/

namespace MaRuntime

open Lib (Cbor Proc)

/-! ## Effects -/

/-- The shared state after a manifest write. -/
def Runtime.withManifest (rt : Runtime) (m : RuntimeManifest) (newCid : Cid) : Runtime :=
  { rt with
    stats := { rt.stats with
      entityNames := rt.entityRegistry.keys
      rootCid := some newCid
      owners := (manifestOwners m).getD rt.stats.owners } }

/-- The manifest at the root was rewritten by `f`. -/
inductive ManifestWrite (env : Env) (f : RuntimeManifest → RuntimeManifest) (rt : Runtime) :
    Cid → Runtime → Prop where
  | intro {oldCid newCid : Cid} {m : RuntimeManifest} (hroot : rt.stats.rootCid = some oldCid)
      (hold : env.kubo.manifests.denotes oldCid = some m)
      (hnew : env.kubo.manifests.denotes newCid = some (f m)) :
      ManifestWrite env f rt newCid (rt.withManifest (f m) newCid)

/-- `m` is the manifest at the root. -/
def AtRoot (env : Env) (rt : Runtime) (m : RuntimeManifest) : Prop :=
  ∃ root, rt.stats.rootCid = some root ∧ env.kubo.manifests.denotes root = some m

theorem AtRoot.eq {env : Env} {rt : Runtime} {m m' : RuntimeManifest} (h : AtRoot env rt m)
    (h' : AtRoot env rt m') : m = m' := by
  obtain ⟨root, hroot, hm⟩ := h
  obtain ⟨root', hroot', hm'⟩ := h'
  obtain rfl : root = root' := by simpa [hroot] using hroot'
  simpa [hm] using hm'

/-- The manifest at the root, if there is one. -/
def manifestAt (env : Env) (rt : Runtime) : Option RuntimeManifest :=
  rt.stats.rootCid.bind env.kubo.manifests.denotes

theorem manifestAt_eq_some {env : Env} {rt : Runtime} {m : RuntimeManifest} :
    manifestAt env rt = some m ↔ AtRoot env rt m :=
  Option.bind_eq_some_iff

/-- The root manifest is a matter of `stats.root_cid`. -/
theorem atRoot_congr {env : Env} {rt rt' : Runtime} {m : RuntimeManifest}
    (h : rt'.stats.rootCid = rt.stats.rootCid) : AtRoot env rt' m ↔ AtRoot env rt m := by
  unfold AtRoot
  rw [h]

/-- A manifest write goes from one manifest to the other. -/
theorem ManifestWrite.atRoot {env : Env} {f : RuntimeManifest → RuntimeManifest}
    {rt rt' : Runtime} {newCid : Cid} (h : ManifestWrite env f rt newCid rt') :
    ∃ m, AtRoot env rt m ∧ AtRoot env rt' (f m) := by
  obtain ⟨hroot, hold, hnew⟩ := h
  exact ⟨_, ⟨_, hroot, hold⟩, ⟨_, rfl, hnew⟩⟩

/-- A manifest write touches `stats` only. -/
theorem ManifestWrite.frame {env : Env} {f : RuntimeManifest → RuntimeManifest} {rt rt' : Runtime}
    {newCid : Cid} (h : ManifestWrite env f rt newCid rt') :
    rt' = { rt with stats := rt'.stats } := by
  cases h
  rfl

/-- `register_entity_plugin`: a plugin of the node was registered, or nothing was. -/
inductive Registered (name : String) (node : EntityNode) (rt : Runtime) : Runtime → Prop where
  | skipped {cells : Nat → PluginCell} {nextCell : Nat} :
      Registered name node rt { rt with cells := cells, nextCell := nextCell }
  | loaded {ep : EntityPlugin} {cells : Nat → PluginCell} {nextCell : Nat}
      (hfragment : ep.fragment = name) (hacl : ep.acl = node.acl)
      (hparent : ep.parent = node.parent) :
      Registered name node rt
        { rt with
          cells := cells, nextCell := nextCell
          entityRegistry := rt.entityRegistry.insert name ep }

/-- `dag_resolve` can answer the CID. -/
def ResolvesTo (env : Env) (path : String) (cid : Cid) : Prop :=
  if Text.startsWith path "/" then ∃ n, env.kubo.resolve n path = .ok cid else cid = path

/-- The namespace, the segments and the arguments of a request. -/
abbrev CrudRequest := String × List String × Args

/-- The changes of the shared state that a request can make. -/
inductive CrudEffect (env : Env) (sender : String) : CrudRequest → Runtime → Runtime → Prop where
  | idle {req : CrudRequest} {rt : Runtime} : CrudEffect env sender req rt rt
  | configDelete {rt rt' : Runtime} {key : String} {newCid : Cid}
      (hw : ManifestWrite env (fun m => { m with config := m.config.erase key }) rt newCid rt') :
      CrudEffect env sender ("config", [key], .put []) rt rt'
  | configSet {rt rt' : Runtime} {key : String} {value : Cbor} {newCid : Cid}
      (hkey : manifestConfigKeys.contains key = true)
      (hw : ManifestWrite env
        (fun m =>
          { m with config := m.config.insert key ((cborToYaml value).viaJson env.readFloat) })
          rt newCid rt') :
      CrudEffect env sender ("config", [key], .put [value]) rt rt'
  | daemonSet {rt : Runtime} {key : String} {value : Cbor}
      {files : StrMap (Except Error Config)} (hkey : daemonConfigKeys.contains key = true) :
      CrudEffect env sender ("config", [key], .put [value]) rt
        { rt with
          sharedConfig := setDaemonConfigKey rt.sharedConfig (cborToYaml value) key
          files := files }
  | aclSet {rt rt' : Runtime} {rest : List String} {cid newCid : Cid} {doc : AclMap}
      (hdoc : env.kubo.acls.denotes cid = some doc)
      (hw : ManifestWrite env (fun m => { m with acl := some ⟨cid⟩ }) rt newCid rt') :
      CrudEffect env sender ("acl", rest, .put [.text cid]) rt
        { rt' with rootAcl := injectOwners doc }
  | aclsSet {rt rt' : Runtime} {aclName : String} {cid newCid : Cid} {cache : StrMap AclMap}
      (hw : ManifestWrite env (fun m => { m with acls := m.acls.insert aclName ⟨cid⟩ })
        rt newCid rt')
      (hcache : cache = rt.aclCache ∨ ∃ doc, env.kubo.acls.denotes cid = some doc ∧
        cache = rt.aclCache.insert (aclCacheKey aclName) (injectOwners doc)) :
      CrudEffect env sender ("acls", [aclName], .put [.text cid]) rt
        { rt' with aclCache := cache }
  | aclsDelete {rt rt' : Runtime} {aclName : String} {newCid : Cid}
      (hw : ManifestWrite env (fun m => { m with acls := m.acls.erase aclName }) rt newCid rt') :
      CrudEffect env sender ("acls", [aclName], .put []) rt
        { rt' with aclCache := rt.aclCache.erase (aclCacheKey aclName) }
  | kindSet {rt rt' : Runtime} {protocol : String} {cid newCid : Cid}
      (hw : ManifestWrite env
        (fun m => { m with kinds := m.kinds.insertProtocol protocol ⟨cid⟩ }) rt newCid rt') :
      CrudEffect env sender ("kinds", [], .put [.array [.text protocol, .text cid]]) rt rt'
  | kindDelete {rt rt' : Runtime} {protocol : String} {newCid : Cid}
      (hw : ManifestWrite env (fun m => { m with kinds := m.kinds.removeProtocol protocol })
        rt newCid rt') :
      CrudEffect env sender ("kinds", [], .put [.array [.text protocol]]) rt rt'
  | entityDelete {rt rt' : Runtime} {name : String} {newCid : Cid}
      (hcap : checkFullNoGroups env.core rt.rootAcl sender ["delete", "entities"] = .ok ())
      (hw : ManifestWrite env (fun m => { m with entities := m.entities.erase name })
        { rt with entityRegistry := rt.entityRegistry.erase name } newCid rt') :
      CrudEffect env sender ("entities", [name], .put []) rt rt'
  | entityDeleteCut {rt : Runtime} {name : String}
      (hcap : checkFullNoGroups env.core rt.rootAcl sender ["delete", "entities"] = .ok ()) :
      CrudEffect env sender ("entities", [name], .put []) rt
        { rt with entityRegistry := rt.entityRegistry.erase name }
  | entityUpsert {rt rt1 rt2 : Runtime} {name path : String} {cid newCid : Cid}
      {node : EntityNode} (hcid : ResolvesTo env path cid)
      (hnode : env.kubo.entities.denotes cid = some node)
      (hname : reservedEntityNames.contains name = false)
      (hcap : checkFullNoGroups env.core rt.rootAcl sender [node.kind] = .ok ())
      (hw : ManifestWrite env (fun m => { m with entities := m.entities.insert name ⟨cid⟩ })
        rt newCid rt1)
      (hreg : Registered name node rt1 rt2) :
      CrudEffect env sender ("entities", [name], .put [.text path]) rt rt2
  | entityAcl {rt rt' : Runtime} {name aclName : String} {args : Args} {oldCid cid newCid : Cid}
      {m : RuntimeManifest} {link : IpldLink} {node : EntityNode}
      (hargs : args = .put [.text aclName] ∨ args = .put [] ∧ aclName = "")
      (hroot : rt.stats.rootCid = some oldCid)
      (hold : env.kubo.manifests.denotes oldCid = some m) (hlink : m.entities[name]? = some link)
      (hnode : env.kubo.entities.denotes link.cid = some node)
      (hcid : env.kubo.entities.denotes cid = some { node with acl := aclName })
      (hw : ManifestWrite env (fun m => { m with entities := m.entities.insert name ⟨cid⟩ })
        rt newCid rt') :
      CrudEffect env sender ("entities", [name, "acl"], args) rt rt'

/-- The end of a request: not stuck, and with one of its effects. -/
def Effects (env : Env) (sender : String) (req : CrudRequest) (w : World)
    (o : Lib.Outcome Error Unit) (w' : World) : Prop :=
  o ≠ .stuck ∧ CrudEffect env sender req w.rt w'.rt

/-! ## Helpers -/

section Helpers

variable {env : Env} {g : Lib.Guards Lock}

theorem calm_sendCrudReply (message : Message) (body : ReplyBody) :
    Proc.Calm g Idle (sendCrudReply env message body) := by
  unfold sendCrudReply
  dsimp only
  split
  · exact Proc.calm_fail _
  · refine calm_nextCall.bind fun n => ?_
    split
    · exact Proc.calm_fail _
    · exact Proc.calm_pure _
    · exact Proc.calm_fail _
    · exact calm_modifyIo _

theorem calm_currentRootCid (hg : g.excludes .stats .read = false) :
    Proc.Calm g Idle currentRootCid := by
  refine (calm_readStats _ hg).bind fun root => ?_
  split
  · exact Proc.calm_pure _
  · exact Proc.calm_fail _

theorem currentRootCid_ok {w w' : World} {root : Cid}
    (h : currentRootCid g w = (.ok root, w')) : w.rt.stats.rootCid = some root := by
  unfold currentRootCid at h
  obtain ⟨o, w1, h1, h⟩ := Proc.bind_ok h
  unfold readStats reading Proc.holding at h1
  split at h1
  · exact absurd h1 (by simp)
  · simp only [getRt, Proc.look_run, Prod.mk.injEq, Lib.Outcome.ok.injEq] at h1
    cases o with
    | none => simp only [Proc.fail_run, Prod.mk.injEq, reduceCtorEq, false_and] at h
    | some cid =>
      simp only [Proc.pure_run, Prod.mk.injEq, Lib.Outcome.ok.injEq] at h
      rw [h1.1, h.1]

theorem calm_loadManifest (hg : g.excludes .stats .read = false) :
    Proc.Calm g Idle (loadManifest env) :=
  (calm_currentRootCid hg).bind fun _ => calm_dagGet _ _

/-- A manifest that was loaded is the one at the root. -/
theorem loadManifest_ok {w w' : World} {m : RuntimeManifest}
    (h : loadManifest env g w = (.ok m, w')) :
    ∃ root, w.rt.stats.rootCid = some root ∧ env.kubo.manifests.denotes root = some m := by
  obtain ⟨root, w1, h1, h⟩ := Proc.bind_ok h
  exact ⟨root, currentRootCid_ok h1, dagGet_ok h⟩

theorem currentRootCid_run {w : World}
    (hg : g.excludes .stats .read = false) : currentRootCid g w =
      match w.rt.stats.rootCid with
      | some cid => (.ok cid, w)
      | none => (.err ["no manifest root CID available"], w) := by
  have hread : readStats (fun s => s.rootCid) g w = (.ok w.rt.stats.rootCid, w) := by
    unfold readStats reading
    rw [Proc.holding_run hg]
    rfl
  unfold currentRootCid
  rw [Proc.bind_of_ok hread]
  cases w.rt.stats.rootCid with
  | some cid => rfl
  | none => rfl

/-- A manifest that loads is the answer of Kubo about the root. -/
theorem loadManifest_iff {w w' : World} {m : RuntimeManifest}
    (hg : g.excludes .stats .read = false) : loadManifest env g w = (.ok m, w') ↔
      ∃ root, w.rt.stats.rootCid = some root ∧
        env.kubo.manifests.get w.io.calls root = .ok m ∧ w' = w.afterCalls 1 := by
  have hrun := @currentRootCid_run g w hg
  constructor
  · intro h
    obtain ⟨root, w1, hroot, h⟩ := Proc.bind_ok h
    rw [hrun] at hroot
    cases hcid : w.rt.stats.rootCid with
    | none =>
      rw [hcid] at hroot
      exact absurd hroot (by simp)
    | some cid =>
      rw [hcid] at hroot
      obtain ⟨rfl, rfl⟩ : cid = root ∧ w = w1 := by simpa using hroot
      exact ⟨cid, rfl, dagGet_run_ok h⟩
  · rintro ⟨root, hroot, hget, rfl⟩
    rw [hroot] at hrun
    exact (Proc.bind_of_ok hrun).trans (dagGet_of_get hget)

/-- **The rule of `with_manifest_crud`**: it fails and changes nothing, or writes the manifest. -/
theorem withManifestCrud_sat {f : RuntimeManifest → RuntimeManifest} {w : World}
    {Q : Lib.Outcome Error Cid → World → Prop} (herr : ∀ e w', Idle w w' → Q (.err e) w')
    (hok : ∀ newCid w', ManifestWrite env f w.rt newCid w'.rt → Q (.ok newCid) w') :
    (withManifestCrud env fun m => .ok (f m)).Sat [] w Q := by
  refine (calm_currentRootCid rfl).sat_bind herr fun oldCid w1 hroot h1 => ?_
  refine (calm_dagGet _ _).sat_bind (fun e w' h => herr e w' (trans_of Idle h1 h))
    fun m w2 hget h2 => ?_
  have h12 : Idle w w2 := trans_of Idle h1 h2
  refine (Proc.calm_pure (R := Idle) _).sat_bind (fun e w' h => herr e w' (trans_of Idle h12 h))
    fun m' w3 hm h3 => ?_
  simp only [Proc.pure_run, Prod.mk.injEq, Lib.Outcome.ok.injEq] at hm
  obtain ⟨rfl, rfl⟩ := hm
  refine (calm_dagPut _ _).sat_bind (fun e w' h => herr e w' (trans_of Idle h12 h))
    fun newCid w4 hput h4 => ?_
  refine (calm_pinUpdate env _ _).attempt.sat_bind
    (fun e w' h => herr e w' (trans_of Idle h12 (trans_of Idle h4 h))) fun _ w5 _ h5 => ?_
  have h15 : w5.rt = w.rt := trans_of Idle h12 (trans_of Idle h4 h5)
  refine hok newCid _ ?_
  show ManifestWrite env f w.rt newCid (w5.rt.withManifest (f m) newCid)
  rw [h15]
  exact .intro (currentRootCid_ok hroot) (dagGet_ok hget) (dagPut_ok hput)

theorem withManifestCrud_run {f : RuntimeManifest → RuntimeManifest} {w w' : World}
    {o : Lib.Outcome Error Cid} (h : withManifestCrud env (fun m => .ok (f m)) [] w = (o, w')) :
    (∃ newCid, o = .ok newCid ∧ ManifestWrite env f w.rt newCid w'.rt) ∨
      ∃ e, o = .err e ∧ Idle w w' := by
  have hsat : (withManifestCrud env fun m => .ok (f m)).Sat [] w fun o w' =>
      (∃ newCid, o = .ok newCid ∧ ManifestWrite env f w.rt newCid w'.rt) ∨
        ∃ e, o = .err e ∧ Idle w w' :=
    withManifestCrud_sat (fun e _ hidle => .inr ⟨e, rfl, hidle⟩)
      fun newCid _ hw => .inl ⟨newCid, rfl, hw⟩
  exact hsat.of_run h

theorem withManifestCrud_bind {β : Type} {f : RuntimeManifest → RuntimeManifest} {k : Cid → M β}
    {w : World} {Q : Lib.Outcome Error β → World → Prop}
    (herr : ∀ e w', Idle w w' → Q (.err e) w')
    (hok : ∀ newCid w', ManifestWrite env f w.rt newCid w'.rt → (k newCid).Sat [] w' Q) :
    (withManifestCrud env (fun m => .ok (f m)) >>= k).Sat [] w Q :=
  Proc.sat_bind (withManifestCrud_sat herr hok)

/-- Kubo serves the manifest at the root and takes the one that `f` makes of it. -/
def Rewritable (env : Env) (f : RuntimeManifest → RuntimeManifest) (w : World) : Prop :=
  ∃ root m newCid, w.rt.stats.rootCid = some root ∧
    env.kubo.manifests.get w.io.calls root = .ok m ∧
    env.kubo.manifests.put (w.io.calls + 1) (f m) = .ok newCid

/-- **`with_manifest_crud` gets through** exactly where Kubo answers the get and the put. -/
theorem withManifestCrud_ok_iff {f : RuntimeManifest → RuntimeManifest} {w : World} :
    (∃ newCid, (withManifestCrud env (fun m => .ok (f m)) [] w).1 = .ok newCid) ↔
      Rewritable env f w := by
  have hread := @currentRootCid_run [] w rfl
  constructor
  · rintro ⟨newCid, ho⟩
    obtain ⟨root, w1, hroot, h⟩ := Proc.bind_ok (Proc.run_of_outcome ho)
    obtain ⟨m, w2, hget, h⟩ := Proc.bind_ok h
    obtain ⟨m', w3, hf, h⟩ := Proc.bind_ok h
    obtain ⟨cid, w4, hput, -⟩ := Proc.bind_ok h
    have hroot' := currentRootCid_ok hroot
    rw [hroot'] at hread
    obtain rfl : w = w1 := congrArg Prod.snd (hread.symm.trans hroot)
    obtain ⟨hserved, rfl⟩ := dagGet_run_ok hget
    obtain ⟨rfl, rfl⟩ : f m = m' ∧ w.afterCalls 1 = w3 := by
      simpa [Proc.ofExcept] using hf
    unfold dagPut at hput
    rw [kuboCall_run] at hput
    cases htaken : env.kubo.manifests.put (w.afterCalls 1).io.calls (f m) with
    | ok newCid' => exact ⟨root, m, newCid', hroot', hserved, htaken⟩
    | error e =>
      rw [htaken] at hput
      exact absurd hput (by simp)
  · rintro ⟨root, m, newCid, hroot, hserved, htaken⟩
    rw [hroot] at hread
    have hget : dagGet env.kubo.manifests root [] w = (.ok m, w.afterCalls 1) :=
      dagGet_of_get hserved
    have hput : dagPut env.kubo.manifests (f m) [] (w.afterCalls 1) =
        (.ok newCid, (w.afterCalls 1).afterCalls 1) := dagPut_of_put htaken
    obtain ⟨r, w3, hpin⟩ := (calm_pinUpdate (g := []) env root newCid).frees.attempt_run
      ((w.afterCalls 1).afterCalls 1)
    refine ⟨newCid, ?_⟩
    unfold withManifestCrud
    rw [Proc.bind_of_ok hread, Proc.bind_of_ok hget,
      Proc.bind_of_ok (a := f m) (t := w.afterCalls 1) rfl, Proc.bind_of_ok hput,
      Proc.bind_of_ok hpin]
    rfl

/-- The rule of `with_manifest_crud`, by whether Kubo lets it through. -/
theorem withManifestCrud_rewrites {f : RuntimeManifest → RuntimeManifest} {w : World} :
    (withManifestCrud env fun m => .ok (f m)).Sat [] w fun o w' =>
      Rewritable env f w ∧ (∃ newCid, o = .ok newCid ∧ ManifestWrite env f w.rt newCid w'.rt) ∨
        ¬ Rewritable env f w ∧ (∃ e, o = .err e) ∧ Idle w w' := by
  have hiff := @withManifestCrud_ok_iff env f w
  rcases hrun : withManifestCrud env (fun m => .ok (f m)) [] w with ⟨o, w'⟩
  unfold Proc.Sat
  rw [hrun] at hiff ⊢
  rcases withManifestCrud_run hrun with ⟨newCid, rfl, hw⟩ | ⟨e, rfl, hidle⟩
  · exact .inl ⟨hiff.mp ⟨newCid, rfl⟩, newCid, rfl, hw⟩
  · exact .inr ⟨fun h => absurd (hiff.mpr h) (by simp), ⟨e, rfl⟩, hidle⟩

theorem loadAclFromCid_ok {cid : Cid} {w w' : World} {acl : AclMap}
    (h : loadAclFromCid env cid g w = (.ok acl, w')) :
    ∃ doc, env.kubo.acls.denotes cid = some doc ∧ acl = injectOwners doc := by
  obtain ⟨doc, w1, h1, h⟩ := Proc.bind_ok h
  simp only [Proc.pure_run, Prod.mk.injEq, Lib.Outcome.ok.injEq] at h
  exact ⟨doc, dagGet_ok (withContext_ok h1), h.1.symm⟩

theorem calm_lookupKind (protocol : String) : Proc.Calm [] Idle (lookupKind env protocol) := by
  refine Proc.Calm.holding rfl ((calm_getRt _).bind fun k => ?_)
  split
  · exact Proc.calm_pure _
  · refine (calm_loadManifest rfl).attempt.bind fun r => ?_
    split
    · exact Proc.calm_pure _
    · split
      · exact Proc.calm_pure _
      · exact (calm_dagGet _ _).attempt.bind fun _ => Proc.calm_pure _

theorem calm_pluginToRegister (name : String) (node : EntityNode) :
    Proc.Calm [] CellsOnly (pluginToRegister env name node) := by
  refine ((calm_lookupKind _).mono fun _ _ h => h.cellsOnly).bind fun k => ?_
  split
  · exact Proc.calm_pure _
  · refine (calm_load env _ _ _).attempt.bind fun r => ?_
    split
    · exact Proc.calm_pure _
    · exact Proc.calm_pure _

/-- A plugin about to be registered copies the node. -/
theorem pluginToRegister_ok {name : String} {node : EntityNode} {w w' : World}
    {ep : EntityPlugin} (h : pluginToRegister env name node [] w = (.ok (some ep), w')) :
    ep.fragment = name ∧ ep.acl = node.acl ∧ ep.parent = node.parent := by
  obtain ⟨k, w1, -, h⟩ := Proc.bind_ok h
  cases k with
  | none =>
    simp only [Proc.pure_run, Prod.mk.injEq, Lib.Outcome.ok.injEq, reduceCtorEq, false_and] at h
  | some kindNode =>
    obtain ⟨r, w2, h2, h⟩ := Proc.bind_ok h
    cases r with
    | error e =>
      simp only [Proc.pure_run, Prod.mk.injEq, Lib.Outcome.ok.injEq, reduceCtorEq, false_and] at h
    | ok r =>
      simp only [Proc.pure_run, Prod.mk.injEq, Lib.Outcome.ok.injEq, Option.some.injEq] at h
      obtain ⟨rfl, rfl⟩ := h
      obtain ⟨hfragment, -, hacl, hparent⟩ := load_ok (Proc.attempt_ok h2)
      exact ⟨hfragment, hacl, hparent⟩

/-- **The rule of `register_entity_plugin`.** -/
theorem registerEntityPlugin_sat {name : String} {node : EntityNode} {w : World} :
    (registerEntityPlugin env name node).Sat [] w fun o w' =>
      o ≠ .stuck ∧ Registered name node w.rt w'.rt := by
  have skipped {w' : World} (h : CellsOnly w w') : Registered name node w.rt w'.rt := by
    rw [show w'.rt = _ from h]
    exact .skipped
  refine (calm_pluginToRegister name node).sat_bind (fun e w' h => ⟨by simp, skipped h⟩)
    fun o w1 hrun h1 => ?_
  cases o with
  | none => exact ⟨by simp, skipped h1⟩
  | some ep =>
    obtain ⟨hfragment, hacl, hparent⟩ := pluginToRegister_ok hrun
    refine ⟨by simp [writing, Proc.holding, modifyRt, Lib.Guards.excludes], ?_⟩
    show Registered name node w.rt
      { w1.rt with entityRegistry := w1.rt.entityRegistry.insert name ep }
    rw [show w1.rt = _ from h1]
    exact .loaded hfragment hacl hparent

/-- Registering a plugin: it goes into the registry if it loads, else the registry stays. -/
theorem registerEntityPlugin_registry {name : String} {node : EntityNode} {w : World} :
    (registerEntityPlugin env name node).Sat [] w fun _ w' =>
      w'.rt.stats = w.rt.stats ∧
        ((¬ ∃ ep, (pluginToRegister env name node [] w).1 = .ok (some ep)) ∧
            w'.rt.entityRegistry = w.rt.entityRegistry ∨
          ∃ ep, (pluginToRegister env name node [] w).1 = .ok (some ep) ∧ ep.acl = node.acl ∧
            w'.rt.entityRegistry = w.rt.entityRegistry.insert name ep) := by
  have hcells {o : Lib.Outcome Error (Option EntityPlugin)} {w1 : World}
      (hrun : pluginToRegister env name node [] w = (o, w1)) : CellsOnly w w1 :=
    ((calm_pluginToRegister name node).of_run hrun).2
  refine Proc.sat_bind_run (fun o w1 hrun => ?_) (fun e w1 hrun => ?_)
    fun w1 hrun => absurd rfl ((calm_pluginToRegister name node).of_run hrun).1
  · have h1 := hcells hrun
    cases o with
    | none => exact ⟨h1.stats, .inl ⟨by rw [hrun]; simp, h1.entityRegistry⟩⟩
    | some ep =>
      obtain ⟨-, hacl, -⟩ := pluginToRegister_ok hrun
      exact ⟨h1.stats, .inr ⟨ep, by rw [hrun], hacl,
        congrArg (·.insert name ep) h1.entityRegistry⟩⟩
  · have h1 := hcells hrun
    exact ⟨h1.stats, .inl ⟨by rw [hrun]; simp, h1.entityRegistry⟩⟩

theorem calm_checkEntityManagementCap (message : Message) (caps : List String) :
    Proc.Calm [] Idle (checkEntityManagementCap env message caps) :=
  Proc.Calm.holding rfl ((calm_getRt _).bind fun _ => calm_withContext _ (Proc.calm_ofExcept _))

/-- The management gate passes what `check_full` accepts. -/
theorem checkEntityManagementCap_ok {message : Message} {caps : List String} {w w' : World}
    (h : checkEntityManagementCap env message caps [] w = (.ok (), w')) :
    checkFullNoGroups env.core w.rt.rootAcl message.from caps = .ok () := by
  unfold checkEntityManagementCap reading Proc.holding at h
  rw [if_neg (by simp [Lib.Guards.excludes])] at h
  obtain ⟨acl, w1, h1, h⟩ := Proc.bind_ok h
  simp only [getRt, Proc.look_run, Prod.mk.injEq, Lib.Outcome.ok.injEq] at h1
  obtain ⟨rfl, rfl⟩ := h1
  have h := withContext_ok h
  cases hc : checkFullNoGroups env.core w.rt.rootAcl message.from caps with
  | ok u => rfl
  | error e =>
    rw [hc] at h
    exact absurd h (by simp [Proc.ofExcept])

theorem checkEntityManagementCap_ok_iff {message : Message} {caps : List String} {w : World} :
    (checkEntityManagementCap env message caps [] w).1 = .ok () ↔
      checkFullNoGroups env.core w.rt.rootAcl message.from caps = .ok () := by
  refine ⟨fun h => checkEntityManagementCap_ok (Prod.ext h rfl), fun h => ?_⟩
  unfold checkEntityManagementCap reading
  rw [Proc.holding_run rfl, Proc.bind_of_ok (a := w.rt.rootAcl) (t := w) rfl, h]
  rfl

theorem calm_fetchEntityNode (name : String) : Proc.Calm [] Idle (fetchEntityNode env name) := by
  refine (calm_loadManifest rfl).bind fun m => ?_
  split
  · exact Proc.calm_fail _
  · exact calm_withContext _ (calm_dagGet _ _)

/-- An entity node that was fetched is the one the manifest links. -/
theorem fetchEntityNode_ok {name : String} {w w' : World} {node : EntityNode}
    (h : fetchEntityNode env name [] w = (.ok node, w')) :
    ∃ root m link, w.rt.stats.rootCid = some root ∧ env.kubo.manifests.denotes root = some m ∧
      m.entities[name]? = some link ∧ env.kubo.entities.denotes link.cid = some node := by
  obtain ⟨m, w1, h1, h⟩ := Proc.bind_ok h
  obtain ⟨root, hroot, hm⟩ := loadManifest_ok h1
  cases hl : m.entities[name]? with
  | none =>
    simp only [hl, Proc.fail_run, Prod.mk.injEq, reduceCtorEq, false_and] at h
  | some link =>
    simp only [hl] at h
    exact ⟨root, m, link, hroot, hm, hl, dagGet_ok (withContext_ok h)⟩

theorem dagResolve_ok {path : String} {w w' : World} {cid : Cid}
    (h : dagResolve env path g w = (.ok cid, w')) : ResolvesTo env path cid := by
  unfold dagResolve at h
  unfold ResolvesTo
  split at h
  · rename_i hp
    rw [if_pos hp]
    exact kuboCall_ok h
  · rename_i hp
    rw [if_neg hp]
    simp only [Proc.pure_run, Prod.mk.injEq, Lib.Outcome.ok.injEq] at h
    exact h.1.symm

end Helpers

/-! ## Handlers -/

section Handlers

variable {env : Env} {message : Message} {w : World}

theorem Effects.of_idle {sender : String} {req : CrudRequest} {o : Lib.Outcome Error Unit}
    {w' : World} (ho : o ≠ .stuck) (h : Idle w w') : Effects env sender req w o w' := by
  refine ⟨ho, ?_⟩
  rw [show w'.rt = w.rt from h]
  exact .idle

/-- An error before any change. -/
theorem Effects.err {sender : String} {req : CrudRequest} (e : Error) (w' : World)
    (h : Idle w w') : Effects env sender req w (.err e) w' :=
  .of_idle (by simp) h

/-- A request that only looks has no effect. -/
theorem effects_of_calm {req : CrudRequest} {p : M Unit} (h : Proc.Calm [] Idle p) :
    p.Sat [] w (Effects env message.from req w) :=
  h.sat fun _ _ => Effects.of_idle

/-- After its effect a request replies. -/
theorem effects_reply {req : CrudRequest} {w1 : World} (body : ReplyBody)
    (h : CrudEffect env message.from req w.rt w1.rt) :
    (sendCrudReply env message body).Sat [] w1 (Effects env message.from req w) :=
  (calm_sendCrudReply message body).sat fun _ w' ho hi =>
    ⟨ho, by rw [show w'.rt = w1.rt from hi]; exact h⟩

theorem calm_sendCrudI18nErrorf (key : String) (args : List (String × String)) :
    Proc.Calm [] Idle (sendCrudI18nErrorf env message key args) := calm_sendCrudReply _ _

theorem calm_sendCrudI18nError (key : String) :
    Proc.Calm [] Idle (sendCrudI18nError env message key) := calm_sendCrudReply _ _

theorem calm_configValue (key : String) : Proc.Calm [] Idle (configValue env key) := by
  unfold configValue
  split
  · exact Proc.Calm.holding rfl (calm_getRt _)
  · refine (calm_loadManifest rfl).bind fun m => ?_
    split
    · exact Proc.calm_pure _
    · exact Proc.calm_fail _

/-- A daemon key changes the shared config, and perhaps the file. -/
theorem writeDaemonKey_sat (key : String) (yamlVal : Yaml) :
    (writeDaemonKey env key yamlVal).Sat [] w fun o w' => o ≠ .stuck ∧
      ∃ files, w'.rt =
        { w.rt with
          sharedConfig := setDaemonConfigKey w.rt.sharedConfig yamlVal key, files := files } := by
  have hsave : Proc.Calm [] FilesOnly (do
      let _ ← (reading .sharedConfig do
        saveConfig env (← getRt fun rt => rt.sharedConfig)).attempt
      pure () : M Unit) :=
    (Proc.Calm.holding rfl ((calm_getRt _).bind fun _ => calm_saveConfig env _)).attempt.bind
      fun _ => Proc.calm_pure _
  exact ⟨hsave.frees _, _, hsave.keeps [] _⟩

theorem handleConfigNs_effects (rest : List String) (args : Args) :
    (handleConfigNs env message rest args).Sat [] w
      (Effects env message.from ("config", rest, args) w) := by
  unfold handleConfigNs handleConfigNsWith
  split
  · split
    · exact effects_of_calm ((calm_loadManifest rfl).bind fun m =>
        (Proc.Calm.holding rfl (calm_getRt _)).bind fun _ => calm_sendCrudReply _ _)
    · exact effects_of_calm (calm_sendCrudI18nError _)
  · rename_i key
    split
    · exact effects_of_calm (calm_sendCrudI18nErrorf _ _)
    · split
      · exact effects_of_calm ((calm_configValue key).bind fun _ => calm_sendCrudReply _ _)
      · split
        · exact effects_of_calm (calm_sendCrudI18nErrorf _ _)
        · exact withManifestCrud_bind Effects.err fun _ _ hw =>
            effects_reply _ (.configDelete hw)
      · rename_i value
        dsimp only
        split
        · rename_i hkey
          refine Proc.sat_bind ((writeDaemonKey_sat key _).mono fun o w1 ⟨ho, files, h⟩ => ?_)
          have heff : CrudEffect env message.from ("config", [key], .put [value]) w.rt w1.rt :=
            h ▸ .daemonSet hkey
          cases o with
          | ok u => exact effects_reply _ heff
          | err e => exact ⟨by simp, heff⟩
          | stuck => exact absurd rfl ho
        · split
          · exact effects_of_calm (calm_sendCrudI18nErrorf _ _)
          · rename_i hkey
            simp only [Bool.not_eq_true, Bool.not_eq_false'] at hkey
            exact withManifestCrud_bind Effects.err fun _ _ hw =>
              effects_reply _ (.configSet hkey hw)
      · exact effects_of_calm (Proc.calm_fail _)
  · exact effects_of_calm (Proc.calm_fail _)

theorem handleRootAcl_effects (rest : List String) (args : Args) :
    (handleRootAcl env message args).Sat [] w
      (Effects env message.from ("acl", rest, args) w) := by
  unfold handleRootAcl handleRootAclWith
  split
  · exact effects_of_calm ((calm_loadManifest rfl).bind fun _ => calm_sendCrudReply _ _)
  · split
    · exact effects_of_calm (calm_sendCrudI18nError _)
    · refine (calm_withContext _ (calm_loadAclFromCid _ _)).sat_bind Effects.err
        fun acl w1 hacl h1 => ?_
      obtain ⟨doc, hdoc, rfl⟩ := loadAclFromCid_ok (withContext_ok hacl)
      refine withManifestCrud_bind (fun e w' h => Effects.err e w' (trans_of Idle h1 h))
        fun newCid w2 hw => ?_
      rw [show w1.rt = w.rt from h1] at hw
      exact effects_reply _ (.aclSet hdoc hw)
  · exact effects_of_calm (calm_sendCrudI18nError _)
  · exact effects_of_calm (Proc.calm_fail _)

theorem handleKindsNs_effects (rest : List String) (args : Args) :
    (handleKindsNs env message rest args).Sat [] w
      (Effects env message.from ("kinds", rest, args) w) := by
  unfold handleKindsNs handleKindsNsWith
  split
  · exact effects_of_calm (Proc.calm_fail _)
  · rename_i hrest
    simp only [Bool.not_eq_true, Bool.not_eq_false', List.isEmpty_iff] at hrest
    subst hrest
    split
    · exact effects_of_calm ((calm_loadManifest rfl).bind fun _ => calm_sendCrudReply _ _)
    · split
      · exact effects_of_calm (calm_sendCrudI18nError _)
      · exact withManifestCrud_bind Effects.err fun _ _ hw => effects_reply _ (.kindSet hw)
    · exact withManifestCrud_bind Effects.err fun _ _ hw => effects_reply _ (.kindDelete hw)
    · exact effects_of_calm (Proc.calm_fail _)
    · refine effects_of_calm ((calm_loadManifest rfl).bind fun m => ?_)
      split
      · exact (calm_dagGet _ _).bind fun _ => calm_sendCrudReply _ _
      · exact calm_sendCrudI18nError _
    · exact effects_of_calm (calm_sendCrudI18nError _)
    · exact effects_of_calm (Proc.calm_fail _)

/-- The cache takes the ACL over if it loads. -/
theorem aclCacheUpdate_sat (cacheKey : String) (cid : Cid) :
    (aclCacheUpdate env cacheKey cid).Sat [] w fun o w' => o ≠ .stuck ∧
      ∃ cache, w'.rt = { w.rt with aclCache := cache } ∧
        (cache = w.rt.aclCache ∨ ∃ doc, env.kubo.acls.denotes cid = some doc ∧
          cache = w.rt.aclCache.insert cacheKey (injectOwners doc)) := by
  refine (calm_loadAclFromCid env cid).attempt.sat_bind
    (fun e w' h => ⟨by simp, w.rt.aclCache, h, .inl rfl⟩) fun r w1 hrun h1 => ?_
  cases r with
  | error e => exact ⟨by simp, w.rt.aclCache, h1, .inl rfl⟩
  | ok acl =>
    obtain ⟨doc, hdoc, rfl⟩ := loadAclFromCid_ok (Proc.attempt_ok hrun)
    refine ⟨by simp [writing, Proc.holding, modifyRt, Lib.Guards.excludes], _, ?_,
      .inr ⟨doc, hdoc, rfl⟩⟩
    show { w1.rt with aclCache := w1.rt.aclCache.insert cacheKey (injectOwners doc) } = _
    rw [show w1.rt = w.rt from h1]

theorem handleRootAcls_effects (rest : List String) (args : Args) :
    (handleRootAcls env message rest args).Sat [] w
      (Effects env message.from ("acls", rest, args) w) := by
  unfold handleRootAcls handleRootAclsWith
  split
  · exact effects_of_calm ((calm_loadManifest rfl).bind fun _ => calm_sendCrudReply _ _)
  · refine effects_of_calm ((calm_loadManifest rfl).bind fun m => ?_)
    split
    · exact calm_sendCrudReply _ _
    · exact Proc.calm_fail _
  · rename_i aclName cid
    split
    · exact effects_of_calm (calm_sendCrudI18nError _)
    · refine withManifestCrud_bind Effects.err fun newCid w1 hw => ?_
      refine Proc.sat_bind ((aclCacheUpdate_sat _ cid).mono fun o w2 hcached => ?_)
      obtain ⟨ho, cache, h2, hcache⟩ := hcached
      have heff : CrudEffect env message.from ("acls", [aclName], .put [.text cid]) w.rt w2.rt := by
        rw [show w1.rt.aclCache = w.rt.aclCache by rw [hw.frame]] at hcache
        rw [h2]
        exact .aclsSet hw hcache
      cases o with
      | ok u => exact effects_reply _ heff
      | err e => exact ⟨by simp, heff⟩
      | stuck => exact absurd rfl ho
  · refine withManifestCrud_bind Effects.err fun newCid w1 hw => ?_
    refine writing_bind rfl (effects_reply _ ?_)
    show CrudEffect env message.from _ w.rt
      { w1.rt with aclCache := w1.rt.aclCache.erase (aclCacheKey _) }
    rw [show w1.rt.aclCache = w.rt.aclCache by rw [hw.frame]]
    exact .aclsDelete hw
  · exact effects_of_calm (Proc.calm_fail _)

theorem updateEntityNode_effects {name aclName : String} {args : Args} {node : EntityNode}
    {w1 : World} (hargs : args = .put [.text aclName] ∨ args = .put [] ∧ aclName = "")
    (hfetch : fetchEntityNode env name [] w = (.ok node, w1)) :
    (do
      let entityCid ← updateEntityNode env name { node with acl := aclName }
      sendCrudReply env message (.okCid entityCid) : M Unit).Sat [] w1
      (Effects env message.from ("entities", [name, "acl"], args) w) := by
  have h1 : Idle w w1 := by
    have h : Idle w (fetchEntityNode env name [] w).2 := (calm_fetchEntityNode name).keeps [] w
    rwa [hfetch] at h
  obtain ⟨root, m, link, hroot, hold, hlink, hnode⟩ := fetchEntityNode_ok hfetch
  have hupdate : (updateEntityNode env name { node with acl := aclName }).Sat [] w1 fun o w' =>
      o ≠ .stuck ∧ CrudEffect env message.from ("entities", [name, "acl"], args) w.rt w'.rt := by
    have idle {w' : World} (h : Idle w1 w') :
        CrudEffect env message.from ("entities", [name, "acl"], args) w.rt w'.rt := by
      rw [show w'.rt = w.rt from trans_of Idle h1 h]
      exact .idle
    refine (calm_withContext _ (calm_dagPut _ _)).sat_bind (fun e w' h => ⟨by simp, idle h⟩)
      fun cid w2 hput h2 => ?_
    refine withManifestCrud_bind (fun e w' h => ⟨by simp, idle (trans_of Idle h2 h)⟩)
      fun newCid w3 hw => ⟨by simp, ?_⟩
    rw [show w2.rt = w.rt from trans_of Idle h1 h2] at hw
    exact .entityAcl hargs hroot hold hlink hnode (dagPut_ok (withContext_ok hput)) hw
  refine Proc.sat_bind (hupdate.mono fun o w2 ⟨ho, heff⟩ => ?_)
  cases o with
  | ok cid => exact effects_reply _ heff
  | err e => exact ⟨by simp, heff⟩
  | stuck => exact absurd rfl ho

theorem handleEntityAclField_effects (name : String) (args : Args) :
    (handleEntityAclField env message name [] args).Sat [] w
      (Effects env message.from ("entities", [name, "acl"], args) w) := by
  unfold handleEntityAclField handleEntityAclFieldWith
  rw [if_neg (by simp)]
  split
  · exact effects_of_calm ((calm_fetchEntityNode name).bind fun _ => calm_sendCrudReply _ _)
  · refine (calm_loadManifest rfl).sat_bind Effects.err fun m w1 _ h1 => ?_
    split
    · exact (Proc.calm_fail _).sat fun _ _ ho h => Effects.of_idle ho (trans_of Idle h1 h)
    · refine (calm_fetchEntityNode name).sat_bind
        (fun e w' h => Effects.err e w' (trans_of Idle h1 h)) fun node w2 hfetch h2 => ?_
      refine (updateEntityNode_effects (.inl rfl) hfetch).mono fun o w' ⟨ho, heff⟩ => ⟨ho, ?_⟩
      rw [show w1.rt = w.rt from h1] at heff
      exact heff
  · refine (calm_fetchEntityNode name).sat_bind Effects.err fun node w1 hfetch _ => ?_
    exact updateEntityNode_effects (.inr ⟨rfl, rfl⟩) hfetch
  · exact effects_of_calm (Proc.calm_fail _)

theorem handleEntityField_effects (name field : String) (subPath : List String) (args : Args) :
    (handleEntityField env message name field subPath args).Sat [] w
      (Effects env message.from ("entities", name :: field :: subPath, args) w) := by
  unfold handleEntityField handleEntityFieldWith
  split
  · refine effects_of_calm ((calm_fetchEntityNode name).bind fun node => ?_)
    split
    · exact calm_sendCrudReply _ _
    · exact Proc.calm_fail _
  · split
    · rename_i hfield
      subst hfield
      cases subPath with
      | nil => exact handleEntityAclField_effects name args
      | cons seg subPath =>
        unfold handleEntityAclFieldWith
        rw [if_pos (by simp)]
        exact effects_of_calm (Proc.calm_fail _)
    · exact effects_of_calm (Proc.calm_fail _)

theorem deleteEntity_effects (name : String) :
    (deleteEntity env message name).Sat [] w
      (Effects env message.from ("entities", [name], .put []) w) := by
  refine (calm_checkEntityManagementCap message _).sat_bind Effects.err fun _ w1 hcap h1 => ?_
  have hcap := checkEntityManagementCap_ok hcap
  -- The registry entry is gone from here on, whatever becomes of the manifest.
  refine writing_bind rfl ?_
  rw [show w1.rt = w.rt from h1]
  refine withManifestCrud_bind (fun e w' h => ⟨by simp, ?_⟩) fun newCid w2 hw => ?_
  · rw [show w'.rt = _ from h]
    exact .entityDeleteCut hcap
  · exact effects_reply _ (.entityDelete hcap hw)

/-- What a link of an entity says, when it went through. -/
theorem linkEntity_sat (name path : String) :
    (linkEntity env message name path).Sat [] w fun o w' =>
      match o with
      | .ok (cid, node) => ResolvesTo env path cid ∧ env.kubo.entities.denotes cid = some node ∧
          checkFullNoGroups env.core w.rt.rootAcl message.from [node.kind] = .ok () ∧
          ∃ newCid, ManifestWrite env
            (fun m => { m with entities := m.entities.insert name ⟨cid⟩ }) w.rt newCid w'.rt
      | .err _ => Idle w w'
      | .stuck => False := by
  refine (calm_withContext _ (calm_dagResolve env path)).sat_bind (fun e w' h => h)
    fun cid w1 hcid h1 => ?_
  refine (calm_withContext _ (calm_dagGet _ _)).sat_bind (fun e w' h => trans_of Idle h1 h)
    fun node w2 hnode h2 => ?_
  have h12 : Idle w w2 := trans_of Idle h1 h2
  refine (calm_checkEntityManagementCap message _).sat_bind
    (fun e w' h => trans_of Idle h12 h) fun _ w3 hcap h3 => ?_
  have hcap := checkEntityManagementCap_ok hcap
  rw [show w2.rt = w.rt from h12] at hcap
  have h13 : Idle w w3 := trans_of Idle h12 h3
  refine withManifestCrud_bind (fun e w' h => trans_of Idle h13 h) fun newCid w4 hw => ?_
  rw [show w3.rt = w.rt from h13] at hw
  exact ⟨dagResolve_ok (withContext_ok hcid), dagGet_ok (withContext_ok hnode), hcap, newCid, hw⟩

theorem upsertEntity_effects (name path : String) :
    (upsertEntity env message name path).Sat [] w
      (Effects env message.from ("entities", [name], .put [.text path]) w) := by
  unfold upsertEntity upsertEntityWith
  split
  · exact effects_of_calm (calm_sendCrudI18nError _)
  · split
    · exact effects_of_calm (calm_sendCrudI18nErrorf _ _)
    · rename_i hname
      refine Proc.sat_bind ((linkEntity_sat name path).mono fun o w1 hlink => ?_)
      cases o with
      | err e => exact Effects.err e w1 hlink
      | stuck => exact hlink.elim
      | ok r =>
        obtain ⟨cid, node⟩ := r
        obtain ⟨hcid, hnode, hcap, newCid, hw⟩ := hlink
        refine Proc.sat_bind (registerEntityPlugin_sat.mono fun o w2 ⟨ho, hreg⟩ => ?_)
        have heff := CrudEffect.entityUpsert hcid hnode (Bool.eq_false_of_not_eq_true hname) hcap
          hw hreg
        cases o with
        | ok u => exact effects_reply _ heff
        | err e => exact ⟨by simp, heff⟩
        | stuck => exact absurd rfl ho

theorem handleEntitiesNs_effects (rest : List String) (args : Args) :
    (handleEntitiesNs env message rest args).Sat [] w
      (Effects env message.from ("entities", rest, args) w) := by
  unfold handleEntitiesNs handleEntitiesNsWith
  split
  · split
    · exact effects_of_calm ((Proc.Calm.holding rfl (calm_getRt _)).bind fun _ =>
        calm_sendCrudReply _ _)
    · exact effects_of_calm (calm_sendCrudI18nError _)
  · rename_i name
    unfold handleSingleEntityWith
    split
    · refine effects_of_calm ((calm_loadManifest rfl).bind fun m => ?_)
      split
      · exact Proc.calm_fail _
      · exact (calm_dagGet _ _).bind fun _ => calm_sendCrudReply _ _
    · exact deleteEntity_effects name
    · exact upsertEntity_effects name _
    · exact effects_of_calm (Proc.calm_fail _)
  · exact handleEntityField_effects _ _ _ _

theorem handleNs_effects (ns : String) (rest : List String) (args : Args) :
    (handleNs env message ns rest args).Sat [] w
      (Effects env message.from (ns, rest, args) w) := by
  unfold handleNs handleNsWith
  split
  · exact handleEntitiesNs_effects rest args
  · exact handleKindsNs_effects rest args
  · exact handleConfigNs_effects rest args
  · exact handleRootAcl_effects rest args
  · exact handleRootAcls_effects rest args
  · exact effects_of_calm (calm_sendCrudI18nError _)

end Handlers

/-! ## Messages -/

/-- What the payload of a message asks for. -/
def crudRequest (env : Env) (message : Message) : Option CrudRequest :=
  if message.messageType ≠ env.messageTypeCrud then none
  else
    match decodeCrudPayload env message.payload with
    | .error _ => none
    | .ok op =>
      match parsePath op.target.1 with
      | .error _ => none
      | .ok (ns, rest) => some (ns, rest, op.target.2)

/-- The verdict of the gate: owners pass, and who holds `crud`. -/
def PassesCrudGate (env : Env) (rt : Runtime) (sender : String) : Prop :=
  isOwner env.core rt.stats.owners sender = true ∨
    checkFullNoGroups env.core rt.rootAcl sender [capCrud] = .ok ()

/-- The effect of a message: none, or one of the request it carries, past the gate. -/
inductive CrudTurnEffect (env : Env) (message : Message) (rt rt' : Runtime) : Prop where
  | idle (h : rt' = rt)
  | request {req : CrudRequest} (hreq : crudRequest env message = some req)
      (hgate : PassesCrudGate env rt message.from)
      (heff : CrudEffect env message.from req rt rt')

/-- A management message runs the handler of its request, or fails and changes nothing. -/
theorem dispatchManagement_cases (env : Env) (message : Message) (w : World) :
    (∃ ns rest args, crudRequest env message = some (ns, rest, args) ∧
      dispatchManagement env message [] w = handleNs env message ns rest args [] w) ∨
    crudRequest env message = none ∧ (dispatchManagement env message).Sat [] w fun o w' =>
      o ≠ .stuck ∧ Idle w w' := by
  unfold dispatchManagement dispatchManagementWith crudRequest
  split
  · exact .inr ⟨rfl, (calm_sendCrudI18nErrorf _ _).sat fun _ _ ho h => ⟨ho, h⟩⟩
  · cases hop : decodeCrudPayload env message.payload with
    | error e => exact .inr ⟨rfl, by simp [Proc.bind_run, Proc.ofExcept], rfl⟩
    | ok op =>
      cases hpath : parsePath op.target.1 with
      | error e =>
        refine .inr ⟨by simp only [hpath], ?_⟩
        exact ⟨by simp [Proc.bind_run, Proc.ofExcept, hpath], by
          simp [Proc.bind_run, Proc.ofExcept, hpath, Idle]⟩
      | ok r =>
        obtain ⟨ns, rest⟩ := r
        refine .inl ⟨ns, rest, op.target.2, by simp only [hpath], ?_⟩
        simp only [Proc.bind_run, Proc.ofExcept, hpath, Proc.pure_run]
        rfl

/-- What the gate decides. -/
theorem crudGate_run (env : Env) (message : Message) (acl : AclMap) (w : World) :
    crudGate env message acl [] w =
      (if isOwner env.core w.rt.stats.owners message.from then pure ()
      else Proc.ofExcept (checkFullNoGroups env.core acl message.from [capCrud]) :
        M Unit) [] w := by
  unfold crudGate
  rw [Proc.bind_of_ok (a := w.rt.stats.owners) (t := w) rfl]

/-- A turn past the gate is the dispatch of the message. -/
theorem crudTurn_of_gate {env : Env} {message : Message} {w : World}
    (h : PassesCrudGate env w.rt message.from) :
    crudTurn env message [] w = dispatchManagement env message [] w := by
  have hgate := crudGate_run env message w.rt.rootAcl w
  have hpass : crudGate env message w.rt.rootAcl [] w = (.ok (), w) := by
    rw [hgate]
    split
    · rfl
    · rename_i howner
      rw [h.resolve_left howner]
      rfl
  show handleCrudMessage env message w.rt.rootAcl [] w = _
  exact Proc.bind_of_ok hpass

/-- A turn past the gate is the dispatch of the message, any other does nothing. -/
theorem crudTurn_cases (env : Env) (message : Message) (w : World) :
    PassesCrudGate env w.rt message.from ∧
      crudTurn env message [] w = dispatchManagement env message [] w ∨
    ∃ e, crudTurn env message [] w = (.err e, w) := by
  by_cases howner : isOwner env.core w.rt.stats.owners message.from = true
  · exact .inl ⟨.inl howner, crudTurn_of_gate (.inl howner)⟩
  · cases hc : checkFullNoGroups env.core w.rt.rootAcl message.from [capCrud] with
    | ok u => exact .inl ⟨.inr hc, crudTurn_of_gate (.inr hc)⟩
    | error e =>
      have hgate := crudGate_run env message w.rt.rootAcl w
      rw [if_neg howner, hc] at hgate
      refine .inr ⟨e, ?_⟩
      show handleCrudMessage env message w.rt.rootAcl [] w = _
      exact Proc.bind_of_err hgate

/-- Past the gate the turn runs the handler of its request. -/
theorem crudTurn_of_request {env : Env} {message : Message} {w : World} {ns : String}
    {rest : List String} {args : Args} (hreq : crudRequest env message = some (ns, rest, args))
    (hgate : PassesCrudGate env w.rt message.from) :
    crudTurn env message [] w = handleNs env message ns rest args [] w := by
  rw [crudTurn_of_gate hgate]
  rcases dispatchManagement_cases env message w with ⟨ns', rest', args', hreq', hrun⟩ | ⟨hnone, -⟩
  · rw [hreq] at hreq'
    cases hreq'
    exact hrun
  · exact absurd (hreq.symm.trans hnone) (by simp)

/-- A turn that succeeded ran the handler of its request. -/
theorem crudTurn_ok {env : Env} {message : Message} {w w' : World} {ns : String}
    {rest : List String} {args : Args} (hreq : crudRequest env message = some (ns, rest, args))
    (hturn : crudTurn env message [] w = (.ok (), w')) :
    handleNs env message ns rest args [] w = (.ok (), w') := by
  rcases crudTurn_cases env message w with ⟨hgate, -⟩ | ⟨e, herr⟩
  · rw [← hturn, crudTurn_of_request hreq hgate]
  · rw [hturn] at herr
    exact absurd (congrArg Prod.fst herr) (by simp)

/-- **A CRUD turn never gets stuck, and does nothing but an effect of its request.** -/
theorem crudTurn_effect (env : Env) (message : Message) (w : World) :
    (crudTurn env message [] w).1 ≠ .stuck ∧
      CrudTurnEffect env message w.rt (crudTurn env message [] w).2.rt := by
  rcases crudTurn_cases env message w with ⟨hgate, hturn⟩ | ⟨e, hturn⟩
  · rw [hturn]
    rcases dispatchManagement_cases env message w with ⟨ns, rest, args, hreq, hrun⟩ | ⟨-, ho, h⟩
    · rw [hrun]
      have h : (handleNs env message ns rest args).Sat [] w
          (Effects env message.from (ns, rest, args) w) := handleNs_effects ns rest args
      exact ⟨h.1, .request hreq hgate h.2⟩
    · exact ⟨ho, .idle h⟩
  · rw [hturn]
    exact ⟨by simp, .idle rfl⟩

end MaRuntime
