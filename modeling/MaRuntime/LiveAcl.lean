import MaRuntime.Crud.Effect
import MaRuntime.FiniteEnv
import MaRuntime.Lib.Run
import MaRuntime.Startup

/-!
# The ACL an entity is authorised by

The registered plugin of an entity carries the ACL name it was loaded with, and the entity gate
reads that copy. `AclsAgree` is the promise that the copy is the name in the manifest. A write of
`entities.<name>.acl` reaches the manifest only, and an upsert whose plugin does not load leaves
the old copy in place.

* `aclsAgree_run`: the copies stay right along every run whose `acl` writes name what the copy
  already says and whose upserts load.
* `cleared_acl_refuses`: where the copies are right, an entity without an ACL refuses everyone.
* `cleared_acl_still_admits`: an acknowledged revocation that is not enforced.
-/

namespace MaRuntime

open Lib (Cbor Proc Run)

/-! ## Agreement -/

/-- Every registered entity of the manifest is authorised by the ACL that its node names. -/
def AclsAgree (env : Env) (rt : Runtime) : Prop :=
  ∀ (m : RuntimeManifest) (name : String) (ep : EntityPlugin) (link : IpldLink) (node : EntityNode),
    AtRoot env rt m → rt.entityRegistry[name]? = some ep → m.entities[name]? = some link →
      env.kubo.entities.denotes link.cid = some node → ep.acl = node.acl

/-- The write names the ACL the registered entity has, and the upsert of a registered entity names
it too or loads. -/
structure KeepsAcls (env : Env) (w : World) (message : Message) : Prop where
  field : ∀ (name aclName : String) (args : Args) (ep : EntityPlugin),
    crudRequest env message = some ("entities", [name, "acl"], args) →
    (args = .put [.text aclName] ∨ args = .put [] ∧ aclName = "") →
    w.rt.entityRegistry[name]? = some ep → ep.acl = aclName
  upsert : ∀ (name path : String) (cid : Cid) (node : EntityNode) (w1 : World) (ep : EntityPlugin),
    crudRequest env message = some ("entities", [name], .put [.text path]) →
    linkEntity env message name path [] w = (.ok (cid, node), w1) →
    w.rt.entityRegistry[name]? = some ep → ep.acl = node.acl ∨
      ∃ ep', (pluginToRegister env name node [] w1).1 = .ok (some ep')

section Effects

variable {env : Env}

theorem AclsAgree.of_write {f : RuntimeManifest → RuntimeManifest} {rt rt' : Runtime}
    {newCid : Cid} (hw : ManifestWrite env f rt newCid rt')
    (h : ∀ (m : RuntimeManifest) (name : String) (ep : EntityPlugin) (link : IpldLink)
      (node : EntityNode), AtRoot env rt m → rt.entityRegistry[name]? = some ep →
        (f m).entities[name]? = some link → env.kubo.entities.denotes link.cid = some node →
        ep.acl = node.acl) : AclsAgree env rt' := by
  intro m' name ep link node hroot hreg hlink hnode
  obtain ⟨m, hm, hm'⟩ := hw.atRoot
  obtain rfl := hm'.eq hroot
  rw [hw.frame] at hreg
  exact h m name ep link node hm hreg hlink hnode

/-- A write that leaves the entities alone. -/
theorem AclsAgree.kept {f : RuntimeManifest → RuntimeManifest} {rt rt' : Runtime} {newCid : Cid}
    (h : AclsAgree env rt) (hw : ManifestWrite env f rt newCid rt')
    (hf : ∀ m, (f m).entities = m.entities) : AclsAgree env rt' :=
  .of_write hw fun m name ep link node hm hreg hlink => h m name ep link node hm hreg (hf m ▸ hlink)

/-- Every effect but an upsert. -/
theorem CrudEffect.aclsAgree {sender : String} {req : CrudRequest} {rt rt' : Runtime}
    (heff : CrudEffect env sender req rt rt') (h : AclsAgree env rt)
    (hfield : ∀ (name aclName : String) (args : Args) (ep : EntityPlugin),
      req = ("entities", [name, "acl"], args) →
      (args = .put [.text aclName] ∨ args = .put [] ∧ aclName = "") →
      rt.entityRegistry[name]? = some ep → ep.acl = aclName)
    (hupsert : ∀ name path, req ≠ ("entities", [name], .put [.text path])) :
    AclsAgree env rt' := by
  cases heff with
  | idle => exact h
  | configDelete hw => exact h.kept hw fun _ => rfl
  | configSet hkey hw => exact h.kept hw fun _ => rfl
  | daemonSet hkey => exact h
  | aclSet hdoc hw =>
    have h1 := h.kept hw fun _ => rfl
    exact h1
  | aclsSet hw hcache =>
    have h1 := h.kept hw fun _ => rfl
    exact h1
  | aclsDelete hw =>
    have h1 := h.kept hw fun _ => rfl
    exact h1
  | kindSet hw => exact h.kept hw fun _ => rfl
  | kindDelete hw => exact h.kept hw fun _ => rfl
  | entityDelete hcap hw =>
    refine .of_write hw fun m name ep link node hm hreg hlink hnode => ?_
    rw [Std.ExtTreeMap.getElem?_erase] at hreg hlink
    split at hreg
    · exact absurd hreg (by simp)
    · rename_i hne
      rw [if_neg hne] at hlink
      exact h m name ep link node hm hreg hlink hnode
  | entityDeleteCut hcap =>
    intro m name ep link node hm hreg hlink hnode
    rw [Std.ExtTreeMap.getElem?_erase] at hreg
    split at hreg
    · exact absurd hreg (by simp)
    · exact h m name ep link node hm hreg hlink hnode
  | entityUpsert hcid hnode hname hcap hw hreg => exact absurd rfl (hupsert _ _)
  | entityAcl hargs hroot hold hlink hnode hcid hw =>
    rename_i name' aclName args _ cid _ m' link' node'
    refine .of_write hw fun m name ep link node hm hreg hlink hnode => ?_
    rw [Std.ExtTreeMap.getElem?_insert] at hlink
    split at hlink
    · rename_i heq
      obtain rfl : name' = name := by simpa using heq
      obtain rfl := Option.some.inj hlink
      obtain rfl := Option.some.inj (hcid.symm.trans hnode)
      exact hfield _ _ _ ep rfl hargs hreg
    · exact h m name ep link node hm hreg hlink hnode

/-- An upsert whose plugin loads, or whose node names the ACL the registered plugin has. -/
theorem upsertEntity_aclsAgree {message : Message} {w : World} {name path : String}
    (h : AclsAgree env w.rt)
    (hguard : ∀ cid node w1 ep, linkEntity env message name path [] w = (.ok (cid, node), w1) →
      w.rt.entityRegistry[name]? = some ep → ep.acl = node.acl ∨
        ∃ ep', (pluginToRegister env name node [] w1).1 = .ok (some ep')) :
    (upsertEntity env message name path).Sat [] w fun _ w' => AclsAgree env w'.rt := by
  have idle {w' : World} (hidle : Idle w w') : AclsAgree env w'.rt := by
    rwa [show w'.rt = w.rt from hidle]
  unfold upsertEntity upsertEntityWith
  split
  · exact (calm_sendCrudI18nError _).sat fun _ _ _ => idle
  · split
    · exact (calm_sendCrudI18nErrorf _ _).sat fun _ _ _ => idle
    · have hlink := @linkEntity_sat env message w name path
      refine Proc.sat_bind_run (fun r w1 hrun => ?_)
        (fun e w1 hrun => idle (hlink.of_run hrun)) fun w1 hrun => (hlink.of_run hrun).elim
      obtain ⟨cid, node⟩ := r
      obtain ⟨-, hnode, -, newCid, hw⟩ := hlink.of_run hrun
      have hreg := @registerEntityPlugin_registry env name node w1
      have agree {o : Lib.Outcome Error Unit} {w2 : World}
          (hrun2 : registerEntityPlugin env name node [] w1 = (o, w2)) : AclsAgree env w2.rt := by
        obtain ⟨hstats, hreg⟩ := hreg.of_run hrun2
        intro m' name' ep link' node' hroot hep hlink' hnode'
        obtain ⟨m, hm, hm'⟩ := hw.atRoot
        rw [AtRoot, hstats] at hroot
        obtain rfl := hm'.eq hroot
        have hreg1 : w1.rt.entityRegistry = w.rt.entityRegistry := by rw [hw.frame]
        rw [hreg1] at hreg
        by_cases hname : name' = name
        · subst hname
          rw [Std.ExtTreeMap.getElem?_insert_self] at hlink'
          obtain rfl := Option.some.inj hlink'
          obtain rfl := Option.some.inj (hnode.symm.trans hnode')
          rcases hreg with ⟨hskip, hreg⟩ | ⟨ep', -, hacl, hreg⟩
          · rw [hreg] at hep
            exact (hguard cid node w1 ep hrun hep).resolve_right hskip
          · rw [hreg, Std.ExtTreeMap.getElem?_insert_self] at hep
            exact Option.some.inj hep ▸ hacl
        · rw [getElem?_insert_of_ne hname] at hlink'
          rcases hreg with ⟨-, hreg⟩ | ⟨ep', -, -, hreg⟩
          · rw [hreg] at hep
            exact h m name' ep link' node' hm hep hlink' hnode'
          · rw [hreg, getElem?_insert_of_ne hname] at hep
            exact h m name' ep link' node' hm hep hlink' hnode'
      refine Proc.sat_bind_run (fun _ w2 hrun2 => ?_) (fun _ _ => agree) fun _ => agree
      exact (calm_sendCrudReply _ _).sat fun _ w3 _ hidle => by
        rw [show w3.rt = w2.rt from hidle]
        exact agree hrun2

end Effects

/-! ## Startup -/

/-- Every registered entity is one of the manifest, with the ACL its node names. -/
def LoadedFrom (env : Env) (m : RuntimeManifest) (rt : Runtime) : Prop :=
  ∀ (name : String) (ep : EntityPlugin), rt.entityRegistry[name]? = some ep →
    ∃ link node, m.entities[name]? = some link ∧ env.kubo.entities.denotes link.cid = some node ∧
      ep.acl = node.acl

section Startup

variable {env : Env} {m : RuntimeManifest}

/-- An entity that loads has the ACL its node names. -/
theorem LoadedFrom.insert {rt : Runtime} {name : String} {link : IpldLink} {node : EntityNode}
    {kindNode : KindNode} {ep : EntityPlugin} {lifecycle : Lifecycle} {w1 w2 : World}
    (h : LoadedFrom env m rt) (hlink : m.entities[name]? = some link)
    (hnode : env.kubo.entities.denotes link.cid = some node)
    (hload : load env name node kindNode [] w1 = (.ok (ep, lifecycle), w2)) :
    LoadedFrom env m { rt with entityRegistry := rt.entityRegistry.insert name ep } := by
  intro name' ep' hep
  rw [Std.ExtTreeMap.getElem?_insert] at hep
  split at hep
  · rename_i heq
    obtain rfl : name = name' := by simpa using heq
    obtain rfl := Option.some.inj hep
    obtain ⟨-, -, hacl, -⟩ := load_ok hload
    exact ⟨link, node, hlink, hnode, hacl⟩
  · exact h name' ep' hep

/-- The node of a manifest bootstrapped at startup. -/
theorem initialRoot_ok {rootCid : Option Cid} {w w' : World} {rc : Cid}
    (h : initialRoot env rootCid [] w = (.ok (some rc), w')) :
    rootCid = some rc ∨ ∀ m, env.kubo.manifests.denotes rc = some m → m.entities = ∅ := by
  cases rootCid with
  | some cid =>
    simp only [initialRoot, Proc.pure_run, Prod.mk.injEq, Lib.Outcome.ok.injEq] at h
    exact .inl h.1
  | none =>
    right
    obtain ⟨r, w1, hr, h⟩ := Proc.bind_ok h
    simp only [Proc.pure_run, Prod.mk.injEq, Lib.Outcome.ok.injEq] at h
    cases r with
    | error e => exact absurd h.1 (by simp [Except.toOption])
    | ok cid =>
      obtain rfl : cid = rc := Option.some.inj h.1
      obtain ⟨aclCid, w2, -, h2⟩ := Proc.bind_ok (Proc.attempt_ok hr)
      obtain ⟨root, w3, h3, h4⟩ := Proc.bind_ok h2
      obtain ⟨_, w4, -, h5⟩ := Proc.bind_ok h4
      simp only [Proc.pure_run, Prod.mk.injEq, Lib.Outcome.ok.injEq] at h5
      intro m hm
      have hput := dagPut_ok (withContext_ok h3)
      rw [h5.1, hm] at hput
      rw [Option.some.inj hput]

/-- Loaded from the root manifest, or built in. -/
def LoadedAtRoot (env : Env) (root : Option Cid) (registry : StrMap EntityPlugin) : Prop :=
  ∀ rc m, root = some rc → env.kubo.manifests.denotes rc = some m →
    ∀ (name : String) (ep : EntityPlugin), registry[name]? = some ep →
      name = schedulerFragment ∨ ∃ link node, m.entities[name]? = some link ∧
        env.kubo.entities.denotes link.cid = some node ∧ ep.acl = node.acl

theorem loadRootEntities_loaded {root : Option Cid} {w w' : World}
    (hempty : w.rt.entityRegistry = ∅) (hrun : loadRootEntities env root [] w = (.ok (), w')) :
    LoadedAtRoot env root w'.rt.entityRegistry := by
  intro rc m hroot hm name ep hep
  have hloaded : LoadedFrom env m { w.rt with entityRegistry := w'.rt.entityRegistry } := by
    refine loadRootEntities_keeps
      (I := fun registry => LoadedFrom env m { w.rt with entityRegistry := registry })
      (fun hroot' hm' hlink hnode hload h => ?_) (fun name ep hep => ?_) hrun
    · obtain rfl := Option.some.inj (hroot.symm.trans hroot')
      obtain rfl := Option.some.inj (hm.symm.trans hm')
      exact h.insert hlink hnode hload
    · rw [hempty, Std.ExtTreeMap.getElem?_empty] at hep
      exact absurd hep (by simp)
  exact .inr (hloaded name ep hep)

/-- **Startup agrees with its manifest**, unless that names an entity after the built-in
`#scheduler`. -/
theorem booted_aclsAgree {config : Config} {files : StrMap (Except Error Config)}
    {cells : Nat → PluginCell} {rootCid : Option Cid} {cliOwners : List String}
    (hname : ∀ rc m, rootCid = some rc → env.kubo.manifests.denotes rc = some m →
      m.entities[schedulerFragment]? = none) :
    AclsAgree env (booted env config files cells rootCid cliOwners).rt := by
  obtain ⟨root, w1, w2, w3, ⟨hinitial, h1⟩, ⟨hload, -⟩, ⟨-, h3⟩, hrun⟩ :=
    startup_run env rootCid cliOwners ⟨blankRuntime config files cells, {}⟩
  have hscheduler : ∀ rc m, root = some rc → env.kubo.manifests.denotes rc = some m →
      m.entities[schedulerFragment]? = none := by
    rintro rc m rfl hm
    rcases initialRoot_ok hinitial with rfl | hnone
    · exact hname rc m rfl hm
    · rw [hnone m hm]
      exact Std.ExtTreeMap.getElem?_empty
  have hloaded : LoadedAtRoot env root w2.rt.entityRegistry :=
    loadRootEntities_loaded (congrArg Runtime.entityRegistry h1) hload
  have hbooted : booted env config files cells rootCid cliOwners =
      { w3 with rt := w3.rt.settled root cliOwners } := congrArg Prod.snd hrun
  have hregistry : w3.rt.entityRegistry = w2.rt.entityRegistry.insert schedulerFragment
      (newNative schedulerFragment schedulerNode).1 := h3.entityRegistry
  rw [hbooted]
  rintro m name ep link node ⟨rc, hroot, hm⟩ hep hlink hnode
  have hep : w3.rt.entityRegistry[name]? = some ep := hep
  rw [hregistry, Std.ExtTreeMap.getElem?_insert] at hep
  have hname : name ≠ schedulerFragment := by
    rintro rfl
    rw [hscheduler rc m hroot hm] at hlink
    exact absurd hlink (by simp)
  split at hep
  · rename_i heq
    have heq : schedulerFragment = name := by simpa using heq
    exact absurd heq.symm hname
  · rcases hloaded rc m hroot hm name ep hep with hsame | ⟨link', node', hlink', hnode', hacl⟩
    · exact absurd hsame hname
    · obtain rfl := Option.some.inj (hlink.symm.trans hlink')
      obtain rfl := Option.some.inj (hnode.symm.trans hnode')
      exact hacl

end Startup

/-! ## Runs -/

/-- A CRUD message that keeps the copies right. -/
inductive AclKeepingStep (env : Env) (w : World) : Turn → World → Prop where
  | crud {message : Message} {w' : World} (hstep : Step env w (.crud message) w')
      (hkeeps : KeepsAcls env w message) : AclKeepingStep env w (.crud message) w'

theorem aclsAgree_step {env : Env} {w w' : World} {t : Turn} (hstep : AclKeepingStep env w t w')
    (h : AclsAgree env w.rt) : AclsAgree env w'.rt := by
  obtain ⟨⟨-⟩, hkeeps⟩ := hstep
  rename_i message
  show AclsAgree env (crudTurn env message [] w).2.rt
  rcases crudTurn_cases env message w with ⟨-, hturn⟩ | ⟨e, hturn⟩
  · rw [hturn]
    rcases dispatchManagement_cases env message w with ⟨ns, rest, args, hreq, hrun⟩ | ⟨-, -, hidle⟩
    · rw [hrun]
      by_cases hupsert : ∃ name path, (ns, rest, args) = ("entities", [name], .put [.text path])
      · obtain ⟨name, path, heq⟩ := hupsert
        simp only [Prod.mk.injEq] at heq
        obtain ⟨rfl, rfl, rfl⟩ := heq
        exact upsertEntity_aclsAgree h fun cid node w1 ep =>
          hkeeps.upsert name path cid node w1 ep hreq
      · have heff := (@handleNs_effects env message w ns rest args).2
        exact heff.aclsAgree h
          (fun name aclName args ep heq => hkeeps.field name aclName args ep (heq ▸ hreq))
          fun name path heq => hupsert ⟨name, path, heq⟩
    · rwa [show _ = w.rt from hidle]
  · rwa [hturn]

/-- An entity without an ACL refuses everyone. -/
theorem authorizeEntity_noAcl {env : Env} {message : Message} {term : Cbor} {entity : EntityPlugin}
    {g : Lib.Guards Lock} {w : World} (h : entity.acl = "") :
    ∃ e, authorizeEntity env message term entity g w = (.err e, w) := by
  unfold authorizeEntity
  dsimp only
  rw [if_pos h]
  exact ⟨_, rfl⟩

/-- **Live authorisation follows the manifest** along every run whose `acl` writes name the ACL the
registered entity already has and whose upserts of registered entities load. There an entity whose
ACL the manifest clears refuses the next message. -/
theorem aclsAgree_run {env : Env} {w w' : World} {ts : List Turn} (h : AclsAgree env w.rt)
    (hrun : Run (AclKeepingStep env) w ts w') :
    AclsAgree env w'.rt ∧
      ∀ (m : RuntimeManifest) (name : String) (ep : EntityPlugin) (link : IpldLink)
        (node : EntityNode), AtRoot env w'.rt m → w'.rt.entityRegistry[name]? = some ep →
          m.entities[name]? = some link → env.kubo.entities.denotes link.cid = some node →
          node.acl = "" → ∀ message term, ∃ e,
            authorizeEntity env message term ep [(.rootAcl, .read)] w' = (.err e, w') := by
  have hagree := hrun.invariant (I := fun w => AclsAgree env w.rt)
    (fun h hstep => aclsAgree_step hstep h) h
  refine ⟨hagree, fun m name ep link node hm hep hlink hnode hcleared message term => ?_⟩
  exact authorizeEntity_noAcl ((hagree m name ep link node hm hep hlink hnode).trans hcleared)

/-! ## A revocation -/

/-- A kind without an `init`. -/
def echoKind : KindNode :=
  { protocol := "/ma/echo/0.0.1", api := ["handle_cast"], hostFunctions := [] }

/-- An entity that everyone may call. -/
def echoNode : EntityNode :=
  { kind := "/ma/echo/0.0.1", behaviour := some ⟨"bafyechowasm"⟩, acl := "open" }

/-- The manifest that binds the kind, links the entity and names its ACL. -/
def echoManifest : RuntimeManifest :=
  { kinds := KindTree.insertProtocol {} "/ma/echo/0.0.1" ⟨"bafyechokind"⟩
    entities := (∅ : StrMap IpldLink).insert "echo" ⟨"bafyechonode"⟩
    acls := (∅ : StrMap IpldLink).insert "open" ⟨"bafyopenacl"⟩ }

/-- Kubo with the entity as it is, with its ACL cleared and under a second name. -/
def echoTables : Tables where
  manifests :=
    [("bafyroot", echoManifest),
      ("bafycleared",
        { echoManifest with entities := (∅ : StrMap IpldLink).insert "echo" ⟨"bafyechoclosed"⟩ }),
      ("bafyrelinked",
        { echoManifest with entities := (∅ : StrMap IpldLink).insert "echo" ⟨"bafyechosecond"⟩ })]
  entities :=
    [("bafyechonode", echoNode), ("bafyechoclosed", { echoNode with acl := "" }),
      ("bafyechosecond", { echoNode with acl := "closed" })]
  kinds := [("bafyechokind", echoKind)]
  acls := [("bafyopenacl", (∅ : AclMap).insert "*" (.fromCaps ["*"]))]
  blobs := [("bafyechowasm", [0])]

/-- The daemon with the entity loaded. -/
def echoStart : World := started echoTables.live (some "bafyroot") ["did:ma:alice"]

/-- The owner clears the ACL of the entity. -/
def clearAcl : Message := crudMessage "did:ma:alice" ":delete" (.text ":entities.echo.acl")

/-- The owner links another node under the same name. -/
def relinkEcho : Message := crudMessage "did:ma:alice" ":entities.echo" (.text "bafyechosecond")

/-- A stranger calls the entity. -/
def callEcho : Message :=
  { clearAcl with «from» := "did:ma:mallory", «to» := "did:ma:runtime#echo" }

set_option maxRecDepth 100000

/-- A relinked entity that loads is authorised by its new ACL. -/
theorem aclsAgree_run_relinked :
    ∃ w, Run (AclKeepingStep echoTables.live) echoStart [.crud relinkEcho] w ∧
      w.rt.entityRegistry["echo"]?.map (·.acl) = some "closed" ∧
        AclsAgree echoTables.live w.rt := by
  have hreq : crudRequest echoTables.live relinkEcho =
      some ("entities", ["echo"], .put [.text "bafyechosecond"]) := by decide +kernel
  have hlink : (linkEntity echoTables.live relinkEcho "echo" "bafyechosecond" [] echoStart).1 =
      .ok ("bafyechosecond", { echoNode with acl := "closed" }) := by decide +kernel
  have hstart : AclsAgree echoTables.live echoStart.rt := by
    refine booted_aclsAgree fun rc m hroot hm => ?_
    obtain rfl := Option.some.inj hroot
    obtain rfl := Option.some.inj (hm.symm.trans rfl)
    decide
  have hrun := Run.cons (@AclKeepingStep.crud _ echoStart relinkEcho _ (.turn (by decide +kernel))
    { field := fun name aclName args ep h => absurd (hreq.symm.trans h) (by simp)
      upsert := fun name path cid node w1 ep h hlinked _ => by
        rw [hreq] at h
        simp only [Option.some.injEq, Prod.mk.injEq, List.cons.injEq, Args.put.injEq,
          Cbor.text.injEq, and_true, true_and] at h
        obtain ⟨rfl, rfl⟩ := h
        rw [hlinked] at hlink
        simp only [Lib.Outcome.ok.injEq, Prod.mk.injEq] at hlink
        obtain ⟨rfl, rfl⟩ := hlink
        obtain rfl := congrArg Prod.snd hlinked
        exact .inr ⟨{ fragment := "echo", kind := .stateless, acl := "closed", parent := none
                      backend := .extism 1 }, by decide +kernel⟩ }) (.nil _)
  exact ⟨_, hrun, by decide +kernel, (aclsAgree_run hstart hrun).1⟩

/-- **A revoked right is still honoured**: the clearing is acknowledged and no Kubo call fails, but
the next message to the entity passes its gate. -/
theorem cleared_acl_still_admits :
    ∃ w, Step echoTables.live echoStart (.crud clearAcl) w ∧ w.io.kuboFailed = false ∧
      w.io.replies.map (·.body.isSuccess) = [true] ∧ ¬ AclsAgree echoTables.live w.rt ∧
      (w.rt.entityRegistry["echo"]?.map fun ep =>
        (authorizeEntity echoTables.live callEcho (.text ":echo") ep [(.rootAcl, .read)] w).1) =
        some (.ok ()) := by
  refine ⟨_, .turn (by decide +kernel), by decide +kernel, by decide +kernel, fun h => ?_,
    by decide +kernel⟩
  have hacl : (((Turn.crud clearAcl).run echoTables.live [] echoStart).2.rt.entityRegistry[
      "echo"]?).map (·.acl) = some "open" := by decide +kernel
  obtain ⟨ep, hep, hopen⟩ := Option.map_eq_some_iff.mp hacl
  have hclosed := h _ "echo" ep ⟨"bafyechoclosed"⟩ { echoNode with acl := "" }
    ⟨"bafycleared", by decide +kernel, rfl⟩ hep (by decide) rfl
  exact absurd (hopen.symm.trans hclosed) (by simp)

end MaRuntime
