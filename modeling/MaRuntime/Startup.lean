import MaRuntime.Main

/-!
# Startup, stage by stage (`src/main.rs`)

`startup_run` cuts a startup into its stages: the root, the entities, the ACLs, and the owners of
the config and the command line. No stage fails, so every fact about the booted daemon is one about
its stages.
-/

namespace MaRuntime

open Lib (Proc)

/-! ## Stages -/

/-- The entities of the root. -/
def loadRootEntities (env : Env) (root : Option Cid) : M Unit :=
  whenSome root fun rc => do
    let _ ← loadEntities env rc

/-- The state with the native `#scheduler` registered. -/
def Runtime.withScheduler (rt : Runtime) : Runtime :=
  { rt with
    entityRegistry := rt.entityRegistry.insert schedulerFragment
      (newNative schedulerFragment schedulerNode).1 }

/-- The root ACL that the owners seeded. -/
def seededAcl (acl : AclMap) (owners : List String) : AclMap :=
  if owners.isEmpty then acl else grantOwners acl owners

/-- The last stage: the owners in the ACL, and the statistics. -/
def Runtime.settled (rt : Runtime) (root : Option Cid) (cliOwners : List String) : Runtime :=
  let owners := resolvedOwners rt.sharedConfig cliOwners
  { rt with
    rootAcl := seededAcl rt.rootAcl owners
    stats := { rt.stats with
      entityNames := rt.entityRegistry.keys, rootCid := root, owners
      configPath := rt.sharedConfig.configPath } }

section Stages

variable {env : Env}

theorem total_initialRoot (rootCid : Option Cid) : Proc.Total [] (initialRoot env rootCid) := by
  cases rootCid with
  | some cid => exact Proc.total_pure _
  | none =>
    exact (calm_bootstrapMinimalManifest env _).frees.total_attempt.bind fun _ =>
      Proc.total_pure _

theorem total_loadEntity (manifest : RuntimeManifest) (name : String) (link : IpldLink) :
    Proc.Total [] (loadEntity env manifest name link) := by
  intro w
  obtain ⟨loaded, w', hrun, -⟩ := loadEntity_run env manifest name link w
  exact ⟨loaded, w', hrun⟩

theorem total_loadRootEntities (root : Option Cid) :
    Proc.Total [] (loadRootEntities env root) := by
  cases root with
  | none => exact Proc.total_pure _
  | some rc =>
    refine Proc.Total.bind ?_ fun _ => Proc.total_pure _
    refine (calm_dagGet _ _).frees.total_attempt.bind fun r => ?_
    split
    · exact Proc.total_pure _
    · exact Proc.Total.fold (fun _ _ => (total_loadEntity _ _ _).bind fun _ => Proc.total_pure _)
        _ _

theorem total_loadRootAcl (link : Option IpldLink) :
    Proc.Total [] (whenSome link (loadRootAcl env)) := by
  cases link with
  | none => exact Proc.total_pure _
  | some link =>
    refine (calm_loadAclFromCid _ _).frees.total_attempt.bind fun r => ?_
    split
    · exact Proc.Total.holding rfl (Proc.total_update _)
    · exact Proc.total_pure _

theorem total_loadNamedAcls (acls : List (String × IpldLink)) :
    Proc.Total [] (loadNamedAcls env acls) := by
  refine Proc.Total.fold (fun entries entry => ?_) _ _
  refine (calm_loadAclFromCid _ _).frees.total_attempt.bind fun r => ?_
  split
  · exact Proc.total_pure _
  · exact Proc.total_pure _

theorem total_loadAcls (root : Option Cid) : Proc.Total [] (whenSome root (loadAcls env)) := by
  cases root with
  | none => exact Proc.total_pure _
  | some rc =>
    refine (calm_dagGet _ _).frees.total_attempt.bind fun r => ?_
    split
    · exact Proc.total_pure _
    · exact (total_loadRootAcl _).bind fun _ => (total_loadNamedAcls _).bind fun _ =>
        Proc.Total.holding rfl (Proc.total_update _)

theorem calm_loadRootEntities (root : Option Cid) :
    Proc.Calm [] PluginsOnly (loadRootEntities env root) :=
  calm_whenSome (fun rc => (calm_loadEntities env rfl rc).bind fun _ => Proc.calm_pure _) root

/-- The loads keep what every load of an entity of the root keeps. -/
theorem loadRootEntities_keeps {I : StrMap EntityPlugin → Prop} {root : Option Cid} {w w' : World}
    (hinsert : ∀ {rc : Cid} {m : RuntimeManifest} {name : String} {link : IpldLink}
      {node : EntityNode} {kindNode : KindNode} {ep : EntityPlugin} {lifecycle : Lifecycle}
      {w1 w2 : World} {registry : StrMap EntityPlugin}, root = some rc →
      env.kubo.manifests.denotes rc = some m → m.entities[name]? = some link →
      env.kubo.entities.denotes link.cid = some node →
      load env name node kindNode [] w1 = (.ok (ep, lifecycle), w2) → I registry →
      I (registry.insert name ep))
    (h : I w.rt.entityRegistry) (hrun : loadRootEntities env root [] w = (.ok (), w')) :
    I w'.rt.entityRegistry := by
  cases root with
  | none =>
    obtain rfl : w = w' := congrArg Prod.snd hrun
    exact h
  | some rc =>
    obtain ⟨n, w1, hload, hdone⟩ := Proc.bind_ok (p := loadEntities env rc) hrun
    obtain rfl : w1 = w' := congrArg Prod.snd hdone
    exact (loadEntities_keeps (hinsert rfl) h).of_run hload

theorem seedOwners_run (owners : List String) (w : World) :
    seedOwners owners [] w =
      (.ok (), { w with rt := { w.rt with rootAcl := seededAcl w.rt.rootAcl owners } }) := by
  unfold seedOwners seededAcl
  split
  · rfl
  · rfl

/-- **Startup goes through its stages**, whatever fails in them. -/
theorem startup_run (env : Env) (rootCid : Option Cid) (cliOwners : List String) (w : World) :
    ∃ root w1 w2 w3, (initialRoot env rootCid [] w = (.ok root, w1) ∧ Idle w w1) ∧
      (loadRootEntities env root [] w1 = (.ok (), w2) ∧ PluginsOnly w1 w2) ∧
      (whenSome root (loadAcls env) [] { w2 with rt := w2.rt.withScheduler } = (.ok (), w3) ∧
        AclsOnly { w2 with rt := w2.rt.withScheduler } w3) ∧
      startup env rootCid cliOwners [] w =
        (.ok (), { w3 with rt := w3.rt.settled root cliOwners }) := by
  obtain ⟨root, w1, h1⟩ := @total_initialRoot env rootCid w
  obtain ⟨_, w2, h2⟩ := @total_loadRootEntities env root w1
  obtain ⟨_, w3, h3⟩ := @total_loadAcls env root { w2 with rt := w2.rt.withScheduler }
  have k1 := (calm_initialRoot rootCid).of_run h1
  have k2 := (calm_loadRootEntities root).of_run h2
  have k3 := (calm_whenSome calm_loadAcls root).of_run h3
  refine ⟨root, w1, w2, w3, ⟨h1, k1.2⟩, ⟨h2, k2.2⟩, ⟨h3, k3.2⟩, ?_⟩
  refine (Proc.bind_of_ok h1).trans ((Proc.bind_of_ok h2).trans ?_)
  refine (Proc.bind_of_ok (t := { w2 with rt := w2.rt.withScheduler }) rfl).trans ?_
  refine (Proc.bind_of_ok h3).trans ?_
  refine (Proc.bind_of_ok (t := w3) rfl).trans ?_
  exact (Proc.bind_of_ok (seedOwners_run _ w3)).trans rfl

end Stages

end MaRuntime
