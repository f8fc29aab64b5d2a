import MaRuntime.Bootstrap
import MaRuntime.Crud.Dispatch
import MaRuntime.Ipfs
import MaRuntime.Rpc
import MaRuntime.Status

/-!
# The daemon (`src/main.rs`)

`startup` builds the shared state from a root manifest and the config; `Turn` is one piece of work
of the event loop, which runs one task at a time, or of the status server; `shutdown` is the way
out.
-/

namespace MaRuntime

open Lib (Proc)

/-- The state before startup: `acl` denies all, every registry and cache is empty. -/
def blankRuntime (config : Config) (files : StrMap (Except Error Config))
    (cells : Nat → PluginCell) : Runtime where
  stats := {}
  rootAcl := ∅
  aclCache := ∅
  entityRegistry := ∅
  kindRegistry := ∅
  sharedConfig := config
  files := files
  cells := cells
  nextCell := 0

/-- The ACLs of a manifest that load, by cache key. -/
def loadNamedAcls (env : Env) (acls : List (String × IpldLink)) : M (StrMap AclMap) :=
  Proc.fold acls ∅ fun entries (aclName, link) => do
    match ← (loadAclFromCid env link.cid).attempt with
    | .ok aclMap => pure (entries.insert (aclCacheKey aclName) aclMap)
    | .error _ => pure entries

/-- Startup: the transport gate, from the ACL of the manifest. -/
def loadRootAcl (env : Env) (link : IpldLink) : M Unit := do
  match ← (loadAclFromCid env link.cid).attempt with
  | .ok manifestAcl => writing .rootAcl (modifyRt fun rt => { rt with rootAcl := manifestAcl })
  | .error _ => pure ()

/-- Startup: the transport gate and the ACL cache. Failures are only logged. -/
def loadAcls (env : Env) (rootCid : Cid) : M Unit := do
  match ← (dagGet env.kubo.manifests rootCid).attempt with
  | .error _ => pure ()
  | .ok m => do
    whenSome m.acl (loadRootAcl env)
    let entries ← loadNamedAcls env m.acls.toList
    writing .aclCache (modifyRt fun rt => { rt with aclCache := entries })

/-- Startup: the owners that the config and the command line name. -/
def resolvedOwners (config : Config) (cliOwners : List String) : List String :=
  let fromConfig := match config.extra["owners"]? with
    | some (.sequence items) => items.filterMap Yaml.asStr
    | some (.string s) => [s]
    | _ => []
  cliOwners.foldl (fun owners o => if owners.contains o then owners else owners ++ [o]) fromConfig

/-- Startup: the resolved owners get into the root ACL. -/
def seedOwners (owners : List String) : M Unit :=
  if owners.isEmpty then pure () else grantOwnersInAcl owners

/-- Startup: the root CID of the command line or of IPNS. Without one a minimal manifest is
bootstrapped. -/
def initialRoot (env : Env) : Option Cid → M (Option Cid)
  | some cid => pure (some cid)
  | none => do pure (← (bootstrapMinimalManifest env []).attempt).toOption

/-- Startup, from a root CID. The kind registry is created empty. -/
def startup (env : Env) (rootCid : Option Cid) (cliOwners : List String) : M Unit := do
  let rootCid ← initialRoot env rootCid
  whenSome rootCid fun rc => do
    let _ ← loadEntities env rc
  writing .entityRegistry (modifyRt fun rt =>
    { rt with
      entityRegistry := rt.entityRegistry.insert schedulerFragment
        (newNative schedulerFragment schedulerNode).1 })
  whenSome rootCid (loadAcls env)
  let config ← getRt fun rt => rt.sharedConfig
  let owners := resolvedOwners config cliOwners
  seedOwners owners
  let entityNames ← reading .entityRegistry (getRt fun rt => rt.entityRegistry.keys)
  writeStats fun s => { s with entityNames, rootCid, owners, configPath := config.configPath }

/-- The daemon after startup. -/
def booted (env : Env) (config : Config) (files : StrMap (Except Error Config))
    (cells : Nat → PluginCell) (rootCid : Option Cid) (cliOwners : List String) : World :=
  (startup env rootCid cliOwners [] ⟨blankRuntime config files cells, {}⟩).2

/-- One piece of work. -/
inductive Turn where
  | rpc (message : Message)
  | crud (message : Message)
  | ipfs (message : Message)
  | claim (owner : String)

/-- Do it. -/
def Turn.run (env : Env) : Turn → M Unit
  | .rpc message => rpcTurn env message
  | .crud message => crudTurn env message
  | .ipfs message => ipfsTurn env message
  | .claim owner => do
    let _ ← handleClaim env owner

/-- The shutdown branch of the event loop, up to publishing the root over IPNS. -/
def shutdown (env : Env) : M Unit := do
  match ← readStats fun s => s.rootCid with
  | none => pure ()
  | some rc => do
    let count ← reading .entityRegistry (getRt fun rt => rt.entityRegistry.size)
    if count > 0 then do
      match ← (saveAllEntityStates env rc).attempt with
      | .ok newCid => writeStats fun s => { s with rootCid := some newCid }
      | .error _ => pure ()

/-- One turn from the idle loop: no task holds a guard. A failure of the handler is only logged, so
the turn is over in any outcome but `stuck`. -/
inductive Step (env : Env) : World → Turn → World → Prop where
  | turn {w : World} {t : Turn} (h : (t.run env [] w).1 ≠ .stuck) :
      Step env w t (t.run env [] w).2

/-! ## Frames -/

/-- Of the shared state only the root ACL and the ACL cache changed. -/
def AclsOnly (w w' : World) : Prop :=
  w'.rt = { w.rt with rootAcl := w'.rt.rootAcl, aclCache := w'.rt.aclCache }

instance : IsPreorder World AclsOnly where
  refl _ := rfl
  trans a b c h h' := by
    unfold AclsOnly at *
    rw [h', h]

theorem Idle.aclsOnly {w w' : World} (h : Idle w w') : AclsOnly w w' := by
  unfold AclsOnly
  rw [h]

theorem AclsOnly.stats {w w' : World} (h : AclsOnly w w') : w'.rt.stats = w.rt.stats := by
  unfold AclsOnly at h
  rw [h]

theorem AclsOnly.kindRegistry {w w' : World} (h : AclsOnly w w') :
    w'.rt.kindRegistry = w.rt.kindRegistry := by
  unfold AclsOnly at h
  rw [h]

theorem AclsOnly.entityRegistry {w w' : World} (h : AclsOnly w w') :
    w'.rt.entityRegistry = w.rt.entityRegistry := by
  unfold AclsOnly at h
  rw [h]

section Frames

variable {env : Env}

theorem calm_loadNamedAcls (acls : List (String × IpldLink)) :
    Proc.Calm [] Idle (loadNamedAcls env acls) := by
  refine Proc.Calm.fold (fun entries e _ => ?_) _
  refine (calm_loadAclFromCid _ _).attempt.bind fun r => ?_
  split
  · exact Proc.calm_pure _
  · exact Proc.calm_pure _

theorem calm_loadAcls (rc : Cid) : Proc.Calm [] AclsOnly (loadAcls env rc) := by
  refine ((calm_dagGet _ _).attempt.mono fun _ _ h => h.aclsOnly).bind fun r => ?_
  split
  · exact Proc.calm_pure _
  · refine (calm_whenSome (fun link => ?_) _).bind fun _ => ?_
    · refine ((calm_loadAclFromCid _ _).attempt.mono fun _ _ h => h.aclsOnly).bind fun r => ?_
      split
      · exact calm_writing rfl fun _ => rfl
      · exact Proc.calm_pure _
    · refine ((calm_loadNamedAcls _).mono fun _ _ h => h.aclsOnly).bind fun entries => ?_
      exact calm_writing rfl fun _ => rfl

theorem calm_seedOwners (owners : List String) : Proc.Calm [] AclsOnly (seedOwners owners) := by
  unfold seedOwners
  split
  · exact Proc.calm_pure _
  · exact calm_writing rfl fun _ => rfl

theorem calm_initialRoot (rootCid : Option Cid) : Proc.Calm [] Idle (initialRoot env rootCid) := by
  cases rootCid with
  | some cid => exact Proc.calm_pure _
  | none => exact (calm_bootstrapMinimalManifest env _).attempt.bind fun _ => Proc.calm_pure _

end Frames

theorem claimTurn_effect (env : Env) (owner : String) (w : World) :
    ∃ r, ClaimEffect owner w.rt r ((Turn.claim owner).run env [] w).2.rt := by
  obtain ⟨r, hr, heff⟩ := handleClaim_effect env owner w
  refine ⟨r, ?_⟩
  show ClaimEffect owner w.rt r ((handleClaim env owner >>= fun _ => pure ()) [] w).2.rt
  rw [Proc.bind_of_ok (Prod.ext hr rfl)]
  exact heff

/-- **A claim turn is refused or takes the daemon over**: what holds in either case holds after
it. -/
theorem claimTurn_cases {env : Env} {owner : String} {w : World} {P : Runtime → Prop}
    (hrefused : P w.rt)
    (hclaimed : ∀ files, w.rt.stats.owners = [] →
      P { w.rt.claimedBy owner with files := files }) :
    P ((Turn.claim owner).run env [] w).2.rt := by
  obtain ⟨r, heff⟩ := claimTurn_effect env owner w
  generalize ((Turn.claim owner).run env [] w).2.rt = rt' at heff ⊢
  cases heff with
  | refused _ => exact hrefused
  | claimed hnone => exact hclaimed _ hnone

/-- What CRUD messages alone change: the root, the ACL cache, the kinds and the shared config. -/
structure SameStores (rt rt' : Runtime) : Prop where
  rootCid : rt'.stats.rootCid = rt.stats.rootCid
  aclCache : rt'.aclCache = rt.aclCache
  kindRegistry : rt'.kindRegistry = rt.kindRegistry
  sharedConfig : rt'.sharedConfig = rt.sharedConfig

/-- **Every other turn leaves them alone.** -/
theorem sameStores_of_turn (env : Env) (w : World) {t : Turn} (ht : ∀ message, t ≠ .crud message) :
    SameStores w.rt (t.run env [] w).2.rt := by
  cases t with
  | crud message => exact absurd rfl (ht message)
  | rpc message =>
    have h : (rpcTurn env message [] w).2.rt = _ := rpcTurn_pluginsOnly env message w
    show SameStores w.rt (rpcTurn env message [] w).2.rt
    rw [h]
    exact ⟨rfl, rfl, rfl, rfl⟩
  | ipfs message =>
    show SameStores w.rt (ipfsTurn env message [] w).2.rt
    rw [ipfsTurn_counted]
    exact ⟨rfl, rfl, rfl, rfl⟩
  | claim owner => exact claimTurn_cases ⟨rfl, rfl, rfl, rfl⟩ fun _ _ => ⟨rfl, rfl, rfl, rfl⟩

end MaRuntime
