import MaRuntime.World

/-!
# Claiming a runtime (`src/status.rs`)

`POST /claim` makes the first claimant the owner of an unclaimed runtime: in `stats.owners`, in the
live root ACL and in the config file. `bootstrapMinimalManifest` is the manifest a daemon starts
from when it finds none. `ClaimEffect` is all that a claim can do.
-/

namespace MaRuntime

open Lib (Proc)

/-- `Config::save`: the config goes to its own path. -/
def saveConfig (env : Env) (config : Config) : M Unit :=
  match config.configPath with
  | none => Proc.fail ["config_path is not set"]
  | some path => do
    let n ← nextCall
    Proc.ofExcept (env.writeFile n)
    modifyRt fun rt => { rt with files := rt.files.insert path (.ok config) }

/-- `persist_owners_to_config`. -/
def persistOwnersToConfig (env : Env) (path : String) (owners : List String) : M Unit := do
  let file ← getRt fun rt => rt.files[path]?
  let config ← Proc.ofExcept (file.getD env.emptyConfig)
  saveConfig env
    { config with
      configPath := some path, extra := config.extra.insert "owners" (Yaml.strings owners) }

/-- `grant_owners_in_acl` on the ACL itself. -/
def grantOwners (acl : AclMap) (owners : List String) : AclMap :=
  owners.foldl (fun acl owner => acl.insert owner (.fromCaps ["*"])) acl

/-- `grant_owners_in_acl`. -/
def grantOwnersInAcl (owners : List String) : M Unit :=
  writing .rootAcl (modifyRt fun rt => { rt with rootAcl := grantOwners rt.rootAcl owners })

/-- The answers of `POST /claim`. -/
inductive ClaimResponse where
  | claimed (owners : List String)
  | alreadyClaimed
  deriving DecidableEq, Repr

/-- A claim survives a restart through the config file. One that cannot be written is only
logged. -/
def persistClaim (env : Env) (configPath : Option String) (owners : List String) : M Unit :=
  match configPath with
  | some path => do
    let _ ← (persistOwnersToConfig env path owners).attempt
    pure ()
  | none => pure ()

/-- `handle_claim`, on the body `{"owner": owner}`. -/
def handleClaim (env : Env) (owner : String) : M ClaimResponse := do
  let (owners, configPath) ← readStats fun s => (s.owners, s.configPath)
  if !owners.isEmpty then pure .alreadyClaimed
  else do
    let newOwners := [owner]
    writeStats fun s => { s with owners := newOwners }
    grantOwnersInAcl newOwners
    persistClaim env configPath newOwners
    pure (.claimed newOwners)

/-- `bootstrap_minimal_manifest`. -/
def bootstrapMinimalManifest (env : Env) (owners : List String) : M Cid := do
  let aclCid ← withContext "dag_put owner-only ACL"
    (dagPut env.kubo.acls (grantOwners ∅ owners))
  let manifest : RuntimeManifest :=
    { acl := some ⟨aclCid⟩
      config := (∅ : StrMap Yaml).insert "owners" (Yaml.strings owners) }
  let rootCid ← withContext "dag_put minimal manifest" (dagPut env.kubo.manifests manifest)
  withContext "pinning minimal manifest" (pinAdd env rootCid)
  pure rootCid

/-! ## Frames -/

/-- Of the shared state only the config files changed. -/
def FilesOnly (w w' : World) : Prop := w'.rt = { w.rt with files := w'.rt.files }

instance : IsPreorder World FilesOnly where
  refl _ := rfl
  trans a b c h h' := by
    unfold FilesOnly at *
    rw [h', h]

theorem Idle.filesOnly {w w' : World} (h : Idle w w') : FilesOnly w w' := by
  unfold FilesOnly
  rw [h]

theorem calm_saveConfig {g : Lib.Guards Lock} (env : Env) (config : Config) :
    Proc.Calm g FilesOnly (saveConfig env config) := by
  unfold saveConfig
  split
  · exact Proc.calm_fail _
  · refine (calm_nextCall.mono fun _ _ h => h.filesOnly).bind fun n => ?_
    refine (Proc.calm_ofExcept _).bind fun _ => ?_
    exact calm_modifyRt fun _ => rfl

/-- What a save does: the file holds the config, or the write did not get through. -/
theorem saveConfig_sat {g : Lib.Guards Lock} (env : Env) (config : Config) (w : World) :
    (saveConfig env config).Sat g w fun o w' =>
      (o = .ok () ∧ ∃ path, config.configPath = some path ∧
        w'.rt = { w.rt with files := w.rt.files.insert path (.ok config) }) ∨
      ∃ e, o = .err e ∧ Idle w w' ∧
        (config.configPath = none ∨ ∃ e, env.writeFile w.io.calls = .error e) := by
  unfold saveConfig
  cases hpath : config.configPath with
  | none => exact .inr ⟨_, rfl, rfl, .inl rfl⟩
  | some path =>
    dsimp only
    refine Proc.sat_bind_of_ok (a := w.io.calls) rfl ?_
    cases env.writeFile w.io.calls with
    | ok u => exact .inl ⟨rfl, path, rfl, rfl⟩
    | error e => exact .inr ⟨e, rfl, rfl, .inr ⟨e, rfl⟩⟩

theorem calm_persistOwnersToConfig {g : Lib.Guards Lock} (env : Env) (path : String)
    (owners : List String) : Proc.Calm g FilesOnly (persistOwnersToConfig env path owners) :=
  (calm_getRt _).bind fun _ => (Proc.calm_ofExcept _).bind fun _ => calm_saveConfig env _

theorem calm_persistClaim {g : Lib.Guards Lock} (env : Env) (configPath : Option String)
    (owners : List String) : Proc.Calm g FilesOnly (persistClaim env configPath owners) := by
  unfold persistClaim
  split
  · exact (calm_persistOwnersToConfig env _ _).attempt.bind fun _ => Proc.calm_pure _
  · exact Proc.calm_pure _

theorem calm_bootstrapMinimalManifest {g : Lib.Guards Lock} (env : Env) (owners : List String) :
    Proc.Calm g Idle (bootstrapMinimalManifest env owners) :=
  (calm_withContext _ (calm_dagPut _ _)).bind fun _ =>
    (calm_withContext _ (calm_dagPut _ _)).bind fun _ =>
      (calm_withContext _ (calm_pinAdd env _)).bind fun _ => Proc.calm_pure _

/-- A claim is persisted without an error to report. -/
theorem persistClaim_run {g : Lib.Guards Lock} (env : Env) (configPath : Option String)
    (owners : List String) (w : World) :
    ∃ w', persistClaim env configPath owners g w = (.ok (), w') ∧ FilesOnly w w' := by
  have hfiles := (calm_persistClaim (g := g) env configPath owners).keeps g w
  suffices h : (persistClaim env configPath owners g w).1 = .ok () by
    exact ⟨_, Prod.ext h rfl, hfiles⟩
  cases configPath with
  | none => rfl
  | some path =>
    obtain ⟨r, w', h⟩ := (calm_persistOwnersToConfig env path owners).frees.attempt_run w
    exact congrArg Prod.fst (Proc.bind_of_ok h)

/-! ## What a claim can do -/

/-- The effect of a claim. -/
inductive ClaimEffect (owner : String) (rt : Runtime) : ClaimResponse → Runtime → Prop where
  | refused (h : rt.stats.owners ≠ []) : ClaimEffect owner rt .alreadyClaimed rt
  | claimed {files : StrMap (Except Error Config)} (h : rt.stats.owners = []) :
      ClaimEffect owner rt (.claimed [owner])
        { rt with
          stats := { rt.stats with owners := [owner] }
          rootAcl := grantOwners rt.rootAcl [owner], files := files }

/-- The state a claim leaves before it is persisted. -/
def Runtime.claimedBy (rt : Runtime) (owner : String) : Runtime :=
  { rt with
    stats := { rt.stats with owners := [owner] }, rootAcl := grantOwners rt.rootAcl [owner] }

/-- **A claim goes through exactly on an unclaimed runtime.** -/
theorem handleClaim_effect (env : Env) (owner : String) (w : World) :
    ∃ r, (handleClaim env owner [] w).1 = .ok r ∧
      ClaimEffect owner w.rt r (handleClaim env owner [] w).2.rt := by
  by_cases h : w.rt.stats.owners = []
  · have hrun : handleClaim env owner [] w =
        (do
          persistClaim env w.rt.stats.configPath [owner]
          pure (.claimed [owner]) : M ClaimResponse) [] { w with rt := w.rt.claimedBy owner } := by
      unfold handleClaim
      rw [Proc.bind_of_ok (a := (w.rt.stats.owners, w.rt.stats.configPath)) (t := w) rfl]
      simp only [h, List.isEmpty_nil, Bool.not_true, Bool.false_eq_true, if_false]
      rfl
    obtain ⟨w1, h1, hfiles⟩ := persistClaim_run (g := []) env w.rt.stats.configPath [owner]
      { w with rt := w.rt.claimedBy owner }
    rw [hrun, Proc.bind_of_ok h1]
    refine ⟨_, rfl, ?_⟩
    show ClaimEffect owner w.rt _ w1.rt
    rw [show w1.rt = _ from hfiles]
    exact .claimed h
  · have hrun : handleClaim env owner [] w = (.ok .alreadyClaimed, w) := by
      unfold handleClaim
      rw [Proc.bind_of_ok (a := (w.rt.stats.owners, w.rt.stats.configPath)) (t := w) rfl]
      have hne : w.rt.stats.owners.isEmpty = false := by simpa using h
      simp only [hne, Bool.not_false, if_true, Proc.pure_run]
    rw [hrun]
    exact ⟨_, rfl, .refused h⟩

end MaRuntime
