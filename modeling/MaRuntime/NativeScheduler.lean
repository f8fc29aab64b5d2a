import MaRuntime.CrudDelete
import MaRuntime.Startup

/-!
# The native scheduler

Startup registers the native plugin `#scheduler`, over whatever the manifest calls so. The name is
reserved: an upsert refuses it, and no plugin asks for it, as generated names are not reserved.
Nothing refuses a delete of it over CRUD.

* `SchedulerIn`: the registry has the native plugin under its name, and every other one under its
  own.
* **`scheduler_stays`**: over every run from startup in which no privileged message deletes it, the
  entry is the plugin of startup.
* `owner_deletes_scheduler`: such a delete takes it away.
-/

namespace MaRuntime

open Lib (Cbor Proc Run)

/-- The plugin that startup registers. -/
def nativeScheduler : EntityPlugin := (newNative schedulerFragment schedulerNode).1

/-- The native plugin is registered, and every entity under its own name. -/
structure SchedulerIn (registry : StrMap EntityPlugin) : Prop where
  native : registry[schedulerFragment]? = some nativeScheduler
  keyed : Keyed registry

/-- The work of a turn that leaves the scheduler to itself: no privileged sender asks for its
deletion, and the names that are generated are not reserved. -/
def SparesScheduler (env : Env) (w : World) : Turn → Prop
  | .crud message => ¬ (AsksDelete env message schedulerFragment ∧ Privileged env w.rt message.from)
  | .rpc message => ∀ entity result w', RpcResult env message w entity result w' →
      ∀ req ∈ result.createRequests, reservedEntityNames.contains req.fragment = false
  | .ipfs _ => True
  | .claim _ => True

/-- A turn that leaves the scheduler to itself. -/
def SparingTurn (env : Env) (w : World) (t : Turn) (w' : World) : Prop :=
  SparesScheduler env w t ∧ w' = (t.run env [] w).2

section Registry

variable {registry : StrMap EntityPlugin}

theorem SchedulerIn.insert (h : SchedulerIn registry) {name : String} {ep : EntityPlugin}
    (hname : reservedEntityNames.contains name = false) (hfragment : ep.fragment = name) :
    SchedulerIn (registry.insert name ep) := by
  refine ⟨?_, h.keyed.insert hfragment⟩
  have hne : schedulerFragment ≠ name := by
    rintro rfl
    exact absurd hname (by decide)
  rw [getElem?_insert_of_ne hne]
  exact h.native

theorem SchedulerIn.erase (h : SchedulerIn registry) {name : String}
    (hname : name ≠ schedulerFragment) : SchedulerIn (registry.erase name) := by
  refine ⟨?_, h.keyed.erase name⟩
  rw [getElem?_erase_of_ne hname.symm]
  exact h.native

/-- A plugin's deletion of the scheduler is granted to the scheduler alone. -/
theorem SchedulerIn.eq_of_mayDelete (h : SchedulerIn registry) {entity : EntityPlugin}
    (hmay : mayDelete entity registry schedulerFragment = true) :
    entity.fragment = schedulerFragment := by
  obtain ⟨ep, hep, hown, -⟩ := mayDelete_iff.mp hmay
  obtain rfl := Option.some.inj (h.native.symm.trans hep)
  rcases hown with hparent | hself
  · exact absurd hparent (by simp [nativeScheduler, newNative, schedulerNode])
  · exact hself.symm

end Registry

section Turns

variable {env : Env} {w w' : World}

/-- The scheduler asks for nothing. -/
theorem nativeScheduler_requests {g : Lib.Guards Lock} {input : CastInput} {result : DispatchResult}
    (h : dispatch env nativeScheduler input g w = (.ok result, w')) :
    result.createRequests = [] ∧ result.deleteRequests = [] := by
  have h : schedulerDispatch env input g w = (.ok result, w') := h
  obtain ⟨_, _, -, -, -, rfl⟩ := schedulerDispatch_ok h
  exact ⟨rfl, rfl⟩

theorem rpcTurn_schedulerIn {message : Message} (h : SchedulerIn w.rt.entityRegistry)
    (hspares : SparesScheduler env w (.rpc message)) :
    SchedulerIn (rpcTurn env message [] w).2.rt.entityRegistry := by
  rcases rpcTurn_cases env message w with ⟨entity, result, w', hresult⟩ | ⟨-, hcells⟩
  · have hnames := hspares entity result w' hresult
    obtain ⟨fragment, input, w2, w3, hentity, hdispatch, h3, hrun⟩ := hresult.processed
    rw [hrun]
    rw [← h3] at h
    refine processResult_keeps (I := SchedulerIn) ?_ (fun _ h => h) ?_ h
    · intro req hreq registry ep hin hfragment _
      exact hin.insert (hnames req hreq) hfragment
    · intro target htarget registry hin hmay
      refine hin.erase ?_
      rintro rfl
      -- Only the scheduler may, and it is the native plugin, which does not.
      have hself := hin.eq_of_mayDelete hmay
      rw [h3] at h
      rw [h.keyed fragment entity hentity] at hself
      subst hself
      obtain rfl := Option.some.inj (h.native.symm.trans hentity)
      rw [(nativeScheduler_requests hdispatch).2] at htarget
      exact absurd htarget (by simp)
  · rw [hcells.entityRegistry]
    exact h

theorem crudTurn_schedulerIn {message : Message} (h : SchedulerIn w.rt.entityRegistry)
    (hspares : SparesScheduler env w (.crud message)) :
    SchedulerIn (crudTurn env message [] w).2.rt.entityRegistry := by
  have heffect := (crudTurn_effect env message w).2
  generalize (crudTurn env message [] w).2.rt = rt' at heffect ⊢
  have spared {name : String} (hreq : AsksDelete env message name)
      (hprivileged : Privileged env w.rt message.from) : name ≠ schedulerFragment := by
    rintro rfl
    exact hspares ⟨hreq, hprivileged⟩
  have written {f : RuntimeManifest → RuntimeManifest} {rt rt1 : Runtime} {newCid : Cid}
      (hw : ManifestWrite env f rt newCid rt1) : rt1.entityRegistry = rt.entityRegistry := by
    rw [hw.frame]
  cases heffect with
  | idle hidle => rwa [hidle]
  | request hreq hgate heff =>
    cases heff with
    | idle => exact h
    | configDelete hw => rwa [written hw]
    | configSet _ hw => rwa [written hw]
    | daemonSet _ => exact h
    | aclSet _ hw => exact (written hw).symm ▸ h
    | aclsSet hw _ => exact (written hw).symm ▸ h
    | aclsDelete hw => exact (written hw).symm ▸ h
    | kindSet hw => rwa [written hw]
    | kindDelete hw => rwa [written hw]
    | entityDelete hcap hw =>
      rw [written hw]
      exact h.erase (spared hreq ⟨hgate, hcap⟩)
    | entityDeleteCut hcap => exact h.erase (spared hreq ⟨hgate, hcap⟩)
    | entityUpsert _ _ hname _ hw hreg =>
      rw [← written hw] at h
      cases hreg with
      | skipped => exact h
      | loaded hfragment _ _ => exact h.insert hname hfragment
    | entityAcl _ _ _ _ _ _ hw => rwa [written hw]

theorem SparingTurn.schedulerIn {t : Turn} (h : SchedulerIn w.rt.entityRegistry)
    (hturn : SparingTurn env w t w') : SchedulerIn w'.rt.entityRegistry := by
  obtain ⟨hspares, rfl⟩ := hturn
  cases t with
  | rpc message => exact rpcTurn_schedulerIn h hspares
  | crud message => exact crudTurn_schedulerIn h hspares
  | ipfs message =>
    show SchedulerIn (ipfsTurn env message [] w).2.rt.entityRegistry
    rw [ipfsTurn_counted]
    exact h
  | claim owner =>
    exact claimTurn_cases (P := fun rt => SchedulerIn rt.entityRegistry) h fun _ _ => h

end Turns

/-! ## Startup -/

section Startup

variable {env : Env}

theorem loadRootEntities_keyed {root : Option Cid} {w w' : World}
    (h : Keyed w.rt.entityRegistry) (hrun : loadRootEntities env root [] w = (.ok (), w')) :
    Keyed w'.rt.entityRegistry :=
  loadRootEntities_keeps (fun _ _ _ _ hload h => h.insert (load_ok hload).1) h hrun

/-- **Startup registers the native plugin**, over an entity of the manifest with its name. -/
theorem booted_schedulerIn (config : Config) (files : StrMap (Except Error Config))
    (cells : Nat → PluginCell) (rootCid : Option Cid) (cliOwners : List String) :
    SchedulerIn (booted env config files cells rootCid cliOwners).rt.entityRegistry := by
  obtain ⟨root, w1, w2, w3, ⟨-, h1⟩, ⟨hload, -⟩, ⟨-, h3⟩, hrun⟩ :=
    startup_run env rootCid cliOwners ⟨blankRuntime config files cells, {}⟩
  have hblank : Keyed w1.rt.entityRegistry := by
    rw [show w1.rt = _ from h1]
    intro name ep hep
    exact absurd hep (by simp [blankRuntime])
  have hkeyed := loadRootEntities_keyed hblank hload
  have hregistry : (booted env config files cells rootCid cliOwners).rt.entityRegistry =
      w2.rt.entityRegistry.insert schedulerFragment nativeScheduler := by
    unfold booted
    rw [hrun]
    exact h3.entityRegistry
  rw [hregistry]
  exact ⟨Std.ExtTreeMap.getElem?_insert_self, hkeyed.insert rfl⟩

end Startup

/-- **The scheduler stays**: from startup on, in every state that sparing turns reach. -/
theorem scheduler_stays {env : Env} {config : Config} {files : StrMap (Except Error Config)}
    {cells : Nat → PluginCell} {rootCid : Option Cid} {cliOwners : List String} {turns : List Turn}
    {w : World}
    (hrun : Run (SparingTurn env) (booted env config files cells rootCid cliOwners) turns w) :
    w.rt.entityRegistry[schedulerFragment]? = some nativeScheduler := by
  have hstart := @booted_schedulerIn env config files cells rootCid cliOwners
  have hkept := Run.invariant (I := fun w => SchedulerIn w.rt.entityRegistry)
    (fun h hs => SparingTurn.schedulerIn h hs) hstart hrun
  exact hkept.native

/-- The tables of an empty manifest. -/
def bareTables : Tables where
  manifests := [("bafyroot", {})]

/-- The daemon with the owner. -/
def bareStart : World := started bareTables.env (some "bafyroot") ["did:ma:alice"]

set_option maxRecDepth 100000

/-- Deletes of other names leave it. -/
theorem scheduler_stays_rose :
    (crudTurn bareTables.env (deleteMessage "rose") [] bareStart).2.rt.entityRegistry[
      schedulerFragment]? = some nativeScheduler := by
  have hother : ¬ AsksDelete bareTables.env (deleteMessage "rose") schedulerFragment := by
    unfold AsksDelete
    decide +kernel
  have hturn : SparingTurn bareTables.env bareStart (.crud (deleteMessage "rose")) _ :=
    ⟨fun h => hother h.1, rfl⟩
  exact scheduler_stays (.cons hturn (.nil _))

/-- **The owner deletes the scheduler**, and it is gone. -/
theorem owner_deletes_scheduler :
    bareStart.rt.entityRegistry[schedulerFragment]? = some nativeScheduler ∧
      (crudTurn bareTables.env (deleteMessage "scheduler") [] bareStart).1 = .ok () ∧
      (crudTurn bareTables.env (deleteMessage "scheduler") [] bareStart).2.rt.entityRegistry[
        schedulerFragment]? = none := by
  decide +kernel

end MaRuntime
