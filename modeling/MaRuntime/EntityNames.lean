import MaRuntime.CrudDelete
import MaRuntime.KindMirror
import MaRuntime.UpsertTruth

/-!
# The entity names of the status page (`src/status.rs`)

`stats.entity_names` is a copy of the keys of the registry. A manifest write refreshes it: before
the registry grows, in an upsert, and after it shrinks, in a delete. Plugins change the registry
without one.

* `NamesCurrent`: the copy has the keys of the registry, as a set.
* `namesCurrent_step_iff`: a turn keeps it current, iff it registers no new name by an upsert,
  gets through with every delete and grants no deletion to a plugin.
* **`current_runs_iff`**: the runs with a current copy are those whose turns keep to that.
* `upsert_not_shown`: a new entity is not listed.
-/

namespace MaRuntime

open Lib (Cbor Proc Run)

/-- What the status page and `status.json` list. -/
def shownEntityNames (stats : Stats) : List String := stats.entityNames

/-- **The listed names are current**: they are the keys of the registry. -/
def NamesCurrent (rt : Runtime) : Prop :=
  ∀ name, name ∈ shownEntityNames rt.stats ↔ name ∈ rt.entityRegistry

/-- What keeps the names current over a CRUD message: a delete of a registered entity gets its
manifest written, and the plugin of an upsert goes under a name that is registered already. -/
structure KeepsCrudNames (env : Env) (message : Message) (w : World) : Prop where
  delete : ∀ name, AsksDelete env message name → Privileged env w.rt message.from →
    name ∈ w.rt.entityRegistry → Rewritable env (withoutEntity name) w
  upsert : ∀ name path cid node w1,
    crudRequest env message = some ("entities", [name], .put [.text path]) →
      Reaches env message name path w cid node w1 → PluginLoads env name node w1 →
        name ∈ w.rt.entityRegistry

/-- What keeps the names current over a turn: of a plugin's deletion requests none is granted. -/
def KeepsNames (env : Env) (w : World) : Turn → Prop
  | .crud message => KeepsCrudNames env message w
  | .rpc message => ∀ entity result w', RpcResult env message w entity result w' →
    ∀ target ∈ result.deleteRequests, mayDelete entity w.rt.entityRegistry target = false
  | _ => True

/-- A turn that leaves the names current. -/
def CurrentStep (env : Env) (w : World) (t : Turn) (w' : World) : Prop :=
  Step env w t w' ∧ NamesCurrent w'.rt

/-- A turn that keeps them current. -/
def KeepingStep (env : Env) (w : World) (t : Turn) (w' : World) : Prop :=
  Step env w t w' ∧ KeepsNames env w t

section Names

variable {env : Env} {w : World}

theorem namesCurrent_of_same {rt rt' : Runtime} (h : NamesCurrent rt)
    (hnames : rt'.stats.entityNames = rt.stats.entityNames)
    (hregistry : rt'.entityRegistry = rt.entityRegistry) : NamesCurrent rt' := by
  unfold NamesCurrent shownEntityNames
  rw [hnames, hregistry]
  exact h

/-- Names that were the keys of a registry are those of another, iff the keys are the same. -/
theorem namesCurrent_iff {rt rt' : Runtime} (h : NamesCurrent rt)
    (hnames : rt'.stats.entityNames = rt.stats.entityNames) :
    NamesCurrent rt' ↔ ∀ name, name ∈ rt'.entityRegistry ↔ name ∈ rt.entityRegistry := by
  unfold NamesCurrent shownEntityNames
  rw [hnames]
  exact forall_congr' fun name => ⟨fun hname => hname.symm.trans (h name),
    fun hname => (h name).trans hname.symm⟩

/-- **A manifest write refreshes the names.** -/
theorem ManifestWrite.namesCurrent {f : RuntimeManifest → RuntimeManifest} {rt rt' : Runtime}
    {newCid : Cid} (h : ManifestWrite env f rt newCid rt') : NamesCurrent rt' := by
  obtain ⟨-, -, -⟩ := h
  exact fun name => Std.ExtTreeMap.mem_keys

/-- Names that are current stay so when an entity goes, iff it was not registered. -/
theorem namesCurrent_erase_iff {rt rt' : Runtime} {name : String} (h : NamesCurrent rt)
    (hnames : rt'.stats.entityNames = rt.stats.entityNames)
    (hregistry : rt'.entityRegistry = rt.entityRegistry.erase name) :
    NamesCurrent rt' ↔ name ∉ rt.entityRegistry := by
  rw [namesCurrent_iff h hnames, hregistry]
  constructor
  · intro hkeys hmem
    exact absurd ((hkeys name).mpr hmem) (by simp)
  · intro hgone other
    rw [mem_erase_iff]
    exact ⟨And.right, fun hmem => ⟨fun heq => hgone (heq ▸ hmem), hmem⟩⟩

/-- They stay so when an entity comes, iff it was registered. -/
theorem namesCurrent_insert_iff {rt rt' : Runtime} {name : String} {ep : EntityPlugin}
    (h : NamesCurrent rt) (hnames : rt'.stats.entityNames = rt.stats.entityNames)
    (hregistry : rt'.entityRegistry = rt.entityRegistry.insert name ep) :
    NamesCurrent rt' ↔ name ∈ rt.entityRegistry := by
  rw [namesCurrent_iff h hnames, hregistry]
  constructor
  · intro hkeys
    exact (hkeys name).mp (by simp)
  · intro hmem other
    rw [mem_insert_iff]
    exact ⟨fun hor => hor.elim (fun heq => heq ▸ hmem) id, .inr⟩

/-! ## CRUD messages -/

/-- **A delete keeps the names current**, unless it takes an entity out of the registry and Kubo
keeps it in the manifest. -/
theorem delete_namesCurrent_iff {message : Message} {name : String} (h : NamesCurrent w.rt)
    (hasks : AsksDelete env message name) :
    NamesCurrent (crudTurn env message [] w).2.rt ↔
      (Privileged env w.rt message.from → name ∈ w.rt.entityRegistry →
        Rewritable env (withoutEntity name) w) := by
  rcases deleteTurn_cases (w := w) hasks with
    ⟨hpriv, hrt⟩ | ⟨hpriv, ⟨hkubo, newCid, hw⟩ | ⟨hkubo, hrt⟩⟩
  · rw [hrt]
    exact iff_of_true h fun hpriv' => absurd hpriv' hpriv
  · exact iff_of_true hw.namesCurrent fun _ _ => hkubo
  · rw [namesCurrent_erase_iff h (by rw [hrt]) (by rw [hrt])]
    exact ⟨fun hgone _ hmem => absurd hmem hgone, fun hkept hmem => hkubo (hkept hpriv hmem)⟩

/-- **An upsert keeps the names current**, unless it registers a new one: the names were taken
before. -/
theorem upsert_namesCurrent_iff {message : Message} {name path : String} (h : NamesCurrent w.rt)
    (hreq : crudRequest env message = some ("entities", [name], .put [.text path])) :
    NamesCurrent (crudTurn env message [] w).2.rt ↔
      ∀ cid node w1, Reaches env message name path w cid node w1 → PluginLoads env name node w1 →
        name ∈ w.rt.entityRegistry := by
  by_cases hreach : ∃ cid node w1, Reaches env message name path w cid node w1
  · obtain ⟨cid, node, w1, hreach⟩ := hreach
    have honly : (∀ cid node w1, Reaches env message name path w cid node w1 →
        PluginLoads env name node w1 → name ∈ w.rt.entityRegistry) ↔
          (PluginLoads env name node w1 → name ∈ w.rt.entityRegistry) := by
      refine ⟨fun h => h cid node w1 hreach, fun h cid' node' w1' hreach' => ?_⟩
      have hlink := hreach.link.symm.trans hreach'.link
      obtain ⟨⟨-, rfl⟩, rfl⟩ : (cid = cid' ∧ node = node') ∧ w1 = w1' := by simpa using hlink
      exact h
    obtain ⟨-, -, -, newCid, hw⟩ := (linkEntity_sat name path).of_run hreach.link
    have hcurrent : NamesCurrent w1.rt := hw.namesCurrent
    obtain ⟨hregistry, hstats, hplugin⟩ := hreach.registry hreq
    have hnames := congrArg Stats.entityNames hstats
    rw [honly]
    rcases hplugin with ⟨hnone, hkept⟩ | ⟨ep, hsome, hinsert⟩
    · exact iff_of_true (namesCurrent_of_same hcurrent hnames hkept) fun hloads =>
        absurd hloads hnone
    · rw [namesCurrent_insert_iff hcurrent hnames hinsert, hregistry]
      exact (imp_iff_right (pluginToRegister_some_iff.mp ⟨ep, hsome⟩)).symm
  · refine iff_of_true ?_ fun cid node w1 h1 => absurd ⟨cid, node, w1, h1⟩ hreach
    rwa [unreached_idle hreq hreach]

/-- Every other request keeps them current. -/
theorem CrudEffect.namesCurrent {sender : String} {req : CrudRequest} {rt rt' : Runtime}
    (heff : CrudEffect env sender req rt rt') (h : NamesCurrent rt)
    (hdelete : ∀ name, req ≠ ("entities", [name], .put []))
    (hupsert : ∀ name path, req ≠ ("entities", [name], .put [.text path])) :
    NamesCurrent rt' := by
  cases heff with
  | idle => exact h
  | configDelete hw => exact hw.namesCurrent
  | configSet hkey hw => exact hw.namesCurrent
  | daemonSet hkey => exact h
  | aclSet hdoc hw => exact hw.namesCurrent
  | aclsSet hw hcache => exact hw.namesCurrent
  | aclsDelete hw => exact hw.namesCurrent
  | kindSet hw => exact hw.namesCurrent
  | kindDelete hw => exact hw.namesCurrent
  | entityDelete hcap hw => exact absurd rfl (hdelete _)
  | entityDeleteCut hcap => exact absurd rfl (hdelete _)
  | entityUpsert hcid hnode hname hcap hw hreg => exact absurd rfl (hupsert _ _)
  | entityAcl hargs hroot hold hlink hnode hcid hw => exact hw.namesCurrent

theorem crudTurn_namesCurrent_iff {message : Message} (h : NamesCurrent w.rt) :
    NamesCurrent (crudTurn env message [] w).2.rt ↔ KeepsCrudNames env message w := by
  by_cases hdelete : ∃ name, AsksDelete env message name
  · obtain ⟨name, hasks⟩ := hdelete
    rw [delete_namesCurrent_iff h hasks]
    constructor
    · refine fun hkept => ⟨fun other hasks' => ?_, fun other path cid node w1 hreq => ?_⟩
      · obtain rfl : name = other := by simpa using hasks.symm.trans hasks'
        exact hkept
      · exact absurd (hasks.symm.trans hreq) (by simp)
    · exact fun hkeeps => hkeeps.delete name hasks
  · by_cases hupsert : ∃ name path,
        crudRequest env message = some ("entities", [name], .put [.text path])
    · obtain ⟨name, path, hreq⟩ := hupsert
      rw [upsert_namesCurrent_iff h hreq]
      constructor
      · refine fun hkept => ⟨fun other hasks => absurd ⟨other, hasks⟩ hdelete,
          fun other path' cid node w1 hreq' => ?_⟩
        obtain ⟨rfl, rfl⟩ : name = other ∧ path = path' := by simpa using hreq.symm.trans hreq'
        exact hkept cid node w1
      · exact fun hkeeps cid node w1 => hkeeps.upsert name path cid node w1 hreq
    · refine iff_of_true ?_ ⟨fun name hasks => absurd ⟨name, hasks⟩ hdelete,
        fun name path cid node w1 hreq => absurd ⟨name, path, hreq⟩ hupsert⟩
      cases (crudTurn_effect env message w).2 with
      | idle heq => rwa [heq]
      | request hreq hgate heff =>
        exact heff.namesCurrent h (fun name heq => hdelete ⟨name, hreq.trans (congrArg some heq)⟩)
          fun name path heq => hupsert ⟨name, path, hreq.trans (congrArg some heq)⟩

/-! ## RPC messages -/

/-- The deletion requests of a dispatch leave the keys, iff none is granted. -/
theorem foldl_afterDelete_keys_iff {entity : EntityPlugin} :
    ∀ {targets : List String} {registry : StrMap EntityPlugin},
      (∀ name, name ∈ targets.foldl (afterDelete entity) registry ↔ name ∈ registry) ↔
        ∀ target ∈ targets, mayDelete entity registry target = false
  | [], registry => by simp
  | target :: targets, registry => by
    rw [List.foldl_cons, List.forall_mem_cons]
    cases hmay : mayDelete entity registry target with
    | false =>
      have hkept : afterDelete entity registry target = registry := by simp [afterDelete, hmay]
      rw [hkept, foldl_afterDelete_keys_iff]
      exact (and_iff_right rfl).symm
    | true =>
      have herased : afterDelete entity registry target = registry.erase target := by
        simp [afterDelete, hmay]
      have hmem : target ∈ registry := by
        rw [Std.ExtTreeMap.mem_iff_isSome_getElem?]
        by_contra hnone
        rw [Option.not_isSome_iff_eq_none] at hnone
        exact absurd hmay (by simp [mayDelete, hnone])
      rw [herased]
      refine iff_of_false (fun hkeys => ?_) fun h => absurd h.1 (by simp)
      exact foldl_afterDelete_not_mem targets (by simp) ((hkeys target).mpr hmem)

/-- **Where no kind is known, a dispatch creates nothing**: of its requests the deletions are
left. -/
theorem RpcResult.run_unknown {message : Message} {entity : EntityPlugin} {result : DispatchResult}
    {w' : World} (hresult : RpcResult env message w entity result w')
    (hkinds : w.rt.kindRegistry = ∅) :
    rpcTurn env message [] w =
      (.ok (), { w' with rt := { w'.rt with
        entityRegistry :=
          result.deleteRequests.foldl (afterDelete entity) w.rt.entityRegistry } }) := by
  have hcells := hresult.cellsOnly
  have hregistry : w'.rt.entityRegistry = w.rt.entityRegistry := hcells.entityRegistry
  have hunknown (protocol : String) : w'.rt.kindRegistry[protocol]? = none := by
    have hsame : w'.rt.kindRegistry = w.rt.kindRegistry := hcells.pluginsOnly.sameKinds
    rw [hsame, hkinds]
    exact Std.ExtTreeMap.getElem?_empty
  have hcreates := @createRequests_unknown env entity rpcGuards rfl _ hunknown
    result.createRequests
  rw [← hregistry]
  exact hresult.run.trans ((Proc.bind_of_ok hcreates).trans (deleteRequests_run _ _ _))

/-- **An RPC message keeps the names current**, iff no deletion request of its plugin is granted:
no entity is created, as no kind is known. -/
theorem rpcTurn_namesCurrent_iff {message : Message} (h : NamesCurrent w.rt)
    (hkinds : w.rt.kindRegistry = ∅) :
    NamesCurrent (rpcTurn env message [] w).2.rt ↔ KeepsNames env w (.rpc message) := by
  have granted {entity : EntityPlugin} {result : DispatchResult} {w' : World}
      (hresult : RpcResult env message w entity result w') :
      NamesCurrent (rpcTurn env message [] w).2.rt ↔
        ∀ target ∈ result.deleteRequests, mayDelete entity w.rt.entityRegistry target = false := by
    have hnames : w'.rt.stats.entityNames = w.rt.stats.entityNames :=
      (congrArg Stats.entityNames hresult.cellsOnly.stats).trans rfl
    rw [hresult.run_unknown hkinds]
    refine (namesCurrent_iff h ?_).trans ?_
    · exact hnames
    · exact foldl_afterDelete_keys_iff
  by_cases hresult : ∃ entity result w', RpcResult env message w entity result w'
  · constructor
    · exact fun hcurrent entity result w' hresult' => (granted hresult').mp hcurrent
    · obtain ⟨entity, result, w', hresult⟩ := hresult
      exact fun hkeeps => (granted hresult).mpr (hkeeps entity result w' hresult)
  · obtain ⟨-, hcells⟩ := (rpcTurn_cases env message w).resolve_left hresult
    have hnames : (rpcTurn env message [] w).2.rt.stats.entityNames = w.rt.stats.entityNames :=
      (congrArg Stats.entityNames hcells.stats).trans rfl
    refine iff_of_true (namesCurrent_of_same h hnames hcells.entityRegistry) ?_
    exact fun entity result w' hresult' => absurd ⟨entity, result, w', hresult'⟩ hresult

/-! ## Runs -/

/-- **A turn keeps the names current, iff** it keeps to `KeepsNames`. -/
theorem namesCurrent_step_iff {w' : World} {t : Turn} (h : NamesCurrent w.rt)
    (hkinds : w.rt.kindRegistry = ∅) (hstep : Step env w t w') :
    NamesCurrent w'.rt ↔ KeepsNames env w t := by
  obtain ⟨-⟩ := hstep
  cases t with
  | crud message => exact crudTurn_namesCurrent_iff h
  | rpc message => exact rpcTurn_namesCurrent_iff h hkinds
  | ipfs message =>
    refine iff_of_true ?_ trivial
    show NamesCurrent (ipfsTurn env message [] w).2.rt
    rw [ipfsTurn_counted]
    exact h
  | claim owner => exact iff_of_true (claimTurn_cases h fun _ _ => h) trivial

/-- The daemon starts with current names. -/
theorem booted_namesCurrent (env : Env) (config : Config) (files : StrMap (Except Error Config))
    (cells : Nat → PluginCell) (rootCid : Option Cid) (cliOwners : List String) :
    NamesCurrent (booted env config files cells rootCid cliOwners).rt := by
  obtain ⟨root, w1, w2, w3, -, -, -, hrun⟩ :=
    startup_run env rootCid cliOwners ⟨blankRuntime config files cells, {}⟩
  unfold booted
  rw [hrun]
  exact fun name => Std.ExtTreeMap.mem_keys

/-- **The names are current after each turn, iff each turn keeps them so.** -/
theorem current_runs_iff {config : Config} {files : StrMap (Except Error Config)}
    {cells : Nat → PluginCell} {rootCid : Option Cid} {cliOwners : List String} {ts : List Turn} :
    Run (CurrentStep env) (booted env config files cells rootCid cliOwners) ts w ↔
      Run (KeepingStep env) (booted env config files cells rootCid cliOwners) ts w := by
  have hstart := booted_namesCurrent env config files cells rootCid cliOwners
  have hkinds : (booted env config files cells rootCid cliOwners).rt.kindRegistry = ∅ :=
    (@calm_startup env rootCid cliOwners).keeps [] _
  have kinds {w w' : World} {t : Turn} (h : w.rt.kindRegistry = ∅) (hstep : Step env w t w') :
      w'.rt.kindRegistry = ∅ := kindRegistry_run (.cons hstep (.nil _)) h
  let I (w : World) : Prop := NamesCurrent w.rt ∧ w.rt.kindRegistry = ∅
  constructor
  · refine Run.along (I := I) (fun {w t w'} hI hstep => ?_) ⟨hstart, hkinds⟩
    exact ⟨⟨hstep.2, kinds hI.2 hstep.1⟩, hstep.1,
      (namesCurrent_step_iff hI.1 hI.2 hstep.1).mp hstep.2⟩
  · refine Run.along (I := I) (fun {w t w'} hI hstep => ?_) ⟨hstart, hkinds⟩
    have hcurrent := (namesCurrent_step_iff hI.1 hI.2 hstep.1).mpr hstep.2
    exact ⟨⟨hcurrent, kinds hI.2 hstep.1⟩, hstep.1, hcurrent⟩

end Names

/-! ## A second leaf -/

set_option maxRecDepth 100000

/-- **A new entity is not listed**: the upsert registers it after the names were taken. -/
theorem upsert_not_shown :
    NamesCurrent leafStart.rt ∧
      Run (Step leafEnv) leafStart [.crud plantTwin] twinPlanted ∧
      twinPlanted.io.kuboFailed = false ∧ "twin" ∈ twinPlanted.rt.entityRegistry ∧
      "twin" ∉ shownEntityNames twinPlanted.rt.stats ∧
      ¬ Run (CurrentStep leafEnv) leafStart [.crud plantTwin] twinPlanted := by
  have hnew : "twin" ∈ twinPlanted.rt.entityRegistry := by decide +kernel
  have hhidden : "twin" ∉ shownEntityNames twinPlanted.rt.stats := by decide +kernel
  refine ⟨booted_namesCurrent _ _ _ _ _ _, .cons (.turn (by decide +kernel)) (.nil _),
    by decide +kernel, hnew, hhidden, fun hrun => ?_⟩
  obtain _ | ⟨⟨-, hcurrent⟩, hrest⟩ := hrun
  cases hrest
  exact hhidden ((hcurrent "twin").mpr hnew)

/-- What a plugin deleted still is. -/
example : "leaf" ∈ shownEntityNames leafDropped.rt.stats ∧
    "leaf" ∉ leafDropped.rt.entityRegistry := by decide +kernel

end MaRuntime
