import MaRuntime.EntitySync
import MaRuntime.Ownership
import MaRuntime.Startup

/-!
# The owners across a restart

A running daemon takes its owners over from the manifest after each write. Startup takes them from
the config and the command line (`resolvedOwners`), and does not look at the manifest's list.

* `HoldsOwners`: memory and manifest name the same list. A SET of `config.owners` gets there
  (`crudTurn_setOwners`), and every turn that leaves the owners alone stays there.
* `booted_owners`: what startup makes the owners.
* **`owners_restart_iff`**: a restart after a SET accepts the same callers, iff the written list and
  the list of the config and the command line are the same set of principals.
-/

namespace MaRuntime

open Lib (Cbor Proc Run)

/-! ## The running daemon -/

/-- Memory and the manifest at the root name these owners. -/
def HoldsOwners (env : Env) (owners : List String) (rt : Runtime) : Prop :=
  rt.stats.owners = owners ∧ ∃ m, AtRoot env rt m ∧ manifestOwners m = some owners

/-- A turn that does not write the owners: no SET or DELETE of `config.owners`, and no claim of a
daemon that nobody owns. -/
def LeavesOwners (env : Env) (owners : List String) : Turn → Prop
  | .crud message => ∀ args, crudRequest env message ≠ some ("config", ["owners"], .put args)
  | .claim _ => owners ≠ []
  | .rpc _ => True
  | .ipfs _ => True

section Running

variable {env : Env} {owners : List String} {rt rt' : Runtime}

theorem HoldsOwners.congr (h : HoldsOwners env owners rt)
    (howners : rt'.stats.owners = rt.stats.owners) (hroot : rt'.stats.rootCid = rt.stats.rootCid) :
    HoldsOwners env owners rt' := by
  obtain ⟨ho, m, hm, hmanifest⟩ := h
  exact ⟨howners.trans ho, m, (atRoot_congr hroot).mpr hm, hmanifest⟩

theorem HoldsOwners.inSync (h : HoldsOwners env owners rt) : OwnersInSync env rt := by
  obtain ⟨ho, m, hm, hmanifest⟩ := h
  exact ownersInSync_of_root hm (.inr (by rw [hmanifest, ho]))

/-- A write that leaves the manifest's owner list alone. -/
theorem HoldsOwners.written {f : RuntimeManifest → RuntimeManifest} {newCid : Cid}
    (h : HoldsOwners env owners rt) (hw : ManifestWrite env f rt newCid rt')
    (hf : ∀ m, (f m).config["owners"]? = m.config["owners"]?) : HoldsOwners env owners rt' := by
  have howners := hw.owners_eq h.inSync hf
  obtain ⟨ho, m, hm, hmanifest⟩ := h
  obtain ⟨m0, hm0, hm'⟩ := hw.atRoot
  obtain rfl := hm.eq hm0
  exact ⟨howners.trans ho, f m, hm', (manifestOwners_congr (hf m)).trans hmanifest⟩

/-- **A request for anything else leaves both lists alone.** -/
theorem CrudEffect.holdsOwners {sender : String} {req : CrudRequest}
    (h : CrudEffect env sender req rt rt')
    (hreq : ∀ args, req ≠ ("config", ["owners"], .put args)) (hold : HoldsOwners env owners rt) :
    HoldsOwners env owners rt' := by
  have hkey {key : String} {args : List Cbor} (heq : req = ("config", [key], .put args)) :
      key ≠ "owners" := by
    rintro rfl
    exact hreq args heq
  cases h with
  | idle => exact hold
  | @configDelete _ _ key _ hw =>
    exact hold.written hw fun m => by
      rw [getElem?_erase_of_ne (hkey rfl).symm]
  | @configSet _ _ key _ _ _ hw =>
    exact hold.written hw fun m => by
      rw [getElem?_insert_of_ne (hkey rfl).symm]
  | daemonSet _ => exact hold.congr rfl rfl
  | aclSet _ hw => exact (hold.written hw fun _ => rfl).congr rfl rfl
  | aclsSet hw _ => exact (hold.written hw fun _ => rfl).congr rfl rfl
  | aclsDelete hw => exact (hold.written hw fun _ => rfl).congr rfl rfl
  | kindSet hw => exact hold.written hw fun _ => rfl
  | kindDelete hw => exact hold.written hw fun _ => rfl
  | @entityDelete _ _ name _ _ hw =>
    have h1 : HoldsOwners env owners { rt with entityRegistry := rt.entityRegistry.erase name } :=
      hold.congr rfl rfl
    exact h1.written hw fun _ => rfl
  | entityDeleteCut _ => exact hold.congr rfl rfl
  | entityUpsert _ _ _ _ hw hreg =>
    have h1 := hold.written hw fun _ => rfl
    cases hreg with
    | skipped => exact h1.congr rfl rfl
    | loaded _ _ _ => exact h1.congr rfl rfl
  | entityAcl _ _ _ _ _ _ hw => exact hold.written hw fun _ => rfl

/-- One turn that leaves the owners alone. -/
theorem holdsOwners_step {w w' : World} {t : Turn} (hstep : Step env w t w')
    (ht : LeavesOwners env owners t) (h : HoldsOwners env owners w.rt) :
    HoldsOwners env owners w'.rt := by
  obtain ⟨-⟩ := hstep
  cases t with
  | crud message =>
    obtain ⟨-, heff⟩ := crudTurn_effect env message w
    show HoldsOwners env owners (crudTurn env message [] w).2.rt
    cases heff with
    | idle hidle =>
      rw [hidle]
      exact h
    | @request req hreq _ heff => exact heff.holdsOwners (fun args heq => ht args (heq ▸ hreq)) h
  | rpc message =>
    have hrt : (rpcTurn env message [] w).2.rt = _ := rpcTurn_pluginsOnly env message w
    show HoldsOwners env owners (rpcTurn env message [] w).2.rt
    rw [hrt]
    exact h.congr rfl rfl
  | ipfs message =>
    show HoldsOwners env owners (ipfsTurn env message [] w).2.rt
    rw [ipfsTurn_counted]
    exact h.congr rfl rfl
  | claim owner => exact claimTurn_cases h fun _ hnone => absurd (h.1.symm.trans hnone) ht

theorem holdsOwners_run {w w' : World} {ts : List Turn} (hrun : Run (Step env) w ts w')
    (hts : ∀ t ∈ ts, LeavesOwners env owners t) (h : HoldsOwners env owners w.rt) :
    HoldsOwners env owners w'.rt := by
  induction hrun with
  | nil w => exact h
  | cons hstep _ ih =>
    exact ih (fun t ht => hts t (List.mem_cons_of_mem _ ht))
      (holdsOwners_step hstep (hts _ List.mem_cons_self) h)

theorem cborToYamlItems_texts : ∀ owners : List String,
    cborToYamlItems (owners.map .text) = owners.map .string
  | [] => rfl
  | _ :: owners => congrArg (_ :: ·) (cborToYamlItems_texts owners)

/-- A written owner list is taken over into memory. -/
theorem ManifestWrite.setOwners {newCid : Cid} (hw : ManifestWrite env
      (fun m => { m with
        config := m.config.insert "owners"
          ((cborToYaml (.array (owners.map .text))).viaJson env.readFloat) })
      rt newCid rt') :
    HoldsOwners env owners rt' := by
  have howners (m : RuntimeManifest) : manifestOwners { m with
      config := m.config.insert "owners"
        ((cborToYaml (.array (owners.map .text))).viaJson env.readFloat) } = some owners := by
    rw [manifestOwners_insert_viaJson, cborToYaml, cborToYamlItems_texts]
    exact congrArg some (Yaml.filterMap_asStr_strings owners)
  obtain ⟨m, -, hm'⟩ := hw.atRoot
  refine ⟨?_, _, hm', howners m⟩
  cases hw
  show (manifestOwners _).getD _ = owners
  rw [howners]
  rfl

/-- **A SET of `config.owners` that succeeded holds the list.** -/
theorem crudTurn_setOwners {message : Message} {w w' : World}
    (hreq : crudRequest env message =
      some ("config", ["owners"], .put [.array (owners.map .text)]))
    (hset : crudTurn env message [] w = (.ok (), w')) : HoldsOwners env owners w'.rt := by
  have hprotected : isProtectedConfigKey "owners" = false := by decide +kernel
  have hdaemon : daemonConfigKeys.contains "owners" = false := by decide
  have hmanifest : manifestConfigKeys.contains "owners" = true := by decide
  have hsat : (handleConfigNs env message ["owners"] (.put [.array (owners.map .text)])).Sat [] w
      fun o w' => o = .ok () → HoldsOwners env owners w'.rt := by
    unfold handleConfigNs handleConfigNsWith
    simp only [hprotected, hdaemon, hmanifest, Bool.false_eq_true, if_false, Bool.not_true]
    refine withManifestCrud_bind (fun e w1 _ ho => by simp at ho) fun newCid w1 hw => ?_
    refine (calm_sendCrudReply _ _).sat fun o w2 _ h2 _ => ?_
    rw [show w2.rt = w1.rt from h2]
    exact hw.setOwners
  exact hsat.of_run (crudTurn_ok hreq hset) rfl

end Running

/-! ## Startup -/

/-- **What startup makes the owners**: those of the config and the command line. -/
theorem booted_owners (env : Env) (config : Config) (files : StrMap (Except Error Config))
    (cells : Nat → PluginCell) (rootCid : Option Cid) (cliOwners : List String) :
    (booted env config files cells rootCid cliOwners).rt.stats.owners =
      resolvedOwners config cliOwners := by
  obtain ⟨root, w1, w2, w3, ⟨-, h1⟩, ⟨-, h2⟩, ⟨-, h3⟩, hrun⟩ :=
    startup_run env rootCid cliOwners ⟨blankRuntime config files cells, {}⟩
  have hconfig : w3.rt.sharedConfig = config := by
    rw [show w3.rt = _ from h3]
    show w2.rt.sharedConfig = config
    rw [show w2.rt = _ from h2]
    show w1.rt.sharedConfig = config
    rw [show w1.rt = _ from h1]
    rfl
  unfold booted
  rw [hrun]
  show resolvedOwners w3.rt.sharedConfig cliOwners = _
  rw [hconfig]

/-- Two owner lists accept the same callers iff they name the same principals. -/
theorem isOwner_eq_iff (core : MaCore) (owners owners' : List String) :
    (∀ caller, isOwner core owners' caller = isOwner core owners caller) ↔
      ∀ p, p ∈ owners.map core.normalizePrincipal ↔ p ∈ owners'.map core.normalizePrincipal := by
  have hmem (l : List String) (caller : String) : isOwner core l caller = true ↔
      core.normalizePrincipal caller ∈ l.map core.normalizePrincipal := by
    unfold isOwner
    rw [List.any_eq_true, List.mem_map]
    simp only [decide_eq_true_eq]
  constructor
  · intro h p
    have hiff (caller : String) :
        core.normalizePrincipal caller ∈ owners.map core.normalizePrincipal ↔
        core.normalizePrincipal caller ∈ owners'.map core.normalizePrincipal := by
      rw [← hmem, ← hmem, h caller]
    constructor
    · intro hp
      obtain ⟨o, -, rfl⟩ := List.mem_map.mp hp
      exact (hiff o).mp hp
    · intro hp
      obtain ⟨o, -, rfl⟩ := List.mem_map.mp hp
      exact (hiff o).mpr hp
  · intro h caller
    rw [Bool.eq_iff_iff, hmem, hmem, h]

/-! ## The restart -/

/-- **The owners survive a restart iff the config and the command line name the written ones.** The
environment after the restart answers as it likes, but normalises principals as before. -/
theorem owners_restart_iff {env env' : Env} {message : Message} {owners : List String}
    {w0 w1 w2 : World} {ts : List Turn} {config : Config} {files : StrMap (Except Error Config)}
    {cells : Nat → PluginCell} {cliOwners : List String} (hcore : env'.core = env.core)
    (hreq : crudRequest env message =
      some ("config", ["owners"], .put [.array (owners.map .text)]))
    (hset : crudTurn env message [] w0 = (.ok (), w1)) (hrun : Run (Step env) w1 ts w2)
    (hts : ∀ t ∈ ts, LeavesOwners env owners t) :
    (∀ caller, isOwner env'.core (booted env' config files cells
        (shutdown env [] w2).2.rt.stats.rootCid cliOwners).rt.stats.owners caller =
      isOwner env.core w2.rt.stats.owners caller) ↔
      ∀ p, p ∈ owners.map env.core.normalizePrincipal ↔
        p ∈ (resolvedOwners config cliOwners).map env.core.normalizePrincipal := by
  have hheld := holdsOwners_run hrun hts (crudTurn_setOwners hreq hset)
  rw [booted_owners, hcore, hheld.1]
  exact isOwner_eq_iff env.core owners _

/-! ## Handing over -/

/-- A manifest that names the owners and nothing else. -/
def ownersManifest (owners : List String) : RuntimeManifest :=
  { config := (∅ : StrMap Yaml).insert "owners" (Yaml.strings owners) }

/-- Kubo with an empty manifest and those of two other owner lists. -/
def handoverTables : Tables where
  manifests :=
    [("bafyroot", {}), ("bafybob", ownersManifest ["did:ma:bob"]),
      ("bafyboth", ownersManifest ["did:ma:bob", "did:ma:alice"])]

/-- The owner writes the list of owners. -/
def setOwners (owners : List String) : Message :=
  crudMessage "did:ma:alice" ":config.owners" (.array (owners.map .text))

/-- The daemon of an owner named on the command line. -/
def handoverStart : World := started handoverTables.env (some "bafyroot") ["did:ma:alice"]

/-- It after the list was written. -/
def handedOver (owners : List String) : World :=
  (crudTurn handoverTables.env (setOwners owners) [] handoverStart).2

set_option maxRecDepth 100000

/-- A list that the command line names too survives. -/
theorem owners_restart_both :
    isOwner tableCore (started handoverTables.env (shutdown handoverTables.env []
        (handedOver ["did:ma:bob", "did:ma:alice"])).2.rt.stats.rootCid
        ["did:ma:alice", "did:ma:bob"]).rt.stats.owners =
      isOwner tableCore (handedOver ["did:ma:bob", "did:ma:alice"]).rt.stats.owners := by
  have hset := Proc.run_of_outcome (p := crudTurn handoverTables.env
    (setOwners ["did:ma:bob", "did:ma:alice"])) (g := []) (s := handoverStart) (o := .ok ())
    (by decide +kernel)
  have hreq : crudRequest handoverTables.env (setOwners ["did:ma:bob", "did:ma:alice"]) =
      some ("config", ["owners"], .put [.array (["did:ma:bob", "did:ma:alice"].map .text)]) := by
    decide +kernel
  have hcli : resolvedOwners plainConfig ["did:ma:alice", "did:ma:bob"] =
      ["did:ma:alice", "did:ma:bob"] := by decide +kernel
  refine funext ((@owners_restart_iff handoverTables.env handoverTables.env _ _ _ _ _ [] plainConfig
    ∅ (fun _ => emptyCell) ["did:ma:alice", "did:ma:bob"] rfl hreq hset (.nil _) (by simp)).mpr
    fun p => ?_)
  rw [hcli]
  simp only [List.map_cons, List.map_nil, List.mem_cons, List.not_mem_nil, or_false]
  exact or_comm

/-- **A removed owner comes back and an added one is lost.** -/
theorem removed_owner_returns :
    (crudTurn handoverTables.env (setOwners ["did:ma:bob"]) [] handoverStart).1 = .ok () ∧
      (shutdown handoverTables.env [] (handedOver ["did:ma:bob"])).2.rt.stats.rootCid =
        some "bafybob" ∧
      (isOwner tableCore (handedOver ["did:ma:bob"]).rt.stats.owners "did:ma:alice" = false ∧
        isOwner tableCore (handedOver ["did:ma:bob"]).rt.stats.owners "did:ma:bob" = true) ∧
      isOwner tableCore
        (started handoverTables.env (some "bafybob") ["did:ma:alice"]).rt.stats.owners
        "did:ma:alice" = true ∧
      isOwner tableCore
        (started handoverTables.env (some "bafybob") ["did:ma:alice"]).rt.stats.owners
        "did:ma:bob" = false :=
  ⟨by decide +kernel, by decide +kernel, ⟨by decide +kernel, by decide +kernel⟩, by decide +kernel,
    by decide +kernel⟩

end MaRuntime
