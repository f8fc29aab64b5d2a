import MaRuntime.Crud.Effect
import MaRuntime.KindTree
import MaRuntime.FiniteEnv
import MaRuntime.Lib.Run

/-!
# The kind registry

`KindMirror` is what the kind registry is for: it holds exactly the protocols that the manifest
binds, each with its node. Nothing ever writes the registry, so it is empty in every state of a
daemon, and mirrors just the manifests that bind no protocol.

* `kindRegistry_run`: the registry is empty after every run.
* `kindMirror_runs`: the mirror holds exactly over manifests without kinds, it holds along every
  run that starts from one and upserts no kind, and every create request is skipped.
* `kind_upsert_not_mirrored`: the first upsert breaks it.
-/

namespace MaRuntime

open Lib (Cbor Proc Run)

/-! ## The mirror -/

/-- The registry holds exactly the protocols bound by the manifest at the root. -/
def KindMirror (env : Env) (rt : Runtime) : Prop :=
  ∀ m, AtRoot env rt m → ∀ protocol,
    match m.kinds.getProtocol protocol with
    | none => rt.kindRegistry[protocol]? = none
    | some link => ∃ node, env.kubo.kinds.denotes link.cid = some node ∧
        rt.kindRegistry[protocol]? = some node

/-- The manifest at the root binds no protocol. -/
def BindsNoKind (env : Env) (rt : Runtime) : Prop :=
  ∀ m, AtRoot env rt m → ∀ protocol, m.kinds.getProtocol protocol = none

/-- An empty registry mirrors the manifests without kinds. -/
theorem kindMirror_iff_of_empty {env : Env} {rt : Runtime} (h : rt.kindRegistry = ∅) :
    KindMirror env rt ↔ BindsNoKind env rt := by
  unfold KindMirror BindsNoKind
  constructor
  · intro hmirror m hm protocol
    have hp := hmirror m hm protocol
    cases hk : m.kinds.getProtocol protocol with
    | none => rfl
    | some link =>
      simp only [hk, h, Std.ExtTreeMap.getElem?_empty, reduceCtorEq, and_false,
        exists_false] at hp
  · intro hnone m hm protocol
    rw [hnone m hm protocol, h]
    exact Std.ExtTreeMap.getElem?_empty

/-! ## Nothing writes it -/

section Turns

variable {env : Env}

/-- A request leaves the kind registry alone. -/
theorem CrudEffect.kindRegistry_eq {sender : String} {req : CrudRequest} {rt rt' : Runtime}
    (h : CrudEffect env sender req rt rt') : rt'.kindRegistry = rt.kindRegistry := by
  cases h with
  | idle => rfl
  | configDelete hw => rw [hw.frame]
  | configSet hkey hw => rw [hw.frame]
  | daemonSet hkey => rfl
  | aclSet hdoc hw => rw [hw.frame]
  | aclsSet hw hcache => rw [hw.frame]
  | aclsDelete hw => rw [hw.frame]
  | kindSet hw => rw [hw.frame]
  | kindDelete hw => rw [hw.frame]
  | entityDelete hcap hw => rw [hw.frame]
  | entityDeleteCut hcap => rfl
  | entityUpsert hcid hnode hname hcap hw hreg =>
    cases hreg with
    | skipped => rw [hw.frame]
    | loaded => rw [hw.frame]
  | entityAcl hargs hroot hold hlink hnode hcid hw => rw [hw.frame]

/-- The kind registry is as before. -/
def SameKinds (w w' : World) : Prop := w'.rt.kindRegistry = w.rt.kindRegistry

instance : IsPreorder World SameKinds where
  refl _ := rfl
  trans _ _ _ h h' := Eq.trans h' h

theorem PluginsOnly.sameKinds {w w' : World} (h : PluginsOnly w w') : SameKinds w w' := by
  unfold PluginsOnly at h
  unfold SameKinds
  rw [h]

/-- Startup never gets stuck, and puts nothing into the kind registry. -/
theorem calm_startup (rootCid : Option Cid) (cliOwners : List String) :
    Proc.Calm [] SameKinds (startup env rootCid cliOwners) := by
  have acls {α : Type} {p : M α} (h : Proc.Calm [] AclsOnly p) : Proc.Calm [] SameKinds p :=
    h.mono fun _ _ h => h.kindRegistry
  refine ((calm_initialRoot rootCid).mono fun _ _ h => congrArg Runtime.kindRegistry h).bind
    fun rootCid => ?_
  refine (calm_whenSome (fun rc => ?_) rootCid).bind fun _ => ?_
  · exact ((calm_loadEntities env rfl rc).mono fun _ _ h => h.sameKinds).bind fun _ =>
      Proc.calm_pure _
  refine (calm_writing rfl fun _ => ?_).bind fun _ => ?_
  · rfl
  refine (calm_whenSome (fun rc => acls (calm_loadAcls rc)) rootCid).bind fun _ => ?_
  refine (calm_getRt _).bind fun config => ?_
  refine (acls (calm_seedOwners _)).bind fun _ => ?_
  refine (Proc.Calm.holding rfl (calm_getRt _)).bind fun names => ?_
  exact calm_writing rfl fun _ => rfl

end Turns

/-- **The kind registry is empty in every state of a daemon.** -/
theorem kindRegistry_run {env : Env} {w w' : World} {ts : List Turn}
    (hrun : Run (Step env) w ts w') (h : w.rt.kindRegistry = ∅) : w'.rt.kindRegistry = ∅ := by
  refine hrun.invariant (I := fun w => w.rt.kindRegistry = ∅) (fun {w t w'} h hstep => ?_) h
  obtain ⟨-⟩ := hstep
  by_cases ht : ∃ message, t = .crud message
  · obtain ⟨message, rfl⟩ := ht
    obtain ⟨-, heff⟩ := crudTurn_effect env message w
    cases heff with
    | idle heq => exact heq ▸ h
    | request hreq hgate heff => exact heff.kindRegistry_eq.trans h
  · exact (sameStores_of_turn env w fun message h => ht ⟨message, h⟩).kindRegistry.trans h

/-! ## Kinds in the manifest -/

/-- A manifest write that binds no protocol where there was none. -/
theorem ManifestWrite.bindsNoKind {env : Env} {f : RuntimeManifest → RuntimeManifest}
    {rt rt' : Runtime} {newCid : Cid} (hw : ManifestWrite env f rt newCid rt')
    (hf : ∀ m protocol, m.kinds.getProtocol protocol = none →
      (f m).kinds.getProtocol protocol = none)
    (h : BindsNoKind env rt) : BindsNoKind env rt' := by
  obtain ⟨m, hm, hm'⟩ := hw.atRoot
  intro m' hroot protocol
  obtain rfl := hm'.eq hroot
  exact hf m protocol (h m hm protocol)

/-- The message upserts a kind, past the gate. -/
def UpsertsKind (env : Env) (rt : Runtime) : Turn → Prop
  | .crud message => PassesCrudGate env rt message.from ∧ ∃ protocol cid,
      crudRequest env message = some ("kinds", [], .put [.array [.text protocol, .text cid]])
  | _ => False

theorem CrudEffect.bindsNoKind {env : Env} {sender : String} {req : CrudRequest}
    {rt rt' : Runtime} (heff : CrudEffect env sender req rt rt')
    (hreq : ∀ protocol cid, req ≠ ("kinds", [], .put [.array [.text protocol, .text cid]]))
    (h : BindsNoKind env rt) : BindsNoKind env rt' := by
  cases heff with
  | idle => exact h
  | configDelete hw => exact hw.bindsNoKind (fun _ _ hp => hp) h
  | configSet hkey hw => exact hw.bindsNoKind (fun _ _ hp => hp) h
  | daemonSet hkey => exact h
  | aclSet hdoc hw => exact hw.bindsNoKind (fun _ _ hp => hp) h
  | aclsSet hw hcache => exact hw.bindsNoKind (fun _ _ hp => hp) h
  | aclsDelete hw => exact hw.bindsNoKind (fun _ _ hp => hp) h
  | kindSet hw => exact absurd rfl (hreq _ _)
  | kindDelete hw => exact hw.bindsNoKind (fun _ _ hp => getProtocol_removeProtocol hp) h
  | entityDelete hcap hw => exact hw.bindsNoKind (fun _ _ hp => hp) h
  | entityDeleteCut hcap => exact h
  | entityUpsert hcid hnode hname hcap hw hreg =>
    have h1 := hw.bindsNoKind (fun _ _ hp => hp) h
    cases hreg with
    | skipped => exact h1
    | loaded => exact h1
  | entityAcl hargs hroot hold hlink hnode hcid hw => exact hw.bindsNoKind (fun _ _ hp => hp) h

/-! ## Runs -/

/-- A turn that upserts no kind. -/
def KindlessStep (env : Env) (w : World) (t : Turn) (w' : World) : Prop :=
  ¬ UpsertsKind env w.rt t ∧ Step env w t w'

/-- A run without upserts binds no kind, if its start bound none. -/
theorem bindsNoKind_run {env : Env} {w w' : World} {ts : List Turn}
    (hrun : Run (KindlessStep env) w ts w') (h : BindsNoKind env w.rt) : BindsNoKind env w'.rt := by
  refine hrun.invariant (I := fun w => BindsNoKind env w.rt) (fun {w t w'} h hstep => ?_) h
  obtain ⟨hno, ⟨-⟩⟩ := hstep
  by_cases ht : ∃ message, t = .crud message
  · obtain ⟨message, rfl⟩ := ht
    obtain ⟨-, heff⟩ := crudTurn_effect env message w
    cases heff with
    | idle heq => exact heq ▸ h
    | request hreq hgate heff =>
      exact heff.bindsNoKind (fun p c hr => hno ⟨hgate, p, c, hr ▸ hreq⟩) h
  · have hsame := sameStores_of_turn env w fun message h => ht ⟨message, h⟩
    exact fun m hm => h m ((atRoot_congr hsame.rootCid).mp hm)

/-- **The kind registry mirrors exactly the manifests without kinds**, in every state that the
daemon reaches. It does so all along a run that starts from such a manifest and upserts no kind.
Whatever the manifest binds, every request for a new entity is skipped. -/
theorem kindMirror_runs {env : Env} {config : Config} {files : StrMap (Except Error Config)}
    {cells : Nat → PluginCell} {rootCid : Option Cid} {cliOwners : List String} {w : World}
    {ts : List Turn}
    (hrun : Run (Step env) (booted env config files cells rootCid cliOwners) ts w) :
    (KindMirror env w.rt ↔ BindsNoKind env w.rt) ∧
      (BindsNoKind env (booted env config files cells rootCid cliOwners).rt →
        Run (KindlessStep env) (booted env config files cells rootCid cliOwners) ts w →
        KindMirror env w.rt) ∧
      ∀ entity req, createRequested env entity req [(.rootAcl, .read)] w = (.ok (), w) := by
  have hstart : (booted env config files cells rootCid cliOwners).rt.kindRegistry = ∅ :=
    (@calm_startup env rootCid cliOwners).keeps [] _
  have hempty := kindRegistry_run hrun hstart
  refine ⟨kindMirror_iff_of_empty hempty, fun hnone hkindless => ?_, fun entity req => ?_⟩
  · exact (kindMirror_iff_of_empty hempty).mpr (bindsNoKind_run hkindless hnone)
  · exact createRequested_unknown rfl (by rw [hempty]; exact Std.ExtTreeMap.getElem?_empty)

/-! ## An upsert -/

/-- The manifest with one kind. -/
def kindManifest : RuntimeManifest :=
  { kinds := KindTree.insertProtocol {} "/ma/set/0.0.1" ⟨"bafysetkind"⟩ }

/-- Kubo with an empty manifest, a kind and the manifest that binds it. -/
def kindTables : Tables where
  manifests := [("bafyroot", {}), ("bafywithkind", kindManifest)]
  kinds := [("bafysetkind", { protocol := "/ma/set/0.0.1", api := [], hostFunctions := [] })]

/-- The owner upserts the kind. -/
def upsertKind : Message :=
  crudMessage "did:ma:alice" ":kinds" (.array [.text "/ma/set/0.0.1", .text "bafysetkind"])

/-- The owner deletes the kind. -/
def deleteKind : Message :=
  crudMessage "did:ma:alice" ":kinds" (.array [.text "/ma/set/0.0.1"])

set_option maxRecDepth 100000

/-- After an upsert and a delete the registry mirrors the manifest again. -/
theorem kindMirror_runs_upsert_delete :
    ∃ w, Run (Step kindTables.env) (started kindTables.env (some "bafyroot") ["did:ma:alice"])
        [.crud upsertKind, .crud deleteKind] w ∧ w.io.kuboFailed = false ∧
      KindMirror kindTables.env w.rt := by
  let w0 := started kindTables.env (some "bafyroot") ["did:ma:alice"]
  have hupsert : Step kindTables.env w0 (.crud upsertKind)
      (Turn.run kindTables.env (.crud upsertKind) [] w0).2 := .turn (by decide +kernel)
  have hrun := Run.cons hupsert (.cons (e := .crud deleteKind) (.turn (by decide +kernel)) (.nil _))
  refine ⟨_, hrun, by decide +kernel, (kindMirror_runs hrun).1.mpr fun m hm protocol => ?_⟩
  obtain rfl : ({} : RuntimeManifest) = m :=
    @AtRoot.eq kindTables.env _ _ _ ⟨"bafyroot", by decide +kernel, rfl⟩ hm
  exact kindTreeGet_nil _

/-- **An upserted kind is not in the registry**, though every Kubo call got through. -/
theorem kind_upsert_not_mirrored :
    ∃ w, Step kindTables.env (started kindTables.env (some "bafyroot") ["did:ma:alice"])
        (.crud upsertKind) w ∧ w.io.kuboFailed = false ∧ ¬ KindMirror kindTables.env w.rt := by
  refine ⟨_, .turn (by decide +kernel), by decide +kernel, fun h => ?_⟩
  have hmirror := h kindManifest ⟨"bafywithkind", by decide +kernel, rfl⟩ "/ma/set/0.0.1"
  rw [show kindManifest.kinds.getProtocol "/ma/set/0.0.1" = some ⟨"bafysetkind"⟩ by
    decide +kernel] at hmirror
  obtain ⟨node, -, hnode⟩ := hmirror
  exact absurd (congrArg Option.isSome hnode) (by rw [Option.isSome_some]; decide +kernel)

end MaRuntime
