import MaRuntime.EntityForest
import MaRuntime.LeastPrivilege
import MaRuntime.Lifecycles

/-!
# What plugins cannot reach

RPC messages, requests to the IPFS service and scheduled jobs run plugins and manage nothing, so
whatever the plugins do in them, settings, ACLs, owners and the manifest stay as they are
(`Sandboxed`), and the registry loses entities at most, each to itself or to its parent, whose
plugin may delete entities (`Thinned`).

* `rpcTurn_thinned`: one message. **`plugins_confined`**: every run.
-/

namespace MaRuntime

open Lib (Cbor Proc Run)

/-! ## Work that manages nothing -/

/-- RPC messages, requests to the IPFS service and scheduled jobs. -/
def HostEvent.Unmanaged : HostEvent → Prop
  | .turn (.rpc _) => True
  | .turn (.ipfs _) => True
  | .scheduled _ _ _ _ => True
  | _ => False

/-- One of them. -/
def UnmanagedStep (env : Env) (w : World) (e : HostEvent) (w' : World) : Prop :=
  HostStep env w e w' ∧ e.Unmanaged

/-- Of the shared state only the plugins, their registry and the counters changed. -/
def Sandboxed (w w' : World) : Prop :=
  w'.rt =
    { w.rt with
      stats :=
        { w.rt.stats with
          ipfsRequests := w'.rt.stats.ipfsRequests, rpcRequests := w'.rt.stats.rpcRequests }
      cells := w'.rt.cells, nextCell := w'.rt.nextCell, entityRegistry := w'.rt.entityRegistry }

instance : IsPreorder World Sandboxed where
  refl _ := rfl
  trans a b c h h' := by
    unfold Sandboxed at *
    rw [h', h]

/-- An entity may erase another: it is that entity or its parent, and its plugin has the host
function. -/
inductive MayBeErased (w : World) (name : String) (ep : EntityPlugin) : Prop
  | intro {eraser : String} {ep' : EntityPlugin} {i : Nat}
      (heraser : w.rt.entityRegistry[eraser]? = some ep') (hbackend : ep'.backend = .extism i)
      (hfn : .maDeleteEntity ∈ (w.rt.cells i).hostFns)
      (hnear : eraser = name ∨ ep.parent = some eraser) : MayBeErased w name ep

/-- The registry lost entities at most, each to one that may erase it. -/
structure Thinned (w w' : World) : Prop where
  unknown : ∀ name : String, w.rt.entityRegistry[name]? = none → w'.rt.entityRegistry[name]? = none
  known : ∀ (name : String) (ep : EntityPlugin), w.rt.entityRegistry[name]? = some ep →
    w'.rt.entityRegistry[name]? = some ep ∨
      w'.rt.entityRegistry[name]? = none ∧ MayBeErased w name ep

section Thinned

variable {env : Env} {w w' : World}

/-- What the registry holds it held before. -/
theorem Thinned.before (h : Thinned w w') {name : String} {ep : EntityPlugin}
    (hep : w'.rt.entityRegistry[name]? = some ep) : w.rt.entityRegistry[name]? = some ep := by
  cases hold : w.rt.entityRegistry[name]? with
  | none => exact absurd (h.unknown name hold) (by simp [hep])
  | some ep' =>
    rcases h.known name ep' hold with hsame | ⟨hgone, -⟩
    · exact hsame.symm.trans hep
    · exact absurd hgone (by simp [hep])

theorem thinned_of_eq (h : w'.rt.entityRegistry = w.rt.entityRegistry) : Thinned w w' where
  unknown name hname := by rwa [h]
  known name ep hep := by
    rw [h]
    exact .inl hep

/-- A right that an entity has later it had before. -/
theorem MayBeErased.before {S : Scope} {started started' : List (String × KindNode)}
    (hw : Wired env (w.plugins started)) (hf : Endures S (w.plugins started) (w'.plugins started'))
    (hthin : Thinned w w') {name : String} {ep : EntityPlugin} (h : MayBeErased w' name ep) :
    MayBeErased w name ep := by
  obtain @⟨eraser, ep', i, heraser, hbackend, hfn, hnear⟩ := h
  have hold := hthin.before heraser
  obtain ⟨hhosted, -⟩ := (hw.entities eraser ep' hold).isHosted
  have hfns : (w'.rt.cells i).hostFns = (w.rt.cells i).hostFns :=
    hf.hostFns i (hhosted i hbackend).1
  rw [hfns] at hfn
  exact .intro hold hbackend hfn hnear

theorem Thinned.trans {S : Scope} {w1 w2 : World} {started started1 : List (String × KindNode)}
    (hw : Wired env (w.plugins started)) (hf : Endures S (w.plugins started) (w1.plugins started1))
    (h : Thinned w w1) (h' : Thinned w1 w2) : Thinned w w2 := by
  refine ⟨fun name hname => h'.unknown name (h.unknown name hname), fun name ep hep => ?_⟩
  rcases h.known name ep hep with hkept | ⟨hgone, hmay⟩
  · exact (h'.known name ep hkept).imp id fun ⟨hgone, hmay⟩ => ⟨hgone, hmay.before hw hf h⟩
  · exact .inr ⟨h'.unknown name hgone, hmay⟩

/-! ## Deletions -/

theorem afterDelete_before {entity : EntityPlugin} {registry : StrMap EntityPlugin}
    {target name : String} {ep : EntityPlugin}
    (h : (afterDelete entity registry target)[name]? = some ep) : registry[name]? = some ep := by
  unfold afterDelete at h
  split at h
  · by_cases hname : name = target
    · subst hname
      exact absurd (h.symm.trans Std.ExtTreeMap.getElem?_erase_self) (by simp)
    · exact (getElem?_erase_of_ne hname).symm.trans h
  · exact h

/-- What is left after deletions was there before. -/
theorem foldl_afterDelete_before {entity : EntityPlugin} {name : String} {ep : EntityPlugin} :
    ∀ (targets : List String) {registry : StrMap EntityPlugin},
      (targets.foldl (afterDelete entity) registry)[name]? = some ep → registry[name]? = some ep
  | [], _, h => h
  | _ :: targets, _, h => afterDelete_before (foldl_afterDelete_before targets h)

/-- The deletions of an entity take itself or its children. -/
theorem foldl_afterDelete_known {entity : EntityPlugin} {registry : StrMap EntityPlugin}
    {targets : List String} {name : String} {ep : EntityPlugin} (hep : registry[name]? = some ep) :
    (targets.foldl (afterDelete entity) registry)[name]? = some ep ∨
      (targets.foldl (afterDelete entity) registry)[name]? = none ∧ name ∈ targets ∧
        (entity.fragment = name ∨ ep.parent = some entity.fragment) := by
  cases hafter : (targets.foldl (afterDelete entity) registry)[name]? with
  | some ep' =>
    have hsame := foldl_afterDelete_before targets hafter
    rw [hep] at hsame
    exact .inl hsame.symm
  | none =>
    have hbefore : name ∈ registry := by
      rw [Std.ExtTreeMap.mem_iff_isSome_getElem?, hep]
      rfl
    have hgone : name ∉ targets.foldl (afterDelete entity) registry := by
      rw [Std.ExtTreeMap.mem_iff_isSome_getElem?, hafter]
      simp
    obtain ⟨done, rest, htargets, hmay⟩ := deletion_of_removed targets hbefore hgone
    obtain ⟨ep', hep', hnear, -⟩ := mayDelete_iff.mp hmay
    have hsame := foldl_afterDelete_before done hep'
    rw [hep] at hsame
    obtain rfl := Option.some.inj hsame
    refine .inr ⟨rfl, ?_, hnear.symm.imp Eq.symm id⟩
    rw [htargets]
    exact List.mem_append_right _ List.mem_cons_self

end Thinned

/-! ## One piece of work -/

section Work

variable {env : Env} {w w' : World} {started : List (String × KindNode)}

/-- Who asks for a deletion is registered, and its plugin may delete entities. -/
theorem RpcResult.mayErase {message : Message} {entity : EntityPlugin} {result : DispatchResult}
    {target : String} (h : RpcResult env message w entity result w')
    (hw : Wired env (w.plugins started)) (htarget : target ∈ result.deleteRequests) :
    w.rt.entityRegistry[entity.fragment]? = some entity ∧ MayErase entity (w.plugins started) := by
  obtain @⟨w1, _, term, fragment, _, _, hgate, -, -, -, hentity, hdispatched⟩ := h
  obtain @⟨w2, w3, _, _, hauth, hdispatch, -⟩ := hdispatched
  have hsame : w1.plugins started = w.plugins started :=
    Proc.Sat.of_run (Q := fun _ w1 => Quiet (counted w) w1) (quiet_rpcGate message _ _ _) hgate
      started
  have hw1 : Wired env (w1.plugins started) := hsame ▸ hw
  obtain ⟨hhosted, hname⟩ := (hw1.entities fragment entity hentity).isHosted
  obtain ⟨started2, hhosted2, hsteps2⟩ := Proc.Sat.of_run
    (Q := fun _ w2 => Moves env .all (IsHosted entity) w1 w2)
    (moves_authorizeEntity (lasting_isHosted entity) fun _ _ => trivial) hauth started hw1 hhosted
  have hw2 := hsteps2.wired hw1
  obtain ⟨started3, -, hsteps3⟩ := Proc.Sat.of_run
    (Q := fun _ w3 => Moves env .all (IsHosted entity) w2 w3)
    (moves_dispatch trivial _ _ _) hdispatch started2 hw2 hhosted2
  obtain ⟨i, -, hbackend, hfn⟩ :=
    (tells_dispatch _ _ _ _ started2 started3 _ hw2 hhosted2 hdispatch).deletes target htarget
  obtain ⟨hi, -⟩ := hhosted i hbackend
  have hf := hsteps2.endures.trans hsteps3.endures
  rw [hf.hostFns i hi] at hfn
  have hregistry : w1.rt.entityRegistry = w.rt.entityRegistry := congrArg PluginHost.registry hsame
  rw [hsame] at hi hfn
  rw [hregistry, ← hname] at hentity
  exact ⟨hentity, i, hi, hbackend, hfn⟩

/-- **An RPC message takes away what its entity may erase**, where no kind is registered. -/
theorem rpcTurn_thinned (hw : Wired env (w.plugins started)) (hkinds : w.rt.kindRegistry = ∅)
    (message : Message) : Thinned w (rpcTurn env message [] w).2 := by
  rcases rpcTurn_cases env message w with ⟨entity, result, w1, hresult⟩ | ⟨-, hcells⟩
  · have hcells := hresult.cellsOnly
    have hkind (protocol : String) : w1.rt.kindRegistry[protocol]? = none := by
      unfold CellsOnly at hcells
      rw [hcells]
      change w.rt.kindRegistry[protocol]? = none
      rw [hkinds]
      exact Std.ExtTreeMap.getElem?_empty
    have hregistry : (rpcTurn env message [] w).2.rt.entityRegistry =
        result.deleteRequests.foldl (afterDelete entity) w.rt.entityRegistry := by
      rw [hresult.run]
      unfold processQueues
      rw [Proc.bind_of_ok (createRequests_unknown rfl hkind _), deleteRequests_run]
      exact congrArg (result.deleteRequests.foldl (afterDelete entity)) hcells.entityRegistry
    refine ⟨fun name hname => ?_, fun name ep hep => ?_⟩
    · rw [hregistry]
      cases hafter : (result.deleteRequests.foldl (afterDelete entity)
        w.rt.entityRegistry)[name]? with
      | none => rfl
      | some ep =>
        have hbefore := foldl_afterDelete_before _ hafter
        exact absurd hname (by simp [hbefore])
    · rw [hregistry]
      refine (foldl_afterDelete_known hep).imp id fun ⟨hgone, htarget, hnear⟩ => ⟨hgone, ?_⟩
      obtain ⟨hentity, i, hi, hbackend, hfn⟩ := hresult.mayErase hw htarget
      exact .intro hentity hbackend hfn hnear
  · exact thinned_of_eq hcells.entityRegistry

/-- **Work that manages nothing reaches nothing but plugins.** -/
theorem UnmanagedStep.confined {e : HostEvent} (h : UnmanagedStep env w e w')
    (hw : Wired env (w.plugins started)) (hkinds : w.rt.kindRegistry = ∅) :
    Sandboxed w w' ∧ Thinned w w' := by
  obtain ⟨@⟨_⟩, hunmanaged⟩ := h
  cases e with
  | turn t =>
    cases t with
    | rpc message =>
      have hplugins := rpcTurn_pluginsOnly env message w
      refine ⟨?_, rpcTurn_thinned hw hkinds message⟩
      unfold PluginsOnly at hplugins
      show Sandboxed w (rpcTurn env message [] w).2
      unfold Sandboxed
      rw [hplugins]
      rfl
    | ipfs message =>
      have hcounted := ipfsTurn_counted env message w
      refine ⟨?_, thinned_of_eq ?_⟩
      · show Sandboxed w (ipfsTurn env message [] w).2
        unfold Sandboxed
        rw [hcounted]
      · show (ipfsTurn env message [] w).2.rt.entityRegistry = w.rt.entityRegistry
        rw [hcounted]
    | crud message => exact hunmanaged.elim
    | claim owner => exact hunmanaged.elim
  | scheduled nowNanos id fragment content =>
    have hcells := (@calm_dispatchScheduled env nowNanos id fragment content).keeps [] w
    refine ⟨?_, thinned_of_eq hcells.entityRegistry⟩
    unfold CellsOnly at hcells
    show Sandboxed w (dispatchScheduled env nowNanos id fragment content [] w).2
    unfold Sandboxed
    rw [hcells]
  | shutdown => exact hunmanaged.elim

/-- **What plugins cannot reach**: through any run of RPC messages, requests to the IPFS service and
scheduled jobs, whatever the plugins do, the settings, the ACLs, the owners and the root of the
manifest stay as they are, no entity is added or changed, and one that goes had itself or its parent
among the plugins that may delete entities. -/
theorem plugins_confined {config : Config} {files : StrMap (Except Error Config)}
    {cells : Nat → PluginCell} {rootCid : Option Cid} {cliOwners : List String}
    {es es' : List HostEvent}
    (hrun : Run (HostStep env) (booted env config files cells rootCid cliOwners) es w)
    (hwork : Run (UnmanagedStep env) w es' w') : Sandboxed w w' ∧ Thinned w w' := by
  obtain ⟨started, hw, hkinds, -⟩ := booted_run hrun
  clear hrun
  induction hwork generalizing started with
  | nil w => exact ⟨refl_of Sandboxed w, thinned_of_eq rfl⟩
  | @cons w w1 w' e es hstep hrest ih =>
    obtain ⟨started1, hw1, hendures⟩ := hstep.1.wired hw
    obtain ⟨hconfined, hthin⟩ := hstep.confined hw hkinds
    obtain ⟨hconfined', hthin'⟩ := ih started1 hw1 (hendures.kinds.trans hkinds)
    exact ⟨trans_of Sandboxed hconfined hconfined', hthin.trans hw hendures hthin'⟩

set_option maxRecDepth 100000 in
/-- A leaf that may delete entities erases itself, and reaches nothing else. -/
theorem plugins_confined_leaf :
    Sandboxed leafStart leafDropped ∧ leafDropped.rt.entityRegistry["leaf"]? = none ∧
      ∃ ep, MayBeErased leafStart "leaf" ep := by
  have hwork : Run (UnmanagedStep leafEnv) leafStart [.turn (.rpc dropLeaf)] leafDropped :=
    .cons ⟨.run, trivial⟩ (.nil _)
  obtain ⟨hconfined, hthin⟩ := plugins_confined (.nil leafStart) hwork
  have hbefore : leafStart.rt.entityRegistry["leaf"]? = some
      { fragment := "leaf", kind := .stateless, acl := "open", parent := none
        backend := .extism 0 } := by decide +kernel
  have hafter : leafDropped.rt.entityRegistry["leaf"]? = none := by decide +kernel
  rcases hthin.known "leaf" _ hbefore with hkept | ⟨-, hmay⟩
  · exact absurd hkept (by simp [hafter])
  · exact ⟨hconfined, hafter, _, hmay⟩

end Work

end MaRuntime
