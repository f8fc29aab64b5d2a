import MaRuntime.CrudDelete
import MaRuntime.Main

/-!
# The pin on the head

Three places write a new root manifest: `with_manifest_crud`, `persist_new_entity` and the save at
shutdown. Each moves the recursive pin from the old root to the new one before the new one becomes
the root. That the pin could not be moved is only logged.

* `pinUpdate_pins`: a `pin_update` that gets through leaves the new CID pinned, whatever was pinned
  before.
* **`head_pinned`**: over every run of updates the root is pinned, unless the `pin_update` failed in
  the update that last made it the root.
* `head_loses_pin`: one failed request leaves a root that is not pinned.
-/

namespace MaRuntime

open Lib (Cbor Proc Run)

/-! ## Updates -/

/-- An update of the manifest, by the function that does it. -/
inductive ManifestUpdate where
  | withManifestCrud (f : RuntimeManifest → Except Error RuntimeManifest)
  | persistNewEntity (fragment : String) (entityNode : EntityNode)
  | saveAllEntityStates

/-- Do it, at the root of `stats`. -/
def ManifestUpdate.run (env : Env) : ManifestUpdate → M Unit
  | .withManifestCrud f => do
    let _ ← MaRuntime.withManifestCrud env f
  | .persistNewEntity fragment entityNode => do
    let rootCid ← readStats fun s => s.rootCid
    whenSome rootCid fun oldCid => MaRuntime.persistNewEntity env oldCid fragment entityNode
  | .saveAllEntityStates => shutdown env

/-- The root is recursively pinned. -/
def HeadPinned (w : World) : Prop := ∀ root, w.rt.stats.rootCid = some root → root ∈ w.io.pins

/-- The root is as before, and no pin was taken away. -/
structure PinsKept (w w' : World) : Prop where
  rootCid : w'.rt.stats.rootCid = w.rt.stats.rootCid
  pins : ∀ cid, cid ∈ w.io.pins → cid ∈ w'.io.pins

/-- The update makes `root` the root. The function that writes the manifest returns the CID; an
update that ends before that leaves the root. -/
def ManifestUpdate.Makes (env : Env) (w : World) (root : Cid) : ManifestUpdate → Prop
  | .withManifestCrud f => (MaRuntime.withManifestCrud env f [] w).1 = .ok root
  | .persistNewEntity fragment entityNode => ∃ oldCid, w.rt.stats.rootCid = some oldCid ∧
      (publishNewEntity env oldCid fragment entityNode [] w).1 = .ok root
  | .saveAllEntityStates => ∃ oldCid, w.rt.stats.rootCid = some oldCid ∧
      0 < w.rt.entityRegistry.size ∧ (MaRuntime.saveAllEntityStates env oldCid [] w).1 = .ok root

/-- Of the requests from `w` to `w'` the last was a `pin_update` to `root`, and it failed. -/
def PinFailed (env : Env) (w : World) (root : Cid) (w' : World) : Prop :=
  ∃ oldCid w1 e w2, PinsKept w w1 ∧ pinUpdate env oldCid root [] w1 = (.err e, w2) ∧ w'.io = w2.io

/-- An update, or anything else that takes no pin away and leaves the root. -/
inductive UpdateStep (env : Env) : World → Option ManifestUpdate → World → Prop
  | update {w : World} {u : ManifestUpdate} : UpdateStep env w (some u) (u.run env [] w).2
  | rest {w w' : World} (h : PinsKept w w') : UpdateStep env w none w'

/-- A step that makes no root. -/
def LeavesRoot (env : Env) (w : World) (u : Option ManifestUpdate) (w' : World) : Prop :=
  UpdateStep env w u w' ∧ ∀ u' root, u = some u' → ¬ u'.Makes env w root

/-- The `pin_update` failed in the update that made the root, and no later update made one. -/
def HeadFailed (env : Env) (w : World) (us : List (Option ManifestUpdate)) (w' : World) : Prop :=
  ∃ before u after w1 w2 root, us = before ++ some u :: after ∧
    Run (UpdateStep env) w before w1 ∧ UpdateStep env w1 (some u) w2 ∧ u.Makes env w1 root ∧
    PinFailed env w1 root w2 ∧ Run (LeavesRoot env) w2 after w' ∧
    w'.rt.stats.rootCid = some root

instance : IsPreorder World PinsKept where
  refl _ := ⟨rfl, fun _ h => h⟩
  trans _ _ _ h h' :=
    ⟨h'.rootCid.trans h.rootCid, fun cid hcid => h'.pins cid (h.pins cid hcid)⟩

/-! ## What keeps the pins -/

section Kept

variable {env : Env}

theorem PinsKept.head {w w' : World} (h : PinsKept w w') (hw : HeadPinned w) : HeadPinned w' := by
  intro root hroot
  rw [h.rootCid] at hroot
  exact h.pins root (hw root hroot)

/-- Calls keep the pins, where the root is as before. -/
theorem Called.pinsKept {w w' : World} (h : Called w w') (hstats : w'.rt.stats = w.rt.stats) :
    PinsKept w w' := by
  obtain ⟨envelopes, k, failed, -, hio⟩ := h
  refine ⟨congrArg Stats.rootCid hstats, fun cid hcid => ?_⟩
  rw [hio]
  exact hcid

theorem keeps_kuboCall_pins {α : Type} (call : Nat → Except Error α) :
    Proc.Keeps PinsKept (kuboCall call) := fun g w =>
  (keeps_kuboCall_called call g w).pinsKept
    (congrArg Runtime.stats ((calm_kuboCall (g := g) call).keeps g w))

theorem keeps_modifyRt_pins {f : Runtime → Runtime}
    (hf : ∀ rt, (f rt).stats.rootCid = rt.stats.rootCid) : Proc.Keeps PinsKept (modifyRt f) :=
  fun _ w => ⟨hf w.rt, fun _ h => h⟩

theorem keeps_modifyCell_pins (i : Nat) (f : PluginCell → PluginCell) :
    Proc.Keeps PinsKept (modifyCell i f) := keeps_modifyRt_pins fun _ => rfl

theorem keeps_callExport_pins (ep : EntityPlugin) (i : Nat) (exportName : String) (input : Bytes) :
    Proc.Keeps PinsKept (callExport env ep i exportName input) := fun g w =>
  (keeps_callExport_called ep i exportName input g w).pinsKept
    ((calm_callExport (g := g) env ep i exportName input).keeps g w).stats

theorem keeps_triggerSave_pins (ep : EntityPlugin) : Proc.Keeps PinsKept (triggerSave env ep) :=
  keeps_triggerSave keeps_kuboCall_pins (fun i _ => keeps_callExport_pins ep i _ _)
    (fun i _ => keeps_takePending (keeps_modifyCell_pins i))
    (keeps_markSaved fun i _ => keeps_modifyCell_pins i)

theorem keeps_saveEntityState_pins (manifest : RuntimeManifest) (name : String)
    (ep : EntityPlugin) : Proc.Keeps PinsKept (saveEntityState env manifest name ep) :=
  keeps_saveEntityState keeps_kuboCall_pins (fun _ => keeps_triggerSave_pins ep) manifest name

end Kept

/-! ## Moving the pin -/

section Moves

variable {env : Env} {g : Lib.Guards Lock}

/-- A pin request, by its answer. -/
theorem pinRequest_run (w : World) :
    kuboCall env.kubo.pin g w = (.ok (), { w with io := { w.io with calls := w.io.calls + 1 } }) ∨
      ∃ e, env.kubo.pin w.io.calls = .error e ∧ kuboCall env.kubo.pin g w =
        (.err e, { w with io := { w.io with calls := w.io.calls + 1, kuboFailed := true } }) := by
  rw [kuboCall_run]
  cases hpin : env.kubo.pin w.io.calls with
  | ok u => exact .inl rfl
  | error e => exact .inr ⟨e, rfl, rfl⟩

/-- **`pin_update` leaves the new CID pinned or fails**, whether the old one was pinned or not. It
fails where the request fails, or the plain one it falls back to. -/
theorem pinUpdate_pins (oldCid newCid : Cid) (w : World) :
    (pinUpdate env oldCid newCid).Sat g w fun o w' =>
      (o = .ok () ∧ newCid ∈ w'.io.pins) ∨
        ∃ e n, o = .err e ∧ w'.io.calls = n + 1 ∧ env.kubo.pin n = .error e := by
  unfold pinUpdate
  rcases @pinRequest_run env g w with hok | ⟨e, he, herr⟩
  · refine Proc.sat_bind_of_ok hok (Proc.sat_bind_of_ok rfl ?_)
    dsimp only
    split
    · exact .inl ⟨rfl, Std.ExtTreeSet.mem_insert_self⟩
    · unfold pinAdd
      rcases @pinRequest_run env g { w with io := { w.io with calls := w.io.calls + 1 } } with
        hok' | ⟨e, he, herr⟩
      · exact Proc.sat_bind_of_ok hok' (.inl ⟨rfl, Std.ExtTreeSet.mem_insert_self⟩)
      · exact Proc.sat_bind_of_err herr (.inr ⟨e, w.io.calls + 1, rfl, rfl, he⟩)
  · exact Proc.sat_bind_of_err herr (.inr ⟨e, w.io.calls, rfl, rfl, he⟩)

theorem pinUpdate_attempt {oldCid newCid : Cid} {r : Except Error Unit} {w w' : World}
    (h : (pinUpdate env oldCid newCid).attempt [] w = (.ok r, w')) :
    w'.io = (pinUpdate env oldCid newCid [] w).2.io := by
  rw [← Proc.attempt_snd, h]

/-- `newCid` became the root, after a `pin_update` to it. -/
structure MovedTo (env : Env) (w : World) (newCid : Cid) (w' : World) : Prop where
  rootCid : w'.rt.stats.rootCid = some newCid
  pin : ∃ oldCid w1, PinsKept w w1 ∧ w'.io = (pinUpdate env oldCid newCid [] w1).2.io

theorem MovedTo.pinned {w w' : World} {newCid : Cid} (h : MovedTo env w newCid w') :
    HeadPinned w' ∨ PinFailed env w newCid w' := by
  obtain ⟨oldCid, w1, hkept, hio⟩ := h.pin
  rcases @pinUpdate_pins env [] oldCid newCid w1 with ⟨-, hpins⟩ | ⟨e, -, herr, -⟩
  · left
    intro root hroot
    obtain rfl := Option.some.inj (h.rootCid.symm.trans hroot)
    rwa [hio]
  · exact .inr ⟨oldCid, w1, e, _, hkept, Prod.ext herr rfl, hio⟩

theorem keeps_readRoot : Proc.Keeps PinsKept (readStats fun s => s.rootCid) :=
  Proc.Keeps.holding (Proc.keeps_look _) _ _

/-- `with_manifest_crud` makes the CID it returns the root; otherwise the root is as before. -/
theorem withManifestCrud_moves (f : RuntimeManifest → Except Error RuntimeManifest) (w : World) :
    (withManifestCrud env f).Sat [] w fun o w' =>
      match o with
      | .ok newCid => MovedTo env w newCid w'
      | _ => PinsKept w w' := by
  have hcurrent : Proc.Keeps PinsKept currentRootCid := by
    refine keeps_readRoot.bind fun root => ?_
    split
    · exact Proc.keeps_pure _
    · exact Proc.keeps_fail _
  refine hcurrent.sat_bind (fun _ _ h => h) (fun _ h => h) fun oldCid w1 _ h1 => ?_
  refine (keeps_kuboCall_pins _).sat_bind (fun _ _ h => trans_of PinsKept h1 h)
    (fun _ h => trans_of PinsKept h1 h) fun m w2 _ h2 => ?_
  have h12 := trans_of PinsKept h1 h2
  refine (Proc.keeps_ofExcept (R := PinsKept) (f m)).sat_bind
    (fun _ _ h => trans_of PinsKept h12 h) (fun _ h => trans_of PinsKept h12 h)
    fun m' w3 _ h3 => ?_
  have h13 := trans_of PinsKept h12 h3
  refine (keeps_kuboCall_pins _).sat_bind (fun _ _ h => trans_of PinsKept h13 h)
    (fun _ h => trans_of PinsKept h13 h) fun newCid w4 _ h4 => ?_
  have h14 := trans_of PinsKept h13 h4
  refine (calm_pinUpdate env oldCid newCid).sat_attempt_bind fun r w5 hpin _ => ?_
  have hio := pinUpdate_attempt hpin
  exact ⟨rfl, oldCid, w4, h14, hio⟩

/-- What is left once the CID is published is to pin it and to make it the root. -/
theorem persistNewEntity_moves (oldCid : Cid) (fragment : String) (entityNode : EntityNode)
    (w : World) : (persistNewEntity env oldCid fragment entityNode).Sat [] w fun _ w' =>
      (∃ newCid, (publishNewEntity env oldCid fragment entityNode [] w).1 = .ok newCid ∧
        MovedTo env w newCid w') ∨
      (∀ newCid, (publishNewEntity env oldCid fragment entityNode [] w).1 ≠ .ok newCid) ∧
        PinsKept w w' := by
  have hpublish : Proc.Keeps PinsKept (publishNewEntity env oldCid fragment entityNode) :=
    (keeps_kuboCall_pins _).bind fun _ => (keeps_kuboCall_pins _).bind fun _ =>
      keeps_kuboCall_pins _
  have hkept := hpublish [] w
  refine Proc.sat_bind_run (fun newCid w1 hrun => ?_) (fun e w1 hrun => ?_) (fun w1 hrun => ?_)
  all_goals rw [hrun] at hkept ⊢
  · refine (calm_pinUpdate env oldCid newCid).sat_attempt_bind fun r w2 hpin _ => .inl ?_
    have hio := pinUpdate_attempt hpin
    exact ⟨newCid, rfl, rfl, oldCid, w1, hkept, hio⟩
  · exact .inr ⟨by simp, hkept⟩
  · exact .inr ⟨by simp, hkept⟩

/-- `save_all_entity_states` leaves the root, after a `pin_update` to the CID it returns. -/
theorem saveAllEntityStates_moves (rootCid : Cid) (w : World) :
    (saveAllEntityStates env rootCid).Sat [] w fun o w' =>
      match o with
      | .ok newCid => ∃ w1, PinsKept w w1 ∧ w'.io = (pinUpdate env rootCid newCid [] w1).2.io
      | _ => PinsKept w w' := by
  have hloop (snapshot : List (String × EntityPlugin)) (manifest : RuntimeManifest) :
      Proc.Keeps PinsKept (Proc.fold snapshot manifest fun manifest
        (entry : String × EntityPlugin) =>
        saveEntityState env manifest entry.1 entry.2) :=
    Proc.Keeps.fold _ (fun _ _ _ => keeps_saveEntityState_pins _ _ _) _
  have hsnapshot : Proc.Keeps PinsKept
      (reading .entityRegistry (getRt fun rt => rt.entityRegistry.toList)) :=
    Proc.Keeps.holding (Proc.keeps_look _) _ _
  refine ((keeps_kuboCall_pins _).mapErr _).sat_bind (fun _ _ h => h) (fun _ h => h)
    fun manifest w1 _ h1 => ?_
  refine hsnapshot.sat_bind (fun _ _ h => trans_of PinsKept h1 h)
    (fun _ h => trans_of PinsKept h1 h) fun snapshot w2 _ h2 => ?_
  have h12 := trans_of PinsKept h1 h2
  refine (hloop snapshot manifest).sat_bind (fun _ _ h => trans_of PinsKept h12 h)
    (fun _ h => trans_of PinsKept h12 h) fun manifest' w3 _ h3 => ?_
  have h13 := trans_of PinsKept h12 h3
  refine ((keeps_kuboCall_pins _).mapErr _).sat_bind (fun _ _ h => trans_of PinsKept h13 h)
    (fun _ h => trans_of PinsKept h13 h) fun newCid w4 _ h4 => ?_
  refine (calm_pinUpdate env rootCid newCid).sat_attempt_bind fun r w5 hpin _ => ?_
  exact ⟨w4, trans_of PinsKept h13 h4, pinUpdate_attempt hpin⟩

theorem shutdown_moves (w : World) :
    (shutdown env).Sat [] w fun _ w' =>
      (∃ root, ManifestUpdate.saveAllEntityStates.Makes env w root ∧ MovedTo env w root w') ∨
      (∀ root, ¬ ManifestUpdate.saveAllEntityStates.Makes env w root) ∧ PinsKept w w' := by
  have hread : readStats (fun s => s.rootCid) [] w = (.ok w.rt.stats.rootCid, w) := rfl
  refine Proc.sat_bind_of_ok hread ?_
  cases hroot : w.rt.stats.rootCid with
  | none =>
    exact .inr ⟨fun root ⟨oldCid, hold, _⟩ => by simp [hroot] at hold, refl_of PinsKept w⟩
  | some rc =>
    have hcount : reading .entityRegistry (getRt fun rt => rt.entityRegistry.size) [] w =
        (.ok w.rt.entityRegistry.size, w) := rfl
    refine Proc.sat_bind_of_ok hcount ?_
    split
    case isTrue hsize =>
      rcases hrun : saveAllEntityStates env rc [] w with ⟨o, w1⟩
      have hmoves := (@saveAllEntityStates_moves env rc w).of_run hrun
      have hmakes (root : Cid) (h : ManifestUpdate.saveAllEntityStates.Makes env w root) :
          o = .ok root := by
        obtain ⟨oldCid, hold, -, hok⟩ := h
        obtain rfl := Option.some.inj (hroot.symm.trans hold)
        rwa [hrun] at hok
      cases o with
      | ok newCid =>
        obtain ⟨w2, hkept, hio⟩ := hmoves
        refine Proc.sat_bind_of_ok (Proc.attempt_of_ok hrun)
          (.inl ⟨newCid, ?_, rfl, rc, w2, hkept, hio⟩)
        exact ⟨rc, hroot, hsize, congrArg Prod.fst hrun⟩
      | err e =>
        exact Proc.sat_bind_of_ok (Proc.attempt_of_err hrun)
          (.inr ⟨fun root h => absurd (hmakes root h) (by simp), hmoves⟩)
      | stuck =>
        unfold Proc.Sat
        rw [Proc.bind_of_stuck (Proc.attempt_of_stuck hrun)]
        exact .inr ⟨fun root h => absurd (hmakes root h) (by simp), hmoves⟩
    case isFalse hsize =>
      exact .inr ⟨fun root ⟨_, _, hpos, _⟩ => hsize hpos, refl_of PinsKept w⟩

/-- **What an update does to the root**: it makes one, after a `pin_update` to it, or leaves the
root and its pin. -/
theorem ManifestUpdate.moves (u : ManifestUpdate) (w : World) :
    (∃ root, u.Makes env w root ∧ MovedTo env w root (u.run env [] w).2) ∨
      (∀ root, ¬ u.Makes env w root) ∧ PinsKept w (u.run env [] w).2 := by
  cases u with
  | withManifestCrud f =>
    rcases hrun : MaRuntime.withManifestCrud env f [] w with ⟨o, w1⟩
    have hmoves := (withManifestCrud_moves f w).of_run hrun
    have hend : (ManifestUpdate.run env (.withManifestCrud f) [] w).2 = w1 := by
      change ((MaRuntime.withManifestCrud env f >>= fun _ => pure ()) [] w).2 = w1
      rw [Proc.bind_run, hrun]
      cases o <;> rfl
    have hmakes (root : Cid) :
        ManifestUpdate.Makes env w root (.withManifestCrud f) ↔ o = .ok root := by
      change (MaRuntime.withManifestCrud env f [] w).1 = .ok root ↔ _
      rw [hrun]
    rw [hend]
    cases o with
    | ok newCid => exact .inl ⟨newCid, (hmakes newCid).mpr rfl, hmoves⟩
    | err e => exact .inr ⟨fun root h => absurd ((hmakes root).mp h) (by simp), hmoves⟩
    | stuck => exact .inr ⟨fun root h => absurd ((hmakes root).mp h) (by simp), hmoves⟩
  | persistNewEntity fragment entityNode =>
    have hread : readStats (fun s => s.rootCid) [] w = (.ok w.rt.stats.rootCid, w) := rfl
    refine Proc.sat_bind_of_ok (Q := fun _ w' =>
      (∃ root, ManifestUpdate.Makes env w root (.persistNewEntity fragment entityNode) ∧
        MovedTo env w root w') ∨
      (∀ root, ¬ ManifestUpdate.Makes env w root (.persistNewEntity fragment entityNode)) ∧
        PinsKept w w') hread ?_
    cases hroot : w.rt.stats.rootCid with
    | none =>
      exact .inr ⟨fun root ⟨oldCid, hold, _⟩ => by simp [hroot] at hold, refl_of PinsKept w⟩
    | some oldCid =>
      rcases persistNewEntity_moves oldCid fragment entityNode w with ⟨root, hok, h⟩ | ⟨hno, h⟩
      · exact .inl ⟨root, ⟨oldCid, hroot, hok⟩, h⟩
      · refine .inr ⟨fun root ⟨oldCid', hold, hok⟩ => ?_, h⟩
        obtain rfl := Option.some.inj (hroot.symm.trans hold)
        exact hno root hok
  | saveAllEntityStates => exact shutdown_moves w

end Moves

/-! ## Runs -/

section Runs

variable {env : Env} {w w1 w' : World} {us : List (Option ManifestUpdate)}

theorem HeadFailed.cons {u : Option ManifestUpdate} (hstep : UpdateStep env w u w1)
    (h : HeadFailed env w1 us w') : HeadFailed env w (u :: us) w' := by
  obtain ⟨before, u', after, w2, w3, root, rfl, hbefore, hrest⟩ := h
  exact ⟨u :: before, u', after, w2, w3, root, rfl, .cons hstep hbefore, hrest⟩

theorem LeavesRoot.pinsKept {u : Option ManifestUpdate} (h : LeavesRoot env w u w') :
    PinsKept w w' := by
  obtain ⟨hstep, hno⟩ := h
  cases hstep with
  | rest h => exact h
  | @update u =>
    rcases u.moves w with ⟨root, hmakes, -⟩ | ⟨-, hkept⟩
    · exact absurd hmakes (hno u root rfl)
    · exact hkept

theorem leaves_pinsKept (hrun : Run (LeavesRoot env) w us w') : PinsKept w w' := by
  induction hrun with
  | nil w => exact refl_of PinsKept w
  | cons hstep _ ih => exact trans_of PinsKept hstep.pinsKept ih

/-- A run makes no root, or leaves one that is pinned, or one whose `pin_update` failed. -/
theorem run_moves (hrun : Run (UpdateStep env) w us w') :
    Run (LeavesRoot env) w us w' ∨ HeadPinned w' ∨ HeadFailed env w us w' := by
  induction hrun with
  | nil w => exact .inl (.nil w)
  | @cons w w1 w2 u us hstep hrest ih =>
    rcases ih with hleaves | hpinned | hfailed
    · cases hstep with
      | rest h => exact .inl (.cons ⟨.rest h, fun u root hu => by cases hu⟩ hleaves)
      | @update u =>
        rcases u.moves w with ⟨root, hmakes, hmoved⟩ | ⟨hno, -⟩
        · have hkept := leaves_pinsKept hleaves
          rcases hmoved.pinned with hpinned | hfailed
          · exact .inr (.inl (hkept.head hpinned))
          · exact .inr (.inr ⟨[], u, us, w, _, root, rfl, .nil w, .update, hmakes, hfailed, hleaves,
              hkept.rootCid.trans hmoved.rootCid⟩)
        · refine .inl (.cons ⟨.update, fun u' root hu => ?_⟩ hleaves)
          obtain rfl := Option.some.inj hu
          exact hno root
    · exact .inr (.inl hpinned)
    · exact .inr (.inr (hfailed.cons hstep))

/-- **The root is pinned, unless the `pin_update` failed in the update that last made it the
root.** Over every run of updates from a pinned root, whatever calls fail. -/
theorem head_pinned (hpinned : HeadPinned w) (hrun : Run (UpdateStep env) w us w') :
    HeadPinned w' ∨ HeadFailed env w us w' := by
  rcases run_moves hrun with hleaves | h
  · exact .inl ((leaves_pinsKept hleaves).head hpinned)
  · exact h

end Runs

/-- Kubo does not answer one call, if it is a request to pin. -/
def Env.withFailingPin (env : Env) (call : Nat) : Env :=
  { env with kubo :=
    { env.kubo with pin := fun n => if n = call then .error ["timed out"] else .ok () } }

/-- The daemon with its root pinned. -/
def pinnedStart : World :=
  { gardenStart with io := { pins := (∅ : Std.ExtTreeSet String compare).insert "bafyroot" } }

theorem pinnedStart_pinned : HeadPinned pinnedStart := by
  intro root hroot
  obtain rfl : "bafyroot" = root := Option.some.inj hroot
  exact Std.ExtTreeSet.mem_insert_self

/-- The update of a delete. -/
def dropRose : ManifestUpdate :=
  .withManifestCrud fun m => .ok { m with entities := m.entities.erase "rose" }

set_option maxRecDepth 100000

/-- A delete whose pin request gets through leaves a pinned root. -/
theorem head_pinned_rose :
    HeadPinned (dropRose.run gardenTables.env [] pinnedStart).2 := by
  have hrun : Run (UpdateStep gardenTables.env) pinnedStart [some dropRose] _ :=
    .cons .update (.nil _)
  refine (head_pinned pinnedStart_pinned hrun).resolve_right ?_
  rintro ⟨before, u, after, w1, w2, root, -, -, -, -, ⟨oldCid, w3, e, w4, -, hpin, -⟩, -, -⟩
  rcases (pinUpdate_pins oldCid root w3).of_run hpin with ⟨hok, -⟩ | ⟨e, n, -, -, he⟩
  · cases hok
  · exact absurd he (by simp [gardenTables, Tables.env, Tables.kubo])

/-- **One failed pin request**: the owner's delete is answered with success, and the new root is not
pinned. -/
theorem head_loses_pin :
    HeadPinned pinnedStart ∧
      (crudTurn (gardenTables.env.withFailingPin 2) (deleteMessage "rose") [] pinnedStart).1 =
        .ok () ∧
      ¬ HeadPinned
        (crudTurn (gardenTables.env.withFailingPin 2) (deleteMessage "rose") [] pinnedStart).2 := by
  refine ⟨pinnedStart_pinned, by decide +kernel, fun h => ?_⟩
  have hroot : (crudTurn (gardenTables.env.withFailingPin 2) (deleteMessage "rose") []
      pinnedStart).2.rt.stats.rootCid = some "bafypruned" := by decide +kernel
  exact absurd (h _ hroot) (by decide +kernel)

end MaRuntime
