import MaRuntime.QuietHandlers

/-!
# Plugins along the steps of their host

What the daemon does to plugins goes along the steps of the plugin host.

* `Moves`: the plugins moved along steps; what a value of a handler tells (`Tells`) is at hand in
  what follows it (`Moves.bind_tells`).
* A call of an export is one step, taking its queues another (`moves_dispatch`), and a load is one
  step from the fetch to the cell (`moves_load`, `moves_load_bind`).
-/

namespace MaRuntime

open Lib (Cbor Proc)

/-! ## Handlers along the steps -/

/-- No limits. -/
def Scope.all : Scope where
  touches _ := True
  starts _ _ := True

/-- From where the plugins are wired up and `P` holds, they move along steps, and `P` holds. -/
def Moves (env : Env) (S : Scope) (P : PluginHost → Prop) (w w' : World) : Prop :=
  ∀ started, Wired env (w.plugins started) → P (w.plugins started) →
    ∃ started', P (w'.plugins started') ∧
      PluginSteps env S (w.plugins started) (w'.plugins started')

instance {env : Env} {S : Scope} {P : PluginHost → Prop} :
    IsPreorder World (Moves env S P) where
  refl _ started _ hP := ⟨started, hP, .refl⟩
  trans _ _ _ h h' started hw hP := by
    obtain ⟨started1, hP1, h1⟩ := h started hw hP
    obtain ⟨started2, hP2, h2⟩ := h' started1 (h1.wired hw) hP1
    exact ⟨started2, hP2, h1.trans h2⟩

/-- Later steps do not undo `P`. -/
structure Lasting (P : PluginHost → Prop) : Prop where
  keep : ∀ {S : Scope} {p p' : PluginHost}, Endures S p p' → P p → P p'

/-- A value of `p` tells `Q`, from where the plugins are wired up and `P` holds. -/
def Tells {α : Type} (env : Env) (P : PluginHost → Prop) (p : M α) (Q : α → PluginHost → Prop) :
    Prop :=
  ∀ (g : Lib.Guards Lock) (w w' : World) (started started' : List (String × KindNode)) (a : α),
    Wired env (w.plugins started) → P (w.plugins started) → p g w = (.ok a, w') →
      Q a (w'.plugins started')

section Moves

variable {α β : Type} {env : Env} {S : Scope} {P : PluginHost → Prop}

theorem Quiet.moves {w w' : World} (h : Quiet w w') : Moves env S P w w' := fun started _ hP => by
  refine ⟨started, ?_, ?_⟩
  · rw [h started]
    exact hP
  · rw [h started]

theorem moves_quiet {p : M α} (h : Proc.Keeps Quiet p) : Proc.Keeps (Moves env S P) p :=
  h.mono fun _ _ h => h.moves

/-- One step. -/
theorem Moves.step (hP : Lasting P) {w w' : World}
    (h : ∀ started, Wired env (w.plugins started) → P (w.plugins started) →
      ∃ started', PluginStep env S (w.plugins started) (w'.plugins started')) :
    Moves env S P w w' := fun started hw hpre => by
  obtain ⟨started', hstep⟩ := h started hw hpre
  exact ⟨started', hP.keep hstep.endures hpre, .single hstep⟩

/-- **The sequence rule**, where the first half tells something. -/
theorem Moves.bind_tells {p : M α} {f : α → M β} {Q : α → PluginHost → Prop}
    (hp : Proc.Keeps (Moves env S P) p) (hQ : Tells env P p Q)
    (hf : ∀ a, Proc.Keeps (Moves env S fun q => P q ∧ Q a q) (f a)) :
    Proc.Keeps (Moves env S P) (p >>= f) := by
  intro g w
  refine hp.sat_bind (Q := fun _ w' => Moves env S P w w') (fun _ _ h => h) (fun _ h => h)
    fun a w1 hrun h1 started hw hpre => ?_
  obtain ⟨started1, hP1, hsteps1⟩ := h1 started hw hpre
  obtain ⟨started2, hP2, hsteps2⟩ :=
    hf a g w1 started1 (hsteps1.wired hw) ⟨hP1, hQ g w w1 started _ a hw hpre hrun⟩
  exact ⟨started2, hP2.1, hsteps1.trans hsteps2⟩

/-- What is known more than needed. -/
theorem moves_of_pre {p : M α} {P' : PluginHost → Prop} (hP : Lasting P) (hpre : ∀ q, P q → P' q)
    (h : Proc.Keeps (Moves env S P') p) : Proc.Keeps (Moves env S P) p :=
  fun g w started hw hP0 => by
    obtain ⟨started', -, hsteps⟩ := h g w started hw (hpre _ hP0)
    exact ⟨started', hP.keep hsteps.endures hP0, hsteps⟩

theorem Lasting.and {Q : PluginHost → Prop} (hP : Lasting P) (hQ : Lasting Q) :
    Lasting fun p => P p ∧ Q p := ⟨fun hf h => ⟨hP.keep hf h.1, hQ.keep hf h.2⟩⟩

end Moves

/-! ## Exports -/

section Exports

variable {env : Env} {S : Scope} {P : PluginHost → Prop}

/-- The envelopes of a plugin in the channel. -/
def outgoing (cell : PluginCell) (sent : List SendEnvelope) : List (String × SendEnvelope) :=
  sent.map fun e => (cell.fragment, e)

/-- A host function is used within the plugin's rights. -/
theorem hostFn_acts (op : HostFn × Bytes) (s : PluginCell × Io) :
    ∃ sent, Acts env s.1 (hostFn env op s).2.1 sent ∧
      (hostFn env op s).2.2.envelopes = s.2.envelopes ++ outgoing s.1 sent := by
  obtain ⟨fn, input⟩ := op
  obtain ⟨cell, io⟩ := s
  have hnothing : ∃ sent, Acts env cell cell sent ∧
      io.envelopes = io.envelopes ++ outgoing cell sent :=
    ⟨[], .refl env cell, (List.append_nil _).symm⟩
  unfold hostFn
  dsimp only
  split
  · exact hnothing
  · rename_i hlinked
    have hfn : fn ∈ cell.hostFns := not_not.mp hlinked
    cases fn with
    | maSend =>
      dsimp only
      split
      · exact hnothing
      · exact ⟨[_], { Acts.refl env cell with sends := fun _ _ => .inl hfn }, rfl⟩
    | maReply =>
      dsimp only
      split
      · exact hnothing
      · rename_i req _
        refine ⟨[req.envelope],
          { Acts.refl env cell with sends := fun e he => .inr ⟨hfn, ?_⟩ }, rfl⟩
        rw [List.mem_singleton.mp he]
        simp [ReplyRequest.envelope]
    | maSetState =>
      exact ⟨[], { Acts.refl env cell with state := fun hno => absurd hfn hno },
        (List.append_nil _).symm⟩
    | maCreateEntity =>
      dsimp only
      split
      · exact hnothing
      · refine ⟨[], { Acts.refl env cell with creates := ⟨[_], rfl, fun req hreq => ?_⟩ },
          (List.append_nil _).symm⟩
        rw [List.mem_singleton.mp hreq]
        exact ⟨hfn, rfl, io.calls, rfl⟩
    | maDeleteEntity =>
      dsimp only
      split
      · exact ⟨[], { Acts.refl env cell with deletes := ⟨[_], rfl, fun _ _ => hfn⟩ },
          (List.append_nil _).symm⟩
      · exact hnothing

/-- **A plugin acts within its rights**, whatever its code asks the host for. -/
theorem playExport_acts {n : Nat} {exportName : String} {input : Bytes} {cell cell' : PluginCell}
    {io io' : Io} {result : Except String Bytes}
    (hplay : playExport env n exportName input cell io = (result, cell', io')) :
    ∃ sent, Acts env cell cell' sent ∧ io'.envelopes = io.envelopes ++ outgoing cell sent := by
  obtain ⟨sent, hacts, hsent⟩ := @Lib.Interaction.run_keeps _ _ _ _ (hostFn env)
    (fun s s' : PluginCell × Io => ∃ sent, Acts env s.1 s'.1 sent ∧
      s'.2.envelopes = s.2.envelopes ++ outgoing s.1 sent)
    (fun s => ⟨[], .refl env s.1, (List.append_nil _).symm⟩)
    (fun s1 s2 s3 ⟨sent, h, hs⟩ ⟨sent', h', hs'⟩ => ⟨sent ++ sent', h.trans h', by
      unfold outgoing at hs hs' ⊢
      rw [hs', hs, h.fragment, List.map_append, List.append_assoc]⟩)
    hostFn_acts (env.guest n cell.plugin exportName input) (cell, io)
  unfold playExport at hplay
  simp only [Prod.mk.injEq] at hplay
  obtain ⟨-, rfl, rfl⟩ := hplay
  exact ⟨sent, ⟨hacts.wasm, hacts.hostFns, hacts.fragment, hacts.state, hacts.creates,
    hacts.deletes, hacts.sends⟩, hsent⟩

/-- The entity's plugin is one of the host's, under the entity's name. -/
def IsHosted (ep : EntityPlugin) (p : PluginHost) : Prop :=
  ∀ i, ep.backend = .extism i → i < p.nextCell ∧ (p.cells i).fragment = ep.fragment

theorem lasting_isHosted (ep : EntityPlugin) : Lasting (IsHosted ep) where
  keep hf h i hi := by
    obtain ⟨hlt, hfragment⟩ := h i hi
    exact ⟨Nat.lt_of_lt_of_le hlt hf.nextCell, (hf.fragment i hlt).trans hfragment⟩

theorem Sound.isHosted {p : PluginHost} {name : String} {ep : EntityPlugin}
    (h : Sound env p name ep) : IsHosted ep p ∧ ep.fragment = name := by
  cases h with
  | native h => exact ⟨fun i hi => absurd hi (by simp [newNative]), h.symm⟩
  | extism hnode hkind hbehaviour hlt hwasm hfns hfragment =>
    refine ⟨fun i hi => ?_, rfl⟩
    obtain rfl := EntityBackend.extism.inj hi
    exact ⟨hlt, hfragment⟩

/-- The record of what was started does not matter to an entity. -/
theorem Sound.record {w : World} {started : List (String × KindNode)} {name : String}
    {ep : EntityPlugin} (h : Sound env (w.plugins started) name ep)
    (started' : List (String × KindNode)) : Sound env (w.plugins started') name ep := by
  cases h with
  | native h => exact .native h
  | extism hnode hkind hbehaviour hlt hwasm hfns hfragment =>
    exact .extism hnode hkind hbehaviour hlt hwasm hfns hfragment

/-- What becomes of one cell. -/
theorem plugins_update (w : World) (i : Nat) (cell : PluginCell) (io : Io)
    (started : List (String × KindNode)) :
    World.plugins { rt := { w.rt with cells := Function.update w.rt.cells i cell }, io := io }
        started =
      { w.plugins started with
        cells := Function.update w.rt.cells i cell, envelopes := io.envelopes } := rfl

/-- A call of an export is one step. -/
theorem moves_callExport {ep : EntityPlugin} {i : Nat} (hi : ep.backend = .extism i)
    (hS : S.touches ep.fragment) (exportName : String) (input : Bytes) :
    Proc.Keeps (Moves env S (IsHosted ep)) (callExport env ep i exportName input) := by
  intro g w
  refine Moves.step (lasting_isHosted ep) fun started _ hhosted => ⟨started, ?_⟩
  obtain ⟨hlt, hfragment⟩ := hhosted i hi
  rcases hplay : playExport env w.io.calls exportName input (w.rt.cells i)
    { w.io with calls := w.io.calls + 1 } with ⟨result, cell, io⟩
  rw [callExport_run env ep i exportName input w hplay]
  obtain ⟨sent, hacts, hsent⟩ := playExport_acts hplay
  rw [plugins_update, hsent]
  exact .act hlt (hfragment.symm ▸ hS) hacts

/-- The host settles a plugin in one step. -/
theorem moves_modifyCell {ep : EntityPlugin} {i : Nat} (hi : ep.backend = .extism i)
    (hS : S.touches ep.fragment) {f : PluginCell → PluginCell} (h : ∀ cell, Taken cell (f cell)) :
    Proc.Keeps (Moves env S (IsHosted ep)) (modifyCell i f) := by
  intro g w
  refine Moves.step (lasting_isHosted ep) fun started _ hhosted => ⟨started, ?_⟩
  obtain ⟨hlt, hfragment⟩ := hhosted i hi
  exact .settle (p := w.plugins started) hlt (hfragment.symm ▸ hS) (h _)

theorem moves_takePending {ep : EntityPlugin} {i : Nat} (hi : ep.backend = .extism i)
    (hS : S.touches ep.fragment) : Proc.Keeps (Moves env S (IsHosted ep)) (takePending i) := by
  refine (Proc.keeps_look _).bind fun pending => ?_
  refine (moves_modifyCell hi hS fun cell => ?_).bind fun _ => Proc.keeps_pure _
  exact ⟨rfl, rfl, rfl, .inr rfl, .inl rfl, .inl rfl, .inl rfl⟩

/-- The queues of a plugin are emptied. -/
theorem moves_drain {ep : EntityPlugin} {i : Nat} (hi : ep.backend = .extism i)
    (hS : S.touches ep.fragment) : Proc.Keeps (Moves env S (IsHosted ep))
      (modifyCell i fun cell => { cell with createQueue := [], deleteQueue := [] }) := by
  refine moves_modifyCell hi hS fun cell => ?_
  exact ⟨rfl, rfl, rfl, .inl rfl, .inl rfl, .inr rfl, .inr rfl⟩

theorem moves_dispatchTo {ep : EntityPlugin} (hS : S.touches ep.fragment) (exportName : String)
    (input : CastInput) :
    Proc.Keeps (Moves env S (IsHosted ep)) (dispatchTo env ep exportName input) := by
  unfold dispatchTo
  cases hbackend : ep.backend with
  | native => exact moves_quiet (quiet_schedulerDispatch input)
  | extism i =>
    refine (moves_callExport hbackend hS _ _).bind fun output => ?_
    exact (moves_takePending hbackend hS).bind fun pending => (Proc.keeps_look _).bind fun q =>
      (moves_drain hbackend hS).bind fun _ => Proc.keeps_pure _

theorem moves_dispatch {ep : EntityPlugin} (hS : S.touches ep.fragment) (input : CastInput) :
    Proc.Keeps (Moves env S (IsHosted ep)) (dispatch env ep input) := by
  unfold dispatch
  split
  · exact moves_dispatchTo hS _ input
  · exact moves_dispatchTo hS _ input

theorem moves_markSaved {ep : EntityPlugin} (hS : S.touches ep.fragment) (savedBytes : Bytes) :
    Proc.Keeps (Moves env S (IsHosted ep)) (markSaved ep savedBytes) := by
  unfold markSaved
  cases hbackend : ep.backend with
  | native => exact Proc.keeps_pure _
  | extism i =>
    refine moves_modifyCell hbackend hS fun cell => ?_
    exact ⟨rfl, rfl, rfl, .inl rfl, .inr rfl, .inl rfl, .inl rfl⟩

theorem moves_persistPending {ep : EntityPlugin} (hS : S.touches ep.fragment)
    (pending : Option Bytes) :
    Proc.Keeps (Moves env S (IsHosted ep)) (persistPending env ep pending) := by
  unfold persistPending
  split
  · exact Proc.keeps_pure _
  · refine (moves_quiet (quiet_kuboCall _)).attempt.bind fun r => ?_
    split
    · exact moves_markSaved hS _
    · exact Proc.keeps_pure _

theorem moves_triggerSave {ep : EntityPlugin} (hS : S.touches ep.fragment) :
    Proc.Keeps (Moves env S (IsHosted ep)) (triggerSave env ep) :=
  keeps_triggerSave (fun call => moves_quiet (quiet_kuboCall call))
    (fun _ hi => moves_callExport hi hS _ _) (fun _ hi => moves_takePending hi hS)
    (moves_markSaved hS)

/-! ## Starts -/

/-- The shared state with one more cell. -/
def allocated (rt : Runtime) (cell : PluginCell) : Runtime :=
  { rt with cells := Function.update rt.cells rt.nextCell cell, nextCell := rt.nextCell + 1 }

/-- The channel after some envelopes. -/
theorem plugins_sent (rt : Runtime) {io : Io} {envelopes : List (String × SendEnvelope)}
    (h : io.envelopes = envelopes) (started : List (String × KindNode)) :
    World.plugins { rt := rt, io := io } started =
      { cells := rt.cells, nextCell := rt.nextCell, registry := rt.entityRegistry
        kinds := rt.kindRegistry, envelopes := envelopes, started := started } := by
  subst h
  rfl

/-- `init` and the allocation of the cell are one step. -/
theorem moves_launch (hP : Lasting P) {fragment protocol : String} {node : EntityNode}
    {kindNode : KindNode} {state : Bytes} {cell0 : PluginCell}
    (hkind : Declares env protocol kindNode) (hstarts : S.starts fragment kindNode)
    (hlinked : FreshCell fragment kindNode cell0) {α : Type} (result : Nat → Lifecycle → α) :
    Proc.Keeps (Moves env S P) (do
      let (cell, lifecycle) ← runInit env fragment node kindNode state cell0
      let i ← allocate cell
      pure (result i lifecycle) : M α) := by
  intro g w
  refine Moves.step hP fun started _ _ => ⟨started ++ [(fragment, kindNode)], ?_⟩
  by_cases hinit : kindNode.api.contains "init" = true
  · rcases hplay : playExport env w.io.calls "init"
      (env.codec.encode (InitPayload.toCbor { ctx := initCtx env fragment node, state })) cell0
      { w.io with calls := w.io.calls + 1 } with ⟨answer, cell, io⟩
    obtain ⟨sent, hacts, hsent⟩ := playExport_acts hplay
    have hrun := runInit_run (g := g) hinit hplay
    have hsent : io.envelopes = w.io.envelopes ++ sent.map fun e => (fragment, e) := by
      rw [hsent, outgoing, hlinked.fragment]
    cases answer with
    | error e =>
      rw [Proc.bind_of_err hrun]
      show PluginStep env S _ (World.plugins { rt := w.rt, io := io } _)
      rw [plugins_sent w.rt hsent]
      exact .trap (p := w.plugins started) hkind hstarts hlinked hacts
    | ok output =>
      rw [Proc.bind_of_ok hrun]
      show PluginStep env S _ (World.plugins { rt := allocated w.rt cell, io := io } _)
      rw [plugins_sent (allocated w.rt cell) hsent]
      exact .start (p := w.plugins started) hkind hstarts hlinked hacts
  · rw [Proc.bind_of_ok (runInit_none hinit)]
    show PluginStep env S _ (World.plugins { rt := allocated w.rt cell0, io := w.io } _)
    rw [plugins_sent (allocated w.rt cell0) (List.append_nil w.io.envelopes).symm]
    exact .start (p := w.plugins started) hkind hstarts hlinked (.refl env cell0)

/-- **A load is one step**, if it gets as far as the instance. -/
theorem moves_load (hP : Lasting P) {fragment protocol : String} (node : EntityNode)
    {kindNode : KindNode} (hkind : Declares env protocol kindNode)
    (hstarts : S.starts fragment kindNode) :
    Proc.Keeps (Moves env S P) (load env fragment node kindNode) := by
  unfold load
  split
  · exact Proc.keeps_fail _
  · split
    · exact Proc.keeps_fail _
    · split
      · exact Proc.keeps_fail _
      · refine (moves_quiet ((quiet_kuboCall _).mapErr _)).bind fun wasm => ?_
        refine (moves_quiet (quiet_initState _ _)).bind fun state => ?_
        refine (moves_quiet quiet_nextCall).bind fun n => ?_
        refine (moves_quiet ((Proc.keeps_ofExcept _).mapErr _)).bind fun memory => ?_
        exact moves_launch hP hkind hstarts ⟨rfl, rfl, rfl, rfl, rfl, rfl⟩ _

/-- What `init` leaves of the linked plugin. -/
theorem runInit_acts {fragment : String} {node : EntityNode} {kindNode : KindNode} {state : Bytes}
    {cell0 cell : PluginCell} {lifecycle : Lifecycle} {g : Lib.Guards Lock} {w w' : World}
    (h : runInit env fragment node kindNode state cell0 g w = (.ok (cell, lifecycle), w')) :
    ∃ sent, Acts env cell0 cell sent := by
  by_cases hinit : kindNode.api.contains "init" = true
  · rcases hplay : playExport env w.io.calls "init"
      (env.codec.encode (InitPayload.toCbor { ctx := initCtx env fragment node, state })) cell0
      { w.io with calls := w.io.calls + 1 } with ⟨answer, cell1, io⟩
    obtain ⟨sent, hacts, -⟩ := playExport_acts hplay
    rw [runInit_run hinit hplay] at h
    cases answer with
    | error e => exact absurd (congrArg Prod.fst h) (by simp)
    | ok output =>
      obtain ⟨rfl, -⟩ := Prod.mk.inj (Lib.Outcome.ok.inj (congrArg Prod.fst h))
      exact ⟨sent, hacts⟩
  · rw [runInit_none hinit] at h
    obtain ⟨rfl, -⟩ := Prod.mk.inj (Lib.Outcome.ok.inj (congrArg Prod.fst h))
    exact ⟨[], .refl env cell0⟩

/-- **What is loaded is what the documents say.** -/
theorem tells_load {fragment : String} {node : EntityNode} {kindNode : KindNode}
    (hnode : NodeOrigin env node) (hkind : Declares env node.kind kindNode) :
    Tells env P (load env fragment node kindNode) fun loaded p =>
      Sound env p fragment loaded.1 := by
  intro g w w' started started' loaded hw hpre hrun
  obtain ⟨ep, lifecycle⟩ := loaded
  cases load_run hrun with
  | @run behaviour wasm state memory n i cell lifecycle w1 w2 w3 w4 hbehaviour hwasm hstate hmemory
      hidle hinit hallocate =>
    obtain ⟨sent, hacts⟩ := runInit_acts hinit
    obtain ⟨rfl, rfl⟩ : w3.rt.nextCell = i ∧ { w3 with rt := allocated w3.rt cell } = w' :=
      ⟨Lib.Outcome.ok.inj (congrArg Prod.fst hallocate), congrArg Prod.snd hallocate⟩
    have hcell : Function.update w3.rt.cells w3.rt.nextCell cell w3.rt.nextCell = cell :=
      Function.update_self _ _ _
    refine .extism hnode hkind hbehaviour (Nat.lt_succ_self _) ?_ ?_ ?_
    · exact hwasm.trans (congrArg some (hacts.wasm.symm.trans
        (congrArg (fun cell => cell.plugin.wasm) hcell.symm)))
    · exact (congrArg PluginCell.hostFns hcell).trans hacts.hostFns
    · exact (congrArg PluginCell.fragment hcell).trans hacts.fragment

theorem lasting_sound (name : String) (ep : EntityPlugin) :
    Lasting fun p => Sound env p name ep := ⟨fun hf h => h.endures hf⟩

/-- A loaded plugin is registered. -/
theorem moves_register (hP : Lasting P) {name : String} {ep : EntityPlugin}
    (h : ∀ p, P p → Sound env p name ep) :
    Proc.Keeps (Moves env S P) (writing .entityRegistry (modifyRt fun rt =>
      { rt with entityRegistry := rt.entityRegistry.insert name ep })) := by
  refine Proc.Keeps.holding (fun g w => ?_) _ _
  exact Moves.step hP fun started _ hpre =>
    ⟨started, .register (p := w.plugins started) (h _ hpre)⟩

/-- An entity goes. -/
theorem moves_erase (hP : Lasting P) (name : String) :
    Proc.Keeps (Moves env S P) (writing .entityRegistry (modifyRt fun rt =>
      { rt with entityRegistry := rt.entityRegistry.erase name })) := by
  refine Proc.Keeps.holding (fun g w => ?_) _ _
  exact Moves.step hP fun started _ _ => ⟨started, .erase (p := w.plugins started)⟩

/-- A fact that `P` carries. -/
theorem moves_of_fact {α : Type} {C : Prop} {p : M α} (hC : ∀ q, P q → C)
    (h : C → Proc.Keeps (Moves env S P) p) : Proc.Keeps (Moves env S P) p :=
  fun g w started hw hP => h (hC _ hP) g w started hw hP

/-- A load, and what follows it: the entity loaded is what the documents say. -/
theorem moves_load_bind {α : Type} (hP : Lasting P) {fragment : String} {node : EntityNode}
    {kindNode : KindNode} (hnode : NodeOrigin env node) (hkind : Declares env node.kind kindNode)
    (hstarts : S.starts fragment kindNode) {k : Except Error (EntityPlugin × Lifecycle) → M α}
    (herr : ∀ e, Proc.Keeps (Moves env S P) (k (.error e)))
    (hok : ∀ ep lifecycle, Proc.Keeps (Moves env S fun p => P p ∧ Sound env p fragment ep)
      (k (.ok (ep, lifecycle)))) :
    Proc.Keeps (Moves env S P) ((load env fragment node kindNode).attempt >>= k) := by
  have htells : Tells env P (load env fragment node kindNode).attempt fun r p =>
      ∀ loaded, r = .ok loaded → Sound env p fragment loaded.1 := by
    rintro g w w' started started' r hw hpre hrun loaded rfl
    exact tells_load hnode hkind g w w' started started' _ hw hpre (Proc.attempt_ok hrun)
  refine Moves.bind_tells (moves_load hP node hkind hstarts).attempt htells fun r => ?_
  have hlasting : Lasting fun p => P p ∧ ∀ loaded, r = .ok loaded →
      Sound env p fragment loaded.1 :=
    hP.and ⟨fun hf h loaded hloaded => (h loaded hloaded).endures hf⟩
  cases r with
  | error e => exact moves_of_pre hlasting (fun _ h => h.1) (herr e)
  | ok loaded => exact moves_of_pre hlasting (fun _ h => ⟨h.1, h.2 _ rfl⟩) (hok _ _)

/-- The kind under which an entity of the root manifest starts. -/
inductive StartsFrom (env : Env) (root : Cid) (name : String) : KindNode → Prop where
  | intro {m : RuntimeManifest} {link kindLink : IpldLink} {node : EntityNode} {kindNode : KindNode}
      (hm : env.kubo.manifests.denotes root = some m) (hlink : m.entities[name]? = some link)
      (hnode : env.kubo.entities.denotes link.cid = some node)
      (hkindLink : m.kinds.getProtocol node.kind = some kindLink)
      (hkind : env.kubo.kinds.denotes kindLink.cid = some kindNode) :
      StartsFrom env root name kindNode

/-- An entity of a manifest is loaded. -/
theorem moves_loadEntity (hP : Lasting P) {root : Cid} {m : RuntimeManifest} {name : String}
    {link : IpldLink} (hm : env.kubo.manifests.denotes root = some m)
    (hlink : m.entities[name]? = some link)
    (hstarts : ∀ kindNode, StartsFrom env root name kindNode → S.starts name kindNode) :
    Proc.Keeps (Moves env S P) (loadEntity env m name link) := by
  refine (moves_quiet (quiet_kuboCall _).attempt).bind_run fun r hr => ?_
  split
  · exact Proc.keeps_pure _
  · rename_i node
    obtain ⟨g, w, w', hget⟩ := hr
    have hnode := dagGet_ok (Proc.attempt_ok hget)
    split
    · exact Proc.keeps_pure _
    · rename_i kindLink hkindLink
      refine (moves_quiet (quiet_kuboCall _).attempt).bind_run fun r hr => ?_
      split
      · exact Proc.keeps_pure _
      · rename_i kindNode
        obtain ⟨g', w1, w2, hget⟩ := hr
        have hkind := dagGet_ok (Proc.attempt_ok hget)
        refine moves_load_bind hP (.stored hnode) ⟨root, m, kindLink, hm, hkindLink, hkind⟩
          (hstarts _ (.intro hm hlink hnode hkindLink hkind)) (fun e => Proc.keeps_pure _)
          fun ep lifecycle => ?_
        exact (moves_register (hP.and (lasting_sound _ _)) fun _ h => h.2).bind fun _ =>
          Proc.keeps_pure _

theorem moves_loadEntities (hP : Lasting P) {rootCid : Cid}
    (hstarts : ∀ name kindNode, StartsFrom env rootCid name kindNode → S.starts name kindNode) :
    Proc.Keeps (Moves env S P) (loadEntities env rootCid) := by
  refine (moves_quiet (quiet_kuboCall _).attempt).bind_run fun r hr => ?_
  split
  · exact Proc.keeps_pure _
  · obtain ⟨g, w, w', hget⟩ := hr
    have hm := dagGet_ok (Proc.attempt_ok hget)
    refine Proc.Keeps.fold _ (fun _ e he => ?_) _
    obtain ⟨name, link⟩ := e
    refine (moves_loadEntity hP hm ?_ (hstarts name)).bind fun _ => Proc.keeps_pure _
    exact Std.ExtTreeMap.mem_toList_iff_getElem?_eq_some.mp he

end Exports

end MaRuntime
