import Mathlib.Data.List.Infix
import MaRuntime.Durability
import MaRuntime.Lib.Threads

/-!
# Two dispatches at once

The event loop and the scheduled jobs dispatch to the same plugin from tasks of their own. A
dispatch runs the export under the plugin's mutex, takes what it queued under the one of the state,
hands it to Kubo, and then marks it as saved.

* `saveSteps_eq`: the actions of a dispatch that nobody interrupts are the dispatch and its save.
* **`newest_snapshot_iff`**: the snapshot that two dispatches leave is the state of the export that
  ran last, unless the earlier one had taken its own state before and is marked after the later one.
* `older_snapshot_stays`: such an interleaving.
-/

namespace MaRuntime

open Lib (Proc Run Sometime Threads sometime_concat)

/-! ## One dispatch -/

/-- Where a dispatch stands. -/
inductive SavePhase where
  | waiting
  /-- The export ran. -/
  | exported (output : Bytes)
  /-- What it queued was taken. -/
  | taken (output : Bytes) (pending : Option Bytes)
  /-- So were its requests. -/
  | drained (result : DispatchResult)
  /-- Kubo has the state. -/
  | added (bytes : Bytes)
  | finished
  deriving DecidableEq

/-- The dispatch is over. -/
def SavePhase.isFinished : SavePhase → Bool
  | .finished => true
  | _ => false

/-- The next action of a dispatch to a stateful plugin, and of the save after it. -/
def saveStep (env : Env) (ep : EntityPlugin) (i : Nat) (input : CastInput) :
    SavePhase → M SavePhase
  | .waiting => do
    let output ← callExport env ep i "handle_call" (env.codec.encode input.toCbor)
    pure (.exported output)
  | .exported output => do
    let pending ← takePending i
    pure (.taken output pending)
  | .taken output pendingState => do
    let (createRequests, deleteRequests) ←
      getRt fun rt => ((rt.cells i).createQueue, (rt.cells i).deleteQueue)
    modifyCell i fun cell => { cell with createQueue := [], deleteQueue := [] }
    pure (.drained { output, pendingState, createRequests, deleteRequests })
  | .drained result =>
    match result.pendingState with
    | none => pure .finished
    | some stateBytes => do
      match ← (dagPut env.kubo.blobs stateBytes).attempt with
      | .ok _ => pure (.added stateBytes)
      | .error _ => pure .finished
  | .added stateBytes => do
    markSaved ep stateBytes
    pure .finished
  | .finished => pure .finished

/-- Some actions in turn. -/
def saveSteps (env : Env) (ep : EntityPlugin) (i : Nat) (input : CastInput) :
    Nat → SavePhase → M Unit
  | 0, _ => pure ()
  | n + 1, p => do
    let p ← saveStep env ep i input p
    saveSteps env ep i input n p

/-- **Nobody interrupts**: the actions in turn are the dispatch and its save. -/
theorem saveSteps_eq {env : Env} {ep : EntityPlugin} {i : Nat} (input : CastInput)
    (hkind : ep.kind = .stateful) (hbackend : ep.backend = .extism i) :
    (do
      let result ← dispatch env ep input
      persistPending env ep result.pendingState) = saveSteps env ep i input 5 .waiting := by
  unfold dispatch handleCall dispatchTo
  simp only [hkind, hbackend]
  rw [Proc.bind_assoc]
  refine Eq.trans ?_ (Proc.bind_assoc _ _ (saveSteps env ep i input 4)).symm
  refine congrArg _ (funext fun output => ?_)
  show _ = saveSteps env ep i input 4 (.exported output)
  rw [Proc.bind_assoc]
  refine Eq.trans ?_ (Proc.bind_assoc (takePending i) _ (saveSteps env ep i input 3)).symm
  refine congrArg _ (funext fun pendingState => ?_)
  show _ = saveSteps env ep i input 3 (.taken output pendingState)
  rw [Proc.bind_assoc]
  refine Eq.trans ?_ (Proc.bind_assoc (getRt _) _ (saveSteps env ep i input 2)).symm
  refine congrArg _ (funext fun (createRequests, deleteRequests) => ?_)
  dsimp only
  rw [Proc.bind_assoc]
  refine Eq.trans ?_ (Proc.bind_assoc (modifyCell i _) _ (saveSteps env ep i input 2)).symm
  refine congrArg _ (funext fun _ => ?_)
  show persistPending env ep pendingState = saveSteps env ep i input 2
    (.drained ⟨output, pendingState, createRequests, deleteRequests⟩)
  cases pendingState with
  | none => rfl
  | some stateBytes =>
    unfold persistPending
    dsimp only
    refine Eq.trans ?_ (Proc.bind_assoc (Proc.attempt _) _ (saveSteps env ep i input 1)).symm
    refine congrArg _ (funext fun r => ?_)
    cases r with
    | error e => rfl
    | ok cid =>
      show markSaved ep stateBytes = (markSaved ep stateBytes >>= fun _ => pure .finished) >>=
        saveSteps env ep i input 0
      funext g w
      rw [Proc.bind_assoc, markSaved_run hbackend, Proc.bind_of_ok (markSaved_run hbackend)]
      rfl

/-! ## What the actions do to the state -/

/-- What an action makes of the state, if its export hands over `b` and Kubo answers. -/
inductive SaveMove (b : Bytes) (ctx : StateCtx) : SavePhase → SavePhase → StateCtx → Prop where
  | exported {output : Bytes} : SaveMove b ctx .waiting (.exported output) (ctx.setState b)
  | taken {output : Bytes} :
      SaveMove b ctx (.exported output) (.taken output ctx.pending) { ctx with pending := none }
  | drained {output : Bytes} {result : DispatchResult} :
      SaveMove b ctx (.taken output result.pendingState) (.drained result) ctx
  | nothing {result : DispatchResult} (h : result.pendingState = none) :
      SaveMove b ctx (.drained result) .finished ctx
  | added {result : DispatchResult} {bytes : Bytes} (h : result.pendingState = some bytes) :
      SaveMove b ctx (.drained result) (.added bytes) ctx
  | marked {bytes : Bytes} : SaveMove b ctx (.added bytes) .finished (ctx.markSaved bytes)

/-- How many actions are behind a dispatch that took something. -/
def SavePhase.rank : SavePhase → Nat
  | .waiting => 0
  | .exported _ => 1
  | .taken _ _ => 2
  | .drained _ => 3
  | .added _ => 4
  | .finished => 5

/-- The dispatch took the bytes and has yet to mark them. -/
def SavePhase.Holds (b : Bytes) : SavePhase → Prop
  | .taken _ pending => pending = some b
  | .drained result => result.pendingState = some b
  | .added bytes => bytes = b
  | _ => False

/-- The dispatch has nothing to mark, if nothing is pending. -/
def SavePhase.Spent : SavePhase → Prop
  | .exported _ => True
  | .taken _ pending => pending = none
  | .drained result => result.pendingState = none
  | .finished => True
  | _ => False

/-- The export queued the bytes, and they are there to be taken, or taken. -/
def Running (b : Bytes) (p : SavePhase) (pending : Option Bytes) : Prop :=
  (∃ output, p = .exported output) ∧ pending = some b ∨ p.Holds b ∧ pending = none

section Moves

variable {b x : Bytes} {ctx ctx' : StateCtx} {p p' : SavePhase}

/-- Bytes that were taken are kept until they are marked. -/
theorem SavePhase.Holds.move (h : p.Holds x) (hmove : SaveMove b ctx p p' ctx') :
    p'.Holds x ∧ ctx' = ctx ∧ p'.rank = p.rank + 1 ∨
      p' = .finished ∧ ctx' = ctx.markSaved x ∧ p.rank = 4 := by
  cases hmove with
  | exported => exact h.elim
  | taken => exact h.elim
  | drained => exact .inl ⟨h, rfl, rfl⟩
  | nothing hnone => exact absurd (hnone.symm.trans h) (by simp)
  | added hsome =>
    have heq := Option.some.inj (hsome.symm.trans h)
    exact .inl ⟨heq, rfl, rfl⟩
  | marked =>
    obtain rfl : _ = x := h
    exact .inr ⟨rfl, rfl, rfl⟩

theorem SavePhase.Holds.rank_lt (h : p.Holds x) : p.rank < 5 := by
  cases p <;> simp_all [SavePhase.Holds, SavePhase.rank]

/-- What is left of a dispatch that finds nothing leaves the state. -/
theorem SavePhase.Spent.move (h : p.Spent) (hpending : ctx.pending = none)
    (hmove : SaveMove b ctx p p' ctx') : p'.Spent ∧ ctx' = ctx := by
  cases hmove with
  | exported => exact h.elim
  | taken => exact ⟨hpending, by rw [← hpending]⟩
  | drained => exact ⟨h, rfl⟩
  | nothing hnone => exact ⟨trivial, rfl⟩
  | added hsome => exact absurd (hsome.symm.trans h) (by simp)
  | marked => exact h.elim

/-- The bytes that were queued go through to their mark. -/
theorem Running.move (h : Running x p ctx.pending) (hmove : SaveMove b ctx p p' ctx') :
    Running x p' ctx'.pending ∧ ctx'.persisted = ctx.persisted ∧ p'.rank = p.rank + 1 ∨
      p' = .finished ∧ ctx'.pending = none ∧ ctx'.persisted = some x ∧ p.rank = 4 := by
  rcases h with ⟨⟨output, rfl⟩, hpending⟩ | ⟨hholds, hpending⟩
  · cases hmove with
    | taken => exact .inl ⟨.inr ⟨hpending, rfl⟩, rfl, rfl⟩
  · rcases hholds.move hmove with ⟨hholds', rfl, hrank⟩ | ⟨rfl, rfl, hrank⟩
    · exact .inl ⟨.inr ⟨hholds', hpending⟩, rfl, hrank⟩
    · exact .inr ⟨rfl, hpending, rfl, hrank⟩

theorem Running.rank (h : Running x p ctx.pending) : 0 < p.rank ∧ p.rank < 5 := by
  rcases h with ⟨⟨output, rfl⟩, -⟩ | ⟨hholds, -⟩
  · exact ⟨Nat.one_pos, by simp [SavePhase.rank]⟩
  · refine ⟨?_, hholds.rank_lt⟩
    cases p <;> simp_all [SavePhase.Holds, SavePhase.rank]

end Moves

/-! ## Two dispatches -/

section Race

variable {ι : Type} [DecidableEq ι]

/-- The next action of a dispatch, as a function: one that fails ends the dispatch. -/
def nextSave (env : Env) (ep : EntityPlugin) (i : Nat) (input : ι → CastInput) (t : ι)
    (p : SavePhase) (w : World) : SavePhase × World :=
  match saveStep env ep i (input t) p [] w with
  | (.ok p', w') => (p', w')
  | (_, w') => (.finished, w')

/-- The dispatches and the daemon they share. -/
abbrev Dispatches (ι : Type) := Threads ι World SavePhase

/-- The state of the plugin. -/
def Dispatches.ctx (s : Dispatches ι) (i : Nat) : StateCtx := (s.shared.rt.cells i).state

/-- One action of one dispatch: its export hands `b` over once, and Kubo takes what it is given. -/
structure SavingStep (env : Env) (ep : EntityPlugin) (i : Nat) (input : ι → CastInput)
    (b : ι → Bytes) (s : Dispatches ι) (t : ι) (s' : Dispatches ι) : Prop where
  step : Threads.Step (nextSave env ep i input) SavePhase.isFinished s t s'
  exports : s.phase t = .waiting →
    (∃ output w, callExport env ep i "handle_call" (env.codec.encode (input t).toCbor) []
      s.shared = (.ok output, w)) ∧
    handedNext env "handle_call" (env.codec.encode (input t).toCbor) i s.shared = [b t]
  adds : ∀ result bytes, s.phase t = .drained result → result.pendingState = some bytes →
    ∃ cid w, dagPut env.kubo.blobs bytes [] s.shared = (.ok cid, w)

/-- **An action moves its own dispatch only**, and the state as it says. -/
theorem SavingStep.move {env : Env} {ep : EntityPlugin} {i : Nat} {input : ι → CastInput}
    {b : ι → Bytes} {s s' : Dispatches ι} {t : ι} (hbackend : ep.backend = .extism i)
    (h : SavingStep env ep i input b s t s') :
    SaveMove (b t) (s.ctx i) (s.phase t) (s'.phase t) (s'.ctx i) ∧
      ∀ u, u ≠ t → s'.phase u = s.phase u := by
  obtain ⟨⟨hlive⟩, hexports, hadds⟩ := h
  refine ⟨?_, fun u hu => s.advance_other hu⟩
  have moved {p' : SavePhase} {w' : World}
      (hrun : saveStep env ep i (input t) (s.phase t) [] s.shared = (.ok p', w'))
      (hmove : SaveMove (b t) (s.ctx i) (s.phase t) p' (w'.rt.cells i).state) :
      SaveMove (b t) (s.ctx i) (s.phase t) ((s.advance (nextSave env ep i input) t).phase t)
        (Dispatches.ctx (s.advance (nextSave env ep i input) t) i) := by
    have hnext : nextSave env ep i input t (s.phase t) s.shared = (p', w') := by
      unfold nextSave
      rw [hrun]
    rw [Threads.advance_self]
    unfold Dispatches.ctx Threads.advance
    rw [hnext]
    exact hmove
  cases hp : s.phase t with
  | waiting =>
    obtain ⟨⟨output, w, hcall⟩, hhanded⟩ := hexports hp
    have hstate := callExport_state hcall
    rw [hhanded] at hstate
    rw [hp] at moved
    refine moved (Proc.bind_of_ok hcall) ?_
    rw [hstate]
    exact .exported
  | exported output =>
    rw [hp] at moved
    refine moved (Proc.bind_of_ok takePending_run) ?_
    rw [World.withCell_self]
    exact .taken
  | taken output pendingState =>
    rw [hp] at moved
    refine @moved (.drained ⟨output, pendingState, (s.shared.rt.cells i).createQueue,
      (s.shared.rt.cells i).deleteQueue⟩) (s.shared.withCell i
        { s.shared.rt.cells i with createQueue := [], deleteQueue := [] }) rfl ?_
    rw [World.withCell_self]
    exact @SaveMove.drained _ _ output ⟨output, pendingState, _, _⟩
  | drained result =>
    rw [hp] at moved
    cases hpending : result.pendingState with
    | none =>
      refine @moved .finished s.shared ?_ (.nothing hpending)
      simp [saveStep, hpending]
    | some bytes =>
      obtain ⟨cid, w, hput⟩ := hadds result bytes hp hpending
      have hidle : w.rt = s.shared.rt := ((calm_dagPut _ _).of_run hput).2
      refine @moved (.added bytes) w ?_ ?_
      · simp only [saveStep, hpending]
        rw [Proc.bind_of_ok (Proc.attempt_of_ok hput)]
        rfl
      · rw [hidle]
        exact .added hpending
  | added bytes =>
    rw [hp] at moved
    refine moved (Proc.bind_of_ok (markSaved_run hbackend)) ?_
    rw [World.withCell_self]
    exact .marked
  | finished => exact absurd hlive (by rw [hp]; decide)

/-! ### Who comes last -/

/-- The first dispatch took what it queued before the export of the other one ran. -/
def TookEarly (first last : ι) (is : List ι) : Prop :=
  Sometime (fun pre => pre.count last = 0 ∧ 2 ≤ pre.count first) is

/-- The last dispatch marked its state before the other one did. -/
def MarkedBefore (first last : ι) (is : List ι) : Prop :=
  Sometime (fun pre => pre.count last = 5 ∧ pre.count first < 5) is

/-- The dispatches, once the first export ran. -/
inductive SaveRace (b : ι → Bytes) (snapshot : Bytes) (first last : ι) (is : List ι)
    (phase : ι → SavePhase) (ctx : StateCtx) : Prop where
  /-- The other one waits. -/
  | alone (hlast : is.count last = 0) (hwaiting : phase last = .waiting)
      (hrank : is.count first = (phase first).rank)
      (hrunning : Running (b first) (phase first) ctx.pending)
      (hsaved : ctx.persisted = some snapshot)
  | aloneSaved (hlast : is.count last = 0) (hwaiting : phase last = .waiting)
      (hrank : is.count first = 5) (hfinished : phase first = .finished)
      (hpending : ctx.pending = none) (hsaved : ctx.persisted = some (b first))
  /-- The second export ran before anything was taken: its state is the one to be taken. -/
  | queued (hlast : 0 < is.count last) (hearly : ¬ TookEarly first last is)
      (hexported : ∀ t, ∃ output, phase t = .exported output)
      (hpending : ctx.pending = some (b last))
  | held (hlast : 0 < is.count last) (hearly : ¬ TookEarly first last is) (t : ι)
      (hholds : (phase t).Holds (b last)) (hspent : ∀ u, u ≠ t → (phase u).Spent)
      (hpending : ctx.pending = none)
  | shared (hlast : 0 < is.count last) (hearly : ¬ TookEarly first last is)
      (hspent : ∀ t, (phase t).Spent) (hpending : ctx.pending = none)
      (hsaved : ctx.persisted = some (b last))
  /-- Each of them has its own state. -/
  | apart (hearly : TookEarly first last is) (hfirst : is.count first = (phase first).rank)
      (hlast : is.count last = (phase last).rank) (hholds : (phase first).Holds (b first))
      (hrunning : Running (b last) (phase last) ctx.pending)
  | firstSaved (hearly : TookEarly first last is) (hfirst : is.count first = 5)
      (hlast : is.count last = (phase last).rank) (hfinished : phase first = .finished)
      (hrunning : Running (b last) (phase last) ctx.pending)
  | lastSaved (hearly : TookEarly first last is) (hbefore : MarkedBefore first last is)
      (hholds : (phase first).Holds (b first)) (hfinished : phase last = .finished)
  | newest (hbefore : ¬ MarkedBefore first last is) (hfinished : ∀ t, phase t = .finished)
      (hsaved : ctx.persisted = some (b last))
  | older (hearly : TookEarly first last is) (hbefore : MarkedBefore first last is)
      (hfinished : ∀ t, phase t = .finished) (hsaved : ctx.persisted = some (b first))

section Step

variable {b : ι → Bytes} {snapshot : Bytes} {first last t : ι} {is : List ι}
  {phase phase' : ι → SavePhase} {ctx ctx' : StateCtx}

theorem count_self : (is ++ [t]).count t = is.count t + 1 := by
  rw [List.count_append, List.count_singleton_self]

theorem count_other {u : ι} (h : t ≠ u) : (is ++ [t]).count u = is.count u := by
  rw [List.count_append, List.count_singleton, if_neg (by simpa using h), Nat.add_zero]

/-- It is too late to take early. -/
theorem not_tookEarly_concat (h : ¬ TookEarly first last is) (hlast : 0 < (is ++ [t]).count last) :
    ¬ TookEarly first last (is ++ [t]) := by
  intro hearly
  rcases sometime_concat.mp hearly with hbefore | ⟨hnone, -⟩
  · exact h hbefore
  · omega

theorem not_tookEarly (h : is.count first < 2) : ¬ TookEarly first last is := by
  rintro ⟨pre, hpre, -, htwo⟩
  have := hpre.sublist.count_le first
  omega

theorem not_markedBefore (h : is.count last < 5) : ¬ MarkedBefore first last is := by
  rintro ⟨pre, hpre, hfive, -⟩
  have := hpre.sublist.count_le last
  omega

theorem no_move_finished {p' : SavePhase} {x : Bytes} (h : SaveMove x ctx .finished p' ctx') :
    False := nomatch h

/-- **One action keeps the race.** -/
theorem SaveRace.step (hne : first ≠ last) (htwo : ∀ t, t = first ∨ t = last)
    (hfresh : ∀ t, b t ≠ snapshot) (hdiff : b first ≠ b last)
    (h : SaveRace b snapshot first last is phase ctx)
    (hmove : SaveMove (b t) ctx (phase t) (phase' t) ctx')
    (hothers : ∀ u, u ≠ t → phase' u = phase u) :
    SaveRace b snapshot first last (is ++ [t]) phase' ctx' := by
  have hpos (h : 0 < is.count last) : 0 < (is ++ [t]).count last := by
    rw [List.count_append]
    omega
  cases h with
  | alone hlast hwaiting hrank hrunning hsaved =>
    rcases htwo t with rfl | rfl
    · have hlast' : (is ++ [t]).count last = 0 := (count_other hne).trans hlast
      have hwaiting' : phase' last = .waiting := (hothers last hne.symm).trans hwaiting
      rcases hrunning.move hmove with ⟨hrunning', hkept, hrank'⟩ | ⟨hfin, hpending, hmarked, hfour⟩
      · exact .alone hlast' hwaiting' (by rw [count_self, hrank, hrank']) hrunning'
          (hkept.trans hsaved)
      · exact .aloneSaved hlast' hwaiting' (by rw [count_self, hrank, hfour]) hfin hpending hmarked
    · -- The second export: its state is another one than the snapshot, so it is queued.
      have hfirst' : phase' first = phase first := hothers first hne
      rw [hwaiting] at hmove
      generalize hp' : phase' t = p' at hmove
      cases hmove with
      | @exported output =>
        have hqueued : ctx.setState (b t) = { ctx with pending := some (b t), dirty := true } := by
          simp [StateCtx.setState, hsaved, Ne.symm (hfresh t)]
        rw [hqueued]
        rcases hrunning with ⟨⟨output', hexported⟩, -⟩ | ⟨hholds, -⟩
        · have hone : is.count first = 1 := by rw [hrank, hexported]; rfl
          refine .queued (by rw [count_self]; omega)
            (not_tookEarly (by rw [count_other hne.symm]; omega)) (fun u => ?_) rfl
          rcases htwo u with rfl | rfl
          · exact ⟨output', hfirst'.trans hexported⟩
          · exact ⟨output, hp'⟩
        · have hearly : TookEarly first t is := by
            refine Sometime.now ⟨hlast, ?_⟩
            rw [hrank]
            cases hp : phase first <;> simp_all [SavePhase.Holds, SavePhase.rank]
          refine .apart (hearly.concat t) ?_ ?_ ?_ ?_
          · rw [count_other hne.symm, hfirst', hrank]
          · rw [count_self, hlast, hp']
            rfl
          · rwa [hfirst']
          · exact .inl ⟨⟨output, hp'⟩, rfl⟩
  | aloneSaved hlast hwaiting hrank hfinished hpending hsaved =>
    rcases htwo t with rfl | rfl
    · rw [hfinished] at hmove
      exact (no_move_finished hmove).elim
    · have hfirst' : phase' first = phase first := hothers first hne
      rw [hwaiting] at hmove
      generalize hp' : phase' t = p' at hmove
      cases hmove with
      | @exported output =>
        have hqueued : ctx.setState (b t) = { ctx with pending := some (b t), dirty := true } := by
          simp [StateCtx.setState, hsaved, hdiff]
        rw [hqueued]
        refine .firstSaved ((Sometime.now ⟨hlast, by omega⟩ : TookEarly first t is).concat t) ?_ ?_
          (hfirst'.trans hfinished) (.inl ⟨⟨output, hp'⟩, rfl⟩)
        · rw [count_other hne.symm, hrank]
        · rw [count_self, hlast, hp']
          rfl
  | queued hlast hearly hexported hpending =>
    obtain ⟨output, hp⟩ := hexported t
    rw [hp] at hmove
    generalize hp' : phase' t = p' at hmove
    cases hmove with
    | taken =>
      refine .held (hpos hlast) (not_tookEarly_concat hearly (hpos hlast)) t ?_ (fun u hu => ?_) rfl
      · rw [hp']
        exact hpending
      · obtain ⟨output', hu'⟩ := hexported u
        rw [hothers u hu, hu']
        trivial
  | held hlast hearly t0 hholds hspent hpending =>
    have hearly' := not_tookEarly_concat hearly (hpos hlast)
    by_cases ht : t = t0
    · subst ht
      have hspent' (u : ι) (hu : u ≠ t) : (phase' u).Spent := by
        rw [hothers u hu]
        exact hspent u hu
      rcases hholds.move hmove with ⟨hholds', rfl, -⟩ | ⟨hfin, rfl, -⟩
      · exact .held (hpos hlast) hearly' t hholds' hspent' hpending
      · refine .shared (hpos hlast) hearly' (fun u => ?_) hpending rfl
        by_cases hu : u = t
        · rw [hu, hfin]
          trivial
        · exact hspent' u hu
    · obtain ⟨hspent', rfl⟩ := (hspent t ht).move hpending hmove
      refine .held (hpos hlast) hearly' t0 ?_ (fun u hu => ?_) hpending
      · rwa [hothers t0 (Ne.symm ht)]
      · by_cases hut : u = t
        · rwa [hut]
        · rw [hothers u hut]
          exact hspent u hu
  | shared hlast hearly hspent hpending hsaved =>
    obtain ⟨hspent', rfl⟩ := (hspent t).move hpending hmove
    refine .shared (hpos hlast) (not_tookEarly_concat hearly (hpos hlast)) (fun u => ?_) hpending
      hsaved
    by_cases hu : u = t
    · rwa [hu]
    · rw [hothers u hu]
      exact hspent u
  | apart hearly hfirst hlast hholds hrunning =>
    have hearly' := hearly.concat t
    rcases htwo t with rfl | rfl
    · have hlast' : (is ++ [t]).count last = (phase' last).rank := by
        rw [count_other hne, hothers last hne.symm, hlast]
      have hphase : phase' last = phase last := hothers last hne.symm
      rcases hholds.move hmove with ⟨hholds', rfl, hrank⟩ | ⟨hfin, rfl, hfour⟩
      · refine .apart hearly' (by rw [count_self, hfirst, hrank]) hlast' hholds' ?_
        rwa [hphase]
      · refine .firstSaved hearly' (by rw [count_self, hfirst, hfour]) hlast' hfin ?_
        rwa [hphase]
    · have hphase : phase' first = phase first := hothers first hne
      have hfirst' : (is ++ [t]).count first = (phase' first).rank := by
        rw [count_other hne.symm, hphase, hfirst]
      rcases hrunning.move hmove with ⟨hrunning', -, hrank⟩ | ⟨hfin, -, -, hfour⟩
      · exact .apart hearly' hfirst' (by rw [count_self, hlast, hrank]) (by rwa [hphase]) hrunning'
      · refine .lastSaved hearly' (Sometime.now ⟨by rw [count_self, hlast, hfour], ?_⟩)
          (by rwa [hphase]) hfin
        rw [hfirst', hphase]
        exact hholds.rank_lt
  | firstSaved hearly hfirst hlast hfinished hrunning =>
    rcases htwo t with rfl | rfl
    · rw [hfinished] at hmove
      exact (no_move_finished hmove).elim
    · have hphase : phase' first = .finished := (hothers first hne).trans hfinished
      have hfirst' : (is ++ [t]).count first = 5 := (count_other hne.symm).trans hfirst
      rcases hrunning.move hmove with ⟨hrunning', -, hrank⟩ | ⟨hfin, -, hmarked, hfour⟩
      · exact .firstSaved (hearly.concat t) hfirst' (by rw [count_self, hlast, hrank]) hphase
          hrunning'
      · refine .newest (fun hbefore => ?_) (fun u => ?_) hmarked
        · rcases sometime_concat.mp hbefore with hbefore | ⟨-, hlt⟩
          · exact not_markedBefore (by omega) hbefore
          · omega
        · rcases htwo u with rfl | rfl
          · exact hphase
          · exact hfin
  | lastSaved hearly hbefore hholds hfinished =>
    rcases htwo t with rfl | rfl
    · have hphase : phase' last = .finished := (hothers last hne.symm).trans hfinished
      rcases hholds.move hmove with ⟨hholds', -, -⟩ | ⟨hfin, rfl, -⟩
      · exact .lastSaved (hearly.concat t) (hbefore.concat t) hholds' hphase
      · refine .older (hearly.concat t) (hbefore.concat t) (fun u => ?_) rfl
        rcases htwo u with rfl | rfl
        · exact hfin
        · exact hphase
    · rw [hfinished] at hmove
      exact (no_move_finished hmove).elim
  | newest hbefore hfinished hsaved =>
    rw [hfinished] at hmove
    exact (no_move_finished hmove).elim
  | older hearly hbefore hfinished hsaved =>
    rw [hfinished] at hmove
    exact (no_move_finished hmove).elim

end Step

/-- **The snapshot that two dispatches leave is the state of the export that ran last, iff** not the
earlier one both took its own state before that export ran and is marked after the later one: in
every interleaving of their actions, whatever the exports hand over and Kubo stores. -/
theorem newest_snapshot_iff {env : Env} {ep : EntityPlugin} {i : Nat} {input : ι → CastInput}
    {b : ι → Bytes} {snapshot : Bytes} {first last : ι} {s s' : Dispatches ι} {is : List ι}
    (hbackend : ep.backend = .extism i) (hne : first ≠ last) (htwo : ∀ t, t = first ∨ t = last)
    (hwaiting : ∀ t, s.phase t = .waiting) (hsnapshot : (s.ctx i).persisted = some snapshot)
    (hfresh : ∀ t, b t ≠ snapshot) (hdiff : b first ≠ b last)
    (hrun : Run (SavingStep env ep i input b) s is s') (hfirst : is.head? = some first)
    (hdone : ∀ t, s'.phase t = .finished) :
    (s'.ctx i).persisted = some (b last) ↔
      ¬ (TookEarly first last is ∧ MarkedBefore first last is) := by
  cases hrun with
  | nil => exact absurd hfirst (by simp)
  | @cons _ s1 _ t is hstep hrest' =>
    obtain rfl : t = first := by simpa using hfirst
    -- the first export
    obtain ⟨hmove, hothers⟩ := hstep.move hbackend
    rw [hwaiting t] at hmove
    generalize hp : s1.phase t = p at hmove
    generalize hctx : s1.ctx i = ctx at hmove
    have hstart : SaveRace b snapshot t last [t] s1.phase (s1.ctx i) := by
      cases hmove with
      | @exported output =>
        have hqueued : (s.ctx i).setState (b t) =
            { s.ctx i with pending := some (b t), dirty := true } := by
          simp [StateCtx.setState, hsnapshot, Ne.symm (hfresh t)]
        rw [hctx, hqueued]
        refine .alone ?_ ((hothers last hne.symm).trans (hwaiting last)) ?_
          (.inl ⟨⟨output, hp⟩, rfl⟩) hsnapshot
        · rw [List.count_singleton, if_neg (by simpa using hne)]
        · rw [List.count_singleton_self, hp]
          rfl
    have hrace := Run.history (I := fun is s => SaveRace b snapshot t last is s.phase (s.ctx i))
      (fun h hstep => by
        obtain ⟨hmove, hothers⟩ := hstep.move hbackend
        exact h.step hne htwo hfresh hdiff hmove hothers) hrest' hstart
    rw [List.singleton_append] at hrace
    cases hrace with
    | alone _ hw => exact absurd (hw.symm.trans (hdone last)) (by simp)
    | aloneSaved _ hw => exact absurd (hw.symm.trans (hdone last)) (by simp)
    | queued _ _ hexported =>
      obtain ⟨output, hp⟩ := hexported t
      exact absurd (hp.symm.trans (hdone t)) (by simp)
    | held _ _ u hholds =>
      rw [hdone u] at hholds
      exact hholds.elim
    | shared _ hearly _ _ hsaved => exact iff_of_true hsaved fun h => hearly h.1
    | apart _ _ _ hholds =>
      rw [hdone t] at hholds
      exact hholds.elim
    | firstSaved _ _ _ _ hrunning =>
      rw [hdone last] at hrunning
      rcases hrunning with ⟨⟨output, hp⟩, -⟩ | ⟨hholds, -⟩
      · exact absurd hp (by simp)
      · exact hholds.elim
    | lastSaved _ _ hholds =>
      rw [hdone t] at hholds
      exact hholds.elim
    | newest hbefore _ hsaved => exact iff_of_true hsaved fun h => hbefore h.2
    | older hearly hbefore _ hsaved =>
      refine iff_of_false (fun h => ?_) fun h => h ⟨hearly, hbefore⟩
      exact hdiff (Option.some.inj (hsaved.symm.trans h))

end Race

/-! ## A note and another one -/

/-- Who dispatches. -/
inductive Dispatcher where
  | rpc
  | scheduled
  deriving DecidableEq

/-- An eager notebook, and Kubo with room for two notes. -/
def pagesEnv : Env :=
  { notesEnv true with
    kubo := { (notesEnv true).kubo with
      blobs := .ofList [("bafynoteswasm", [0]), ("bafynote", [1]), ("bafynotes", [1, 1])]
        ["not found"] } }

/-- Both are about to append a note. -/
def pagesStart : Dispatches Dispatcher where
  shared := started pagesEnv (some "bafyroot") []
  phase _ := .waiting

/-- The notebook after the note of each, if `rpc` comes first. -/
def pages : Dispatcher → Bytes
  | .rpc => [1]
  | .scheduled => [1, 1]

/-- One action. -/
def pagesStep (s : Dispatches Dispatcher) (t : Dispatcher) : Dispatches Dispatcher :=
  s.advance (nextSave pagesEnv notesPlugin 0 fun _ => appendNote) t

/-- The export hands over the notebook, and Kubo takes it. -/
def pagesAllow (s : Dispatches Dispatcher) (t : Dispatcher) : Bool :=
  match s.phase t with
  | .waiting =>
    (callExport pagesEnv notesPlugin 0 "handle_call" (pagesEnv.codec.encode appendNote.toCbor) []
      s.shared).1 = .ok [] &&
    handedNext pagesEnv "handle_call" (pagesEnv.codec.encode appendNote.toCbor) 0 s.shared =
      [pages t]
  | .drained result => result.pendingState.all fun bytes =>
    match (dagPut pagesEnv.kubo.blobs bytes [] s.shared).1 with
    | .ok _ => true
    | _ => false
  | .finished => false
  | _ => true

theorem pagesStep_saving (s : Dispatches Dispatcher) (t : Dispatcher) (h : pagesAllow s t = true) :
    SavingStep pagesEnv notesPlugin 0 (fun _ => appendNote) pages s t (pagesStep s t) := by
  unfold pagesAllow at h
  refine ⟨.advance ?_, fun hp => ?_, fun result bytes hp hpending => ?_⟩
  · cases hp : s.phase t <;> simp_all [SavePhase.isFinished]
  · rw [hp] at h
    simp only [Bool.and_eq_true, decide_eq_true_eq] at h
    exact ⟨⟨_, _, Proc.run_of_outcome h.1⟩, h.2⟩
  · rw [hp] at h
    simp only [hpending, Option.all_some] at h
    rcases hput : dagPut pagesEnv.kubo.blobs bytes [] s.shared with ⟨o, w⟩
    rw [hput] at h
    cases o with
    | ok cid => exact ⟨cid, w, rfl⟩
    | err e => exact absurd h (by simp)
    | stuck => exact absurd h (by simp)

theorem dispatcher_cases (t : Dispatcher) : t = .rpc ∨ t = .scheduled := by
  cases t with
  | rpc => exact .inl rfl
  | scheduled => exact .inr rfl

set_option maxRecDepth 100000

theorem pagesStart_snapshot : (pagesStart.ctx 0).persisted = some [] := by decide +kernel

/-- One after the other. -/
def inTurn : List Dispatcher :=
  [.rpc, .rpc, .rpc, .rpc, .rpc, .scheduled, .scheduled, .scheduled, .scheduled, .scheduled]

/-- The scheduled one between two actions of the other. -/
def inBetween : List Dispatcher :=
  [.rpc, .rpc, .scheduled, .scheduled, .scheduled, .scheduled, .scheduled, .rpc, .rpc, .rpc]

/-- In turn, both notes are in the snapshot. -/
theorem newest_snapshot_iff_inTurn :
    ((inTurn.foldl pagesStep pagesStart).ctx 0).persisted = some [1, 1] := by
  have hrun := Run.of_allowed pagesStep_saving pagesStart inTurn (by decide +kernel)
  have hdone : ∀ t, (inTurn.foldl pagesStep pagesStart).phase t = .finished := by
    intro t
    cases t with
    | rpc => decide +kernel
    | scheduled => decide +kernel
  have hfresh : ∀ t, pages t ≠ [] := by
    intro t
    cases t <;> decide
  have hinits : ∀ pre ∈ inTurn.inits, ¬ (pre.count .scheduled = 5 ∧ pre.count .rpc < 5) := by
    decide
  have hmarked : ¬ MarkedBefore Dispatcher.rpc .scheduled inTurn := by
    rintro ⟨pre, hpre, hmarked⟩
    exact hinits pre ((List.mem_inits pre inTurn).mpr hpre) hmarked
  exact (@newest_snapshot_iff Dispatcher _ pagesEnv notesPlugin 0 (fun _ => appendNote) pages []
    .rpc .scheduled pagesStart _ inTurn rfl (by decide) dispatcher_cases (fun _ => rfl)
    pagesStart_snapshot hfresh (by decide) hrun rfl hdone).mpr fun h => hmarked h.2

/-- **In between, the first note alone is**, though the plugin and Kubo have both: an interleaving
need not leave the snapshot of the export that ran last. -/
theorem older_snapshot_stays :
    ∃ s', Run (SavingStep pagesEnv notesPlugin 0 (fun _ => appendNote) pages) pagesStart
      inBetween s' ∧
      (∀ t, s'.phase t = .finished) ∧ inBetween.head? = some .rpc ∧
      (s'.ctx 0).persisted = some (pages .rpc) ∧ (s'.ctx 0).persisted ≠ some (pages .scheduled) ∧
      (s'.shared.rt.cells 0).plugin.memory = pages .scheduled := by
  have hrun := Run.of_allowed pagesStep_saving pagesStart inBetween (by decide +kernel)
  refine ⟨_, hrun, fun t => ?_, rfl, by decide +kernel, by decide +kernel, by decide +kernel⟩
  cases t with
  | rpc => decide +kernel
  | scheduled => decide +kernel

end MaRuntime
