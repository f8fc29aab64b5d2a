import MaRuntime.FiniteEnv
import MaRuntime.Lib.Threads

/-!
# Concurrent claims

The status server runs every `POST /claim` in a task of its own. `handleClaim` takes four locks one
after the other and reads and writes the config file in between, so claims interleave between these
actions: `claimStep` is one action, `ClaimStep` one action of one request.

* `handleClaim_alone`: a request that nobody interrupts does what `handleClaim` does.
* `one_claim_wins`: at most one claim is accepted, and it owns the list, the ACL and the file, in
  every interleaving in which no request looks at the owners while another one is about to write
  them.
* `two_claims_win`: in the other interleavings two are.
-/

namespace MaRuntime

open Lib (Proc Run Threads)

/-! ## One request -/

/-- Where a request stands. -/
inductive ClaimPhase where
  | waiting
  /-- It saw no owners. -/
  | unclaimed (configPath : Option String)
  /-- It wrote the owners. -/
  | owning (configPath : Option String)
  /-- It granted them everything in the root ACL. -/
  | granted (configPath : Option String)
  /-- It read the config file and put the owners into what it read. -/
  | saving (config : Config)
  | answered (r : ClaimResponse)
  deriving DecidableEq

namespace ClaimPhase

/-- The request got its answer. -/
def isAnswered : ClaimPhase → Bool
  | .answered _ => true
  | _ => false

/-- The request saw no owners and has yet to write them. -/
def isUnclaimed : ClaimPhase → Bool
  | .unclaimed _ => true
  | _ => false

end ClaimPhase

/-- The config with the owners put in, for the file at `path`. -/
def Config.ownedAt (config : Config) (path : String) (owners : List String) : Config :=
  { config with
    configPath := some path, extra := config.extra.insert "owners" (Yaml.strings owners) }

/-- `persist_owners_to_config` up to its save. -/
def ownedConfig (env : Env) (path : String) (owners : List String) : M Config := do
  let file ← getRt fun rt => rt.files[path]?
  let config ← Proc.ofExcept (file.getD env.emptyConfig)
  pure (config.ownedAt path owners)

/-- The next action of a request. -/
def claimStep (env : Env) (owner : String) : ClaimPhase → M ClaimPhase
  | .waiting => do
    let (owners, configPath) ← readStats fun s => (s.owners, s.configPath)
    pure (if !owners.isEmpty then .answered .alreadyClaimed else .unclaimed configPath)
  | .unclaimed configPath => do
    writeStats fun s => { s with owners := [owner] }
    pure (.owning configPath)
  | .owning configPath => do
    grantOwnersInAcl [owner]
    pure (.granted configPath)
  | .granted none => pure (.answered (.claimed [owner]))
  | .granted (some path) => do
    match ← (ownedConfig env path [owner]).attempt with
    | .ok config => pure (.saving config)
    | .error _ => pure (.answered (.claimed [owner]))
  | .saving config => do
    let _ ← (saveConfig env config).attempt
    pure (.answered (.claimed [owner]))
  | .answered r => pure (.answered r)

/-- What an action does to the shared state. -/
inductive ClaimMove (env : Env) (owner : String) (calls : Nat) (rt : Runtime) :
    ClaimPhase → ClaimPhase → Runtime → Prop where
  | refused (h : rt.stats.owners ≠ []) :
      ClaimMove env owner calls rt .waiting (.answered .alreadyClaimed) rt
  | found (h : rt.stats.owners = []) :
      ClaimMove env owner calls rt .waiting (.unclaimed rt.stats.configPath) rt
  | owned {configPath : Option String} :
      ClaimMove env owner calls rt (.unclaimed configPath) (.owning configPath)
        { rt with stats := { rt.stats with owners := [owner] } }
  | granted {configPath : Option String} :
      ClaimMove env owner calls rt (.owning configPath) (.granted configPath)
        { rt with rootAcl := grantOwners rt.rootAcl [owner] }
  | unread {configPath : Option String}
      (h : ∀ path, configPath = some path → ∃ e, rt.files[path]?.getD env.emptyConfig = .error e) :
      ClaimMove env owner calls rt (.granted configPath) (.answered (.claimed [owner])) rt
  | read {path : String} {config : Config}
      (h : rt.files[path]?.getD env.emptyConfig = .ok config) :
      ClaimMove env owner calls rt (.granted (some path))
        (.saving (config.ownedAt path [owner])) rt
  | unsaved {config : Config}
      (h : config.configPath = none ∨ ∃ e, env.writeFile calls = .error e) :
      ClaimMove env owner calls rt (.saving config) (.answered (.claimed [owner])) rt
  | saved {config : Config} {path : String} (h : config.configPath = some path) :
      ClaimMove env owner calls rt (.saving config) (.answered (.claimed [owner]))
        { rt with files := rt.files.insert path (.ok config) }

/-- **Every action ends in the next phase.** -/
theorem claimStep_move (env : Env) (owner : String) {p : ClaimPhase} (w : World)
    (hp : p.isAnswered = false) :
    ∃ p' w', claimStep env owner p [] w = (.ok p', w') ∧
      ClaimMove env owner w.io.calls w.rt p p' w'.rt := by
  cases p with
  | answered r => exact absurd hp (by simp [ClaimPhase.isAnswered])
  | waiting =>
    refine ⟨_, w, rfl, ?_⟩
    by_cases h : w.rt.stats.owners = []
    · simp only [h, List.isEmpty_nil, Bool.not_true, Bool.false_eq_true, if_false]
      exact .found h
    · have hne : w.rt.stats.owners.isEmpty = false := by simpa using h
      simp only [hne, Bool.not_false, if_true]
      exact .refused h
  | unclaimed configPath => exact ⟨_, _, rfl, .owned⟩
  | owning configPath => exact ⟨_, _, rfl, .granted⟩
  | granted configPath =>
    cases configPath with
    | none => exact ⟨_, _, rfl, .unread fun _ h => absurd h (by simp)⟩
    | some path =>
      have hrun : ownedConfig env path [owner] [] w =
          (Proc.ofExcept (w.rt.files[path]?.getD env.emptyConfig) >>= fun config =>
            pure (config.ownedAt path [owner])) [] w := rfl
      unfold claimStep
      cases hfile : w.rt.files[path]?.getD env.emptyConfig with
      | ok config =>
        rw [hfile] at hrun
        exact ⟨_, w, Proc.bind_of_ok (Proc.attempt_of_ok hrun), .read hfile⟩
      | error e =>
        rw [hfile] at hrun
        refine ⟨_, w, Proc.bind_of_ok (Proc.attempt_of_err hrun), .unread fun path' h => ?_⟩
        obtain rfl := Option.some.inj h
        exact ⟨e, hfile⟩
  | saving config =>
    have hsave := saveConfig_sat (g := []) env config w
    unfold claimStep
    rcases hrun : saveConfig env config [] w with ⟨o, w'⟩
    rcases hsave.of_run hrun with ⟨rfl, path, hpath, hrt⟩ | ⟨e, rfl, hidle, hwhy⟩
    · refine ⟨_, w', Proc.bind_of_ok (Proc.attempt_of_ok hrun), ?_⟩
      rw [hrt]
      exact .saved hpath
    · refine ⟨_, w', Proc.bind_of_ok (Proc.attempt_of_err hrun), ?_⟩
      rw [show w'.rt = w.rt from hidle]
      exact .unsaved hwhy

/-! ### Nobody interrupts -/

/-- What is left of `handleClaim` from a phase on. -/
def resume (env : Env) (owner : String) : ClaimPhase → M ClaimResponse
  | .waiting => handleClaim env owner
  | .unclaimed configPath => do
    writeStats fun s => { s with owners := [owner] }
    grantOwnersInAcl [owner]
    persistClaim env configPath [owner]
    pure (.claimed [owner])
  | .owning configPath => do
    grantOwnersInAcl [owner]
    persistClaim env configPath [owner]
    pure (.claimed [owner])
  | .granted configPath => do
    persistClaim env configPath [owner]
    pure (.claimed [owner])
  | .saving config => do
    let _ ← (saveConfig env config).attempt
    pure (.claimed [owner])
  | .answered r => pure r

/-- An action and then the rest is the rest before it. -/
theorem resume_step (env : Env) (owner : String) {p : ClaimPhase} (hp : p.isAnswered = false)
    (w : World) :
    resume env owner p [] w = (claimStep env owner p >>= resume env owner) [] w := by
  cases p with
  | answered r => exact absurd hp (by simp [ClaimPhase.isAnswered])
  | waiting =>
    have hstep : claimStep env owner .waiting [] w = (.ok (if !w.rt.stats.owners.isEmpty then
        .answered .alreadyClaimed else .unclaimed w.rt.stats.configPath), w) := rfl
    rw [Proc.bind_of_ok hstep]
    show handleClaim env owner [] w = _
    unfold handleClaim
    rw [Proc.bind_of_ok (a := (w.rt.stats.owners, w.rt.stats.configPath)) (t := w) rfl]
    dsimp only
    split
    · rfl
    · rfl
  | unclaimed configPath => rfl
  | owning configPath => rfl
  | granted configPath =>
    cases configPath with
    | none => rfl
    | some path =>
      obtain ⟨r, w', hpersist⟩ :=
        (@calm_persistOwnersToConfig [] env path [owner]).frees.attempt_run w
      have hresume : resume env owner (.granted (some path)) [] w = (.ok (.claimed [owner]), w') :=
        Proc.bind_of_ok (Proc.bind_of_ok hpersist)
      have hread : ownedConfig env path [owner] [] w =
          (Proc.ofExcept (w.rt.files[path]?.getD env.emptyConfig) >>= fun config =>
            pure (config.ownedAt path [owner])) [] w := rfl
      have hwhole : persistOwnersToConfig env path [owner] [] w =
          (Proc.ofExcept (w.rt.files[path]?.getD env.emptyConfig) >>= fun config =>
            saveConfig env (config.ownedAt path [owner])) [] w := rfl
      rw [hresume]
      unfold claimStep
      cases hfile : w.rt.files[path]?.getD env.emptyConfig with
      | ok config =>
        rw [hfile] at hread hwhole
        rw [Proc.bind_of_ok (Proc.bind_of_ok (Proc.attempt_of_ok hread))]
        have hsave : (saveConfig env (config.ownedAt path [owner])).attempt [] w = (.ok r, w') := by
          unfold Proc.attempt at hpersist ⊢
          rwa [hwhole] at hpersist
        have hrest : resume env owner (.saving (config.ownedAt path [owner])) [] w =
            (.ok (.claimed [owner]), w') := Proc.bind_of_ok hsave
        exact hrest.symm
      | error e =>
        rw [hfile] at hread hwhole
        rw [Proc.bind_of_ok (Proc.bind_of_ok (Proc.attempt_of_err hread))]
        have hidle : w' = w := by
          rw [Proc.attempt_of_err hwhole] at hpersist
          exact (Prod.mk.inj hpersist).2.symm
        rw [hidle]
        rfl
  | saving config =>
    obtain ⟨r, w', hsave⟩ := (@calm_saveConfig [] env config).frees.attempt_run w
    unfold claimStep
    rw [Proc.bind_of_ok (Proc.bind_of_ok hsave)]
    exact Proc.bind_of_ok hsave

/-! ## Many requests -/

section Race

variable {ι : Type} [DecidableEq ι] {env : Env} {owner : ι → String}

/-- The next action of a request, as a function: it always ends in a phase. -/
def nextClaim (env : Env) (owner : ι → String) (i : ι) (p : ClaimPhase) (w : World) :
    ClaimPhase × World :=
  match claimStep env (owner i) p [] w with
  | (.ok p', w') => (p', w')
  | (_, w') => (p, w')

/-- The requests and the daemon they share. -/
abbrev Claims (ι : Type) := Threads ι World ClaimPhase

/-- One action of one request. -/
abbrev ClaimStep (env : Env) (owner : ι → String) : Claims ι → ι → Claims ι → Prop :=
  Threads.Step (nextClaim env owner) ClaimPhase.isAnswered

/-- An action moves its own request only. -/
theorem claimStep_moves {s s' : Claims ι} {i : ι} (h : ClaimStep env owner s i s') :
    ClaimMove env (owner i) s.shared.io.calls s.shared.rt (s.phase i) (s'.phase i) s'.shared.rt ∧
      ∀ j ≠ i, s'.phase j = s.phase j := by
  obtain ⟨hlive⟩ := h
  obtain ⟨p', w', hrun, hmove⟩ := claimStep_move env (owner i) s.shared hlive
  have hnext : nextClaim env owner i (s.phase i) s.shared = (p', w') := by
    unfold nextClaim
    rw [hrun]
  refine ⟨?_, fun j hj => s.advance_other hj⟩
  rw [Threads.advance_self, hnext]
  show ClaimMove env (owner i) s.shared.io.calls s.shared.rt (s.phase i) p'
    (nextClaim env owner i (s.phase i) s.shared).2.rt
  rw [hnext]
  exact hmove

/-- How many actions a request has left. -/
def ClaimPhase.rank : ClaimPhase → Nat
  | .waiting => 5
  | .unclaimed _ => 4
  | .owning _ => 3
  | .granted _ => 2
  | .saving _ => 1
  | .answered _ => 0

theorem ClaimMove.rank_lt {o : String} {calls : Nat} {rt rt' : Runtime} {p p' : ClaimPhase}
    (h : ClaimMove env o calls rt p p' rt') : p'.rank < p.rank := by
  cases h <;> simp [ClaimPhase.rank]

/-- **A request that nobody interrupts does what `handleClaim` does.** -/
theorem handleClaim_alone (env : Env) (owner : ι → String) (i : ι) :
    ∀ (n : Nat) (s : Claims ι), (s.phase i).rank ≤ n →
      ∃ is s' r, Run (ClaimStep env owner) s is s' ∧ (∀ j ∈ is, j = i) ∧
        s'.phase i = .answered r ∧
        resume env (owner i) (s.phase i) [] s.shared = (.ok r, s'.shared) := by
  intro n
  induction n with
  | zero =>
    intro s hrank
    cases hp : s.phase i with
    | answered r => exact ⟨[], s, r, .nil s, by simp, hp, rfl⟩
    | _ => simp [hp, ClaimPhase.rank] at hrank
  | succ n ih =>
    intro s hrank
    by_cases hlive : (s.phase i).isAnswered = false
    · obtain ⟨p', w', hrun, hmove⟩ := claimStep_move env (owner i) s.shared hlive
      have hnext : nextClaim env owner i (s.phase i) s.shared = (p', w') := by
        unfold nextClaim
        rw [hrun]
      have hphase : (s.advance (nextClaim env owner) i).phase i = p' := by
        rw [Threads.advance_self, hnext]
      have hshared : (s.advance (nextClaim env owner) i).shared = w' := congrArg Prod.snd hnext
      have hlt := hmove.rank_lt
      obtain ⟨is, s', r, hrun', his, hanswer, hrest⟩ :=
        ih (s.advance (nextClaim env owner) i) (by rw [hphase]; omega)
      refine ⟨i :: is, s', r, .cons (.advance hlive) hrun', ?_, hanswer, ?_⟩
      · intro j hj
        rcases List.mem_cons.mp hj with rfl | hj
        · rfl
        · exact his j hj
      · rw [resume_step env (owner i) hlive, Proc.bind_of_ok hrun, ← hrest, hphase, hshared]
    · cases hp : s.phase i with
      | answered r => exact ⟨[], s, r, .nil s, by simp, hp, rfl⟩
      | _ => simp [hp, ClaimPhase.isAnswered] at hlive

/-! ### One winner -/

/-- The request was told that it claimed the runtime. -/
def Wins (s : Claims ι) (i : ι) : Prop := ∃ owners, s.phase i = .answered (.claimed owners)

/-- The files are those of the start, or one more names the owner. -/
def PersistedFor (o : String) (rt0 rt : Runtime) : Prop :=
  rt.files = rt0.files ∨ ∃ path config, rt.files = rt0.files.insert path (.ok config) ∧
    config.extra["owners"]? = some (Yaml.strings [o])

/-- What the winner did so far. -/
inductive ClaimedSoFar (o : String) (rt0 rt : Runtime) : ClaimPhase → Prop where
  | owning {configPath : Option String} (hacl : rt.rootAcl = rt0.rootAcl)
      (hfiles : rt.files = rt0.files) : ClaimedSoFar o rt0 rt (.owning configPath)
  | granted {configPath : Option String} (hacl : rt.rootAcl = grantOwners rt0.rootAcl [o])
      (hfiles : rt.files = rt0.files) : ClaimedSoFar o rt0 rt (.granted configPath)
  | saving {config : Config} (hacl : rt.rootAcl = grantOwners rt0.rootAcl [o])
      (hfiles : rt.files = rt0.files)
      (howners : config.extra["owners"]? = some (Yaml.strings [o])) :
      ClaimedSoFar o rt0 rt (.saving config)
  | answered (hacl : rt.rootAcl = grantOwners rt0.rootAcl [o]) (hfiles : PersistedFor o rt0 rt) :
      ClaimedSoFar o rt0 rt (.answered (.claimed [o]))

/-- The race before and after its decision. -/
inductive Race (owner : ι → String) (rt0 : Runtime) (s : Claims ι) : Prop where
  | undecided (howners : s.shared.rt.stats.owners = [])
      (hacl : s.shared.rt.rootAcl = rt0.rootAcl) (hfiles : s.shared.rt.files = rt0.files)
      (hphase : ∀ j, s.phase j = .waiting ∨ (s.phase j).isUnclaimed = true)
      (hone : ∀ j k, (s.phase j).isUnclaimed = true → (s.phase k).isUnclaimed = true → j = k)
  | won (i : ι) (howners : s.shared.rt.stats.owners = [owner i])
      (hself : ClaimedSoFar (owner i) rt0 s.shared.rt (s.phase i))
      (hothers : ∀ j ≠ i, s.phase j = .waiting ∨ s.phase j = .answered .alreadyClaimed)

/-- A request looks at the owners only while no other one is between its look and its write. -/
def ExclusiveCheck (env : Env) (owner : ι → String) (s : Claims ι) (i : ι) (s' : Claims ι) :
    Prop :=
  (s.phase i = .waiting → ∀ j, (s.phase j).isUnclaimed = false) ∧ ClaimStep env owner s i s'

theorem ClaimedSoFar.step {o : String} {calls : Nat} {rt0 rt rt' : Runtime} {p p' : ClaimPhase}
    (h : ClaimedSoFar o rt0 rt p) (hmove : ClaimMove env o calls rt p p' rt') :
    ClaimedSoFar o rt0 rt' p' ∧ rt'.stats.owners = rt.stats.owners := by
  cases hmove with
  | refused _ => nomatch h
  | found _ => nomatch h
  | owned => nomatch h
  | granted =>
    obtain ⟨hacl, hfiles⟩ := h
    exact ⟨.granted (by rw [hacl]) hfiles, rfl⟩
  | unread _ =>
    cases h with
    | granted hacl hfiles => exact ⟨.answered hacl (.inl hfiles), rfl⟩
  | read hfile =>
    cases h with
    | granted hacl hfiles =>
      exact ⟨.saving hacl hfiles Std.ExtTreeMap.getElem?_insert_self, rfl⟩
  | unsaved _ =>
    cases h with
    | saving hacl hfiles howners => exact ⟨.answered hacl (.inl hfiles), rfl⟩
  | saved hpath =>
    cases h with
    | saving hacl hfiles howners =>
      exact ⟨.answered hacl (.inr ⟨_, _, by rw [hfiles], howners⟩), rfl⟩

/-- **One action keeps the race fair.** -/
theorem race_step {rt0 : Runtime} {s s' : Claims ι} {i : ι} (h : Race owner rt0 s)
    (hstep : ExclusiveCheck env owner s i s') : Race owner rt0 s' := by
  obtain ⟨hexcl, hstep⟩ := hstep
  obtain ⟨hmove, hothers'⟩ := claimStep_moves hstep
  cases h with
  | undecided howners hacl hfiles hphase hone =>
    rcases hphase i with hp | hp
    · -- The request looks, and nobody else is about to write.
      have hnone := hexcl hp
      rw [hp] at hmove
      generalize hp' : s'.phase i = p' at hmove
      generalize hrt' : s'.shared.rt = rt' at hmove
      cases hmove with
      | refused hne => exact absurd howners hne
      | found _ =>
        have hother (j : ι) (hj : j ≠ i) : s'.phase j = .waiting := by
          rw [hothers' j hj]
          rcases hphase j with h | h
          · exact h
          · rw [hnone j] at h
            exact absurd h (by simp)
        refine .undecided (hrt' ▸ howners) (hrt' ▸ hacl) (hrt' ▸ hfiles) (fun j => ?_)
          fun j k hj hk => ?_
        · by_cases hj : j = i
          · rw [hj, hp']
            exact .inr rfl
          · exact .inl (hother j hj)
        · have alone (j : ι) (hj : (s'.phase j).isUnclaimed = true) : j = i := by
            by_contra hne
            rw [hother j hne] at hj
            exact absurd hj (by simp [ClaimPhase.isUnclaimed])
          rw [alone j hj, alone k hk]
    · -- The request writes, and it was the only one to have seen no owners.
      have hother (j : ι) (hj : j ≠ i) : s.phase j = .waiting := by
        rcases hphase j with h | h
        · exact h
        · exact absurd (hone j i h hp) hj
      generalize hold : s.phase i = p at hmove hp
      generalize hp' : s'.phase i = p' at hmove
      generalize hrt' : s'.shared.rt = rt' at hmove
      cases hmove with
      | owned =>
        refine .won i (by rw [hrt']) ?_ fun j hj => .inl ((hothers' j hj).trans (hother j hj))
        rw [hp', hrt']
        exact .owning hacl hfiles
      | _ => exact absurd hp (by simp [ClaimPhase.isUnclaimed])
  | won k howners hself hothers =>
    by_cases hk : i = k
    · subst hk
      obtain ⟨hself', howners'⟩ := hself.step hmove
      exact .won i (howners'.trans howners) hself' fun j hj => by
        rw [hothers' j hj]
        exact hothers j hj
    · have hkeep : s'.phase k = s.phase k := hothers' k (Ne.symm hk)
      rcases hothers i hk with hp | hp
      · rw [hp] at hmove
        generalize hp' : s'.phase i = p' at hmove
        generalize hrt' : s'.shared.rt = rt' at hmove
        cases hmove with
        | refused _ =>
          refine .won k (hrt' ▸ howners) (by rw [hkeep, hrt']; exact hself) fun j hj => ?_
          by_cases hji : j = i
          · rw [hji, hp']
            exact .inr rfl
          · rw [hothers' j hji]
            exact hothers j hj
        | found hnone => exact absurd hnone (by simp [howners])
      · rw [hp] at hmove
        cases hmove

/-- At most one request wins, and all three stores name it. -/
structure OneWinner (owner : ι → String) (rt0 : Runtime) (s : Claims ι) : Prop where
  unique : ∀ i j, Wins s i → Wins s j → i = j
  answer : ∀ i, Wins s i → s.phase i = .answered (.claimed [owner i])
  owners : ∀ i, Wins s i → s.shared.rt.stats.owners = [owner i]
  rootAcl : ∀ i, Wins s i → s.shared.rt.rootAcl = grantOwners rt0.rootAcl [owner i]
  files : ∀ i, Wins s i → PersistedFor (owner i) rt0 s.shared.rt
  /-- Once every request has its answer, one has won. -/
  exists_winner : ι → (∀ i, (s.phase i).isAnswered = true) → ∃ i, Wins s i

theorem Race.oneWinner {rt0 : Runtime} {s : Claims ι} (h : Race owner rt0 s) :
    OneWinner owner rt0 s := by
  cases h with
  | undecided howners hacl hfiles hphase hone =>
    have nobody (i : ι) : ¬ Wins s i := by
      rintro ⟨os, hwin⟩
      rcases hphase i with h | h
      · exact absurd (h.symm.trans hwin) (by simp)
      · rw [hwin] at h
        exact absurd h (by simp [ClaimPhase.isUnclaimed])
    refine ⟨fun i j hi => absurd hi (nobody i), fun i hi => absurd hi (nobody i),
      fun i hi => absurd hi (nobody i), fun i hi => absurd hi (nobody i),
      fun i hi => absurd hi (nobody i), fun i hall => ?_⟩
    have hi := hall i
    rcases hphase i with h | h
    · rw [h] at hi
      exact absurd hi (by simp [ClaimPhase.isAnswered])
    · cases hp : s.phase i <;> simp [hp, ClaimPhase.isUnclaimed, ClaimPhase.isAnswered] at h hi
  | won k howners hself hothers =>
    have isWinner (i : ι) (hi : Wins s i) : i = k := by
      by_contra hne
      obtain ⟨os, hwin⟩ := hi
      rcases hothers i hne with h | h
      · exact absurd (h.symm.trans hwin) (by simp)
      · exact absurd (h.symm.trans hwin) (by simp)
    have outcome (i : ι) (hi : Wins s i) :
        s.phase i = .answered (.claimed [owner i]) ∧
          s.shared.rt.rootAcl = grantOwners rt0.rootAcl [owner i] ∧
          PersistedFor (owner i) rt0 s.shared.rt := by
      obtain rfl := isWinner i hi
      obtain ⟨os, hwin⟩ := hi
      rw [hwin] at hself ⊢
      cases hself with
      | answered hacl hfiles => exact ⟨rfl, hacl, hfiles⟩
    refine ⟨fun i j hi hj => (isWinner i hi).trans (isWinner j hj).symm,
      fun i hi => (outcome i hi).1, fun i hi => ?_, fun i hi => (outcome i hi).2.1,
      fun i hi => (outcome i hi).2.2, fun _ hall => ⟨k, ?_⟩⟩
    · rw [isWinner i hi]
      exact howners
    · have hk := hall k
      generalize hp : s.phase k = p at hself hk
      cases hself with
      | answered hacl hfiles => exact ⟨_, hp⟩
      | _ => exact absurd hk (by simp [ClaimPhase.isAnswered])

/-- **At most one claim wins**, in every interleaving in which each request looks at the owners only
while no other one is between its look and its write: it is told so, and the owner list, the grants
in the root ACL and the config file name it alone. -/
theorem one_claim_wins {s s' : Claims ι} {is : List ι} (hwaiting : ∀ i, s.phase i = .waiting)
    (hunclaimed : s.shared.rt.stats.owners = [])
    (hrun : Run (ExclusiveCheck env owner) s is s') : OneWinner owner s.shared.rt s' := by
  have hstart : Race owner s.shared.rt s := by
    refine .undecided hunclaimed rfl rfl (fun j => .inl (hwaiting j)) fun j k hj => ?_
    rw [hwaiting j] at hj
    exact absurd hj (by simp [ClaimPhase.isUnclaimed])
  exact (hrun.invariant (I := fun t => Race owner s.shared.rt t)
    (fun h hstep => race_step h hstep) hstart).oneWinner

end Race

/-! ## Two requests -/

/-- A config with a file. -/
def filedConfig : Config := { plainConfig with configPath := some "config.yaml" }

/-- The daemon after startup with a config file, unclaimed, and two claims of it. -/
def rivals : Claims (Fin 2) where
  shared := booted ({} : Tables).env filedConfig
    ((∅ : StrMap (Except Error Config)).insert "config.yaml" (.ok filedConfig))
    (fun _ => emptyCell) none []
  phase _ := .waiting

/-- Who they are from. -/
def rival : Fin 2 → String
  | 0 => "did:ma:alice"
  | 1 => "did:ma:mallory"

/-- One action of one of them. -/
def rivalStep (s : Claims (Fin 2)) (i : Fin 2) : Claims (Fin 2) :=
  s.advance (nextClaim ({} : Tables).env rival) i

/-- Neither looks while the other is about to write. -/
def rivalsTakeTurns (s : Claims (Fin 2)) (i : Fin 2) : Bool :=
  !(s.phase i).isAnswered &&
    (s.phase i != .waiting || (!(s.phase 0).isUnclaimed && !(s.phase 1).isUnclaimed))

theorem rivalStep_exclusive (s : Claims (Fin 2)) (i : Fin 2) (h : rivalsTakeTurns s i = true) :
    ExclusiveCheck ({} : Tables).env rival s i (rivalStep s i) := by
  obtain ⟨hlive, hexcl⟩ : (s.phase i).isAnswered = false ∧ (s.phase i = .waiting →
      (s.phase 0).isUnclaimed = false ∧ (s.phase 1).isUnclaimed = false) := by
    simpa [rivalsTakeTurns, imp_iff_not_or] using h
  refine ⟨fun hw j => ?_, .advance hlive⟩
  obtain ⟨h0, h1⟩ := hexcl hw
  match j with
  | 0 => exact h0
  | 1 => exact h1

set_option maxRecDepth 100000

/-- One after the other, the first wins and the second is refused. -/
theorem one_claim_wins_in_turn :
    OneWinner rival rivals.shared.rt ([0, 0, 0, 0, 0, 1].foldl rivalStep rivals) ∧
      ([0, 0, 0, 0, 0, 1].foldl rivalStep rivals).phase 0 = .answered (.claimed ["did:ma:alice"]) ∧
      ([0, 0, 0, 0, 0, 1].foldl rivalStep rivals).phase 1 = .answered .alreadyClaimed := by
  have hrun := Run.of_allowed rivalStep_exclusive rivals [0, 0, 0, 0, 0, 1] (by decide +kernel)
  exact ⟨one_claim_wins (fun _ => rfl) (by decide +kernel) hrun,
    by decide +kernel, by decide +kernel⟩

/-- **Step by step in turns, both win**: the owner list names the second, the root ACL still has the
grant of the first. -/
theorem two_claims_win :
    ∃ s', Run (ClaimStep ({} : Tables).env rival) rivals [0, 1, 0, 1, 0, 1, 0, 1, 0, 1] s' ∧
      (∀ i, s'.phase i = .answered (.claimed [rival i])) ∧
      s'.shared.rt.stats.owners = ["did:ma:mallory"] ∧
      "did:ma:alice" ∈ s'.shared.rt.rootAcl ∧
      ¬ OneWinner rival rivals.shared.rt s' := by
  have hrun := Run.of_allowed (f := rivalStep) (g := fun s i => !(s.phase i).isAnswered)
    (fun s i h => @Threads.Step.advance _ _ _ _ (nextClaim ({} : Tables).env rival) _ _ _
      (by simpa using h))
    rivals [0, 1, 0, 1, 0, 1, 0, 1, 0, 1] (by decide +kernel)
  have hboth : ∀ i, ([0, 1, 0, 1, 0, 1, 0, 1, 0, 1].foldl rivalStep rivals).phase i =
      .answered (.claimed [rival i]) := by decide +kernel
  refine ⟨_, hrun, hboth, by decide +kernel, by decide +kernel, fun h => ?_⟩
  exact absurd (h.unique 0 1 ⟨_, hboth 0⟩ ⟨_, hboth 1⟩) (by decide)

end MaRuntime
