import MaRuntime.ClaimRace
import MaRuntime.Crud.Effect

/-!
# The two writers of the config file

A claim reads the config file, puts the owners in and writes it back. A CRUD SET of a daemon key
writes the shared config, which startup read once, over the same file. `ConfigStep` interleaves the
actions of a claim that gets through with the SETs.

* `FollowsWrites`: the shared config holds the last written values, and so does the file or what the
  claim read from it.
* `claim_persists`: the claim and the writes end up in the file if every value has its key's type
  and no SET comes after the claim read the file.
* `claim_overwritten`: the first SET after the claim takes the owners out again.
-/

namespace MaRuntime

open Lib (Cbor Proc Run)

/-! ## Runs -/

/-- The daemon and the one claim. -/
abbrev Claimed := World × ClaimPhase

/-- An action of the claim, or a SET of a daemon key. -/
inductive ConfigEvent where
  | claim
  | set (message : Message) (key : String) (value : Cbor)

/-- One event. The claim gets through: it finds no owners, and what it reads is a config. -/
inductive ConfigStep (env : Env) (owner : String) : Claimed → ConfigEvent → Claimed → Prop where
  | claim {w w' : World} {p p' : ClaimPhase} (hlive : p.isAnswered = false)
      (hrun : claimStep env owner p [] w = (.ok p', w')) (hfree : p' ≠ .answered .alreadyClaimed)
      (hread : ∀ configPath, p = .granted configPath → ∃ config, p' = .saving config) :
      ConfigStep env owner (w, p) .claim (w', p')
  | set {w w' : World} {p : ClaimPhase} {message : Message} {key : String} {value : Cbor}
      (hkey : daemonConfigKeys.contains key = true)
      (hreq : crudRequest env message = some ("config", [key], .put [value]))
      (hrun : crudTurn env message [] w = (.ok (), w')) :
      ConfigStep env owner (w, p) (.set message key value) (w', p)

/-- The daemon keys written so far, with their last values. -/
def lastWritten (written : StrMap Yaml) : ConfigEvent → StrMap Yaml
  | .claim => written
  | .set _ key value => written.insert key (cborToYaml value)

/-- A config has the written values. -/
def Config.HoldsAll (config : Config) (written : StrMap Yaml) : Prop :=
  ∀ key val, written[key]? = some val → daemonConfigKeyValue config key = val

/-- The config file names the owner and has the written values. -/
def ClaimPersisted (path owner : String) (written : StrMap Yaml) (rt : Runtime) : Prop :=
  ∃ config, rt.files[path]? = some (.ok config) ∧
    config.extra["owners"]? = some (Yaml.strings [owner]) ∧ config.HoldsAll written

/-- A restart reads the owner back. -/
theorem ClaimPersisted.resolvedOwners {path owner : String} {written : StrMap Yaml} {rt : Runtime}
    (h : ClaimPersisted path owner written rt) :
    ∃ config, rt.files[path]? = some (.ok config) ∧ resolvedOwners config [] = [owner] := by
  obtain ⟨config, hfile, howner, -⟩ := h
  refine ⟨config, hfile, ?_⟩
  unfold MaRuntime.resolvedOwners
  simp only [howner, Yaml.strings, List.foldl_nil, Yaml.filterMap_asStr_strings]

/-- When an event leaves the claim alone: a SET has a value of its key's type, and it comes before
the claim reads the file, or after it wrote it with a shared config that names the owner as well. -/
def LeavesClaim (owner : String) (s : Claimed) : ConfigEvent → Prop
  | .claim => True
  | .set _ key value => daemonKeyTakes (cborToYaml value) key = true ∧
    match s.2 with
    | .saving _ => False
    | .answered _ => s.1.rt.sharedConfig.extra["owners"]? = some (Yaml.strings [owner])
    | _ => True

/-- An event that leaves the claim alone. -/
def QuietStep (env : Env) (owner : String) (s : Claimed) (e : ConfigEvent) (s' : Claimed) : Prop :=
  LeavesClaim owner s e ∧ ConfigStep env owner s e s'

/-! ## A SET of a daemon key -/

theorem Config.HoldsAll.insert {config : Config} {written : StrMap Yaml}
    (h : config.HoldsAll written) {key : String} {val : Yaml}
    (hkey : daemonConfigKeys.contains key = true) (hval : daemonKeyTakes val key = true) :
    (setDaemonConfigKey config val key).HoldsAll (written.insert key val) := by
  intro key' val' hget
  by_cases hk : key' = key
  · subst hk
    rw [Std.ExtTreeMap.getElem?_insert_self] at hget
    obtain rfl := Option.some.inj hget
    exact daemonConfigKeyValue_set_self config hkey hval
  · rw [getElem?_insert_of_ne hk] at hget
    rw [daemonConfigKeyValue_set_other config val hkey hk]
    exact h key' val' hget

/-- The owners are no daemon key. -/
theorem Config.HoldsAll.ownedAt {config : Config} {written : StrMap Yaml}
    (h : config.HoldsAll written) (path : String) (owners : List String) :
    (config.ownedAt path owners).HoldsAll written := by
  intro key val hget
  rw [← h key val hget]
  unfold daemonConfigKeyValue
  split <;> rfl

/-- The state after a SET of a daemon key, with the config file at `path`. -/
def Runtime.withDaemonKey (rt : Runtime) (path key : String) (val : Yaml) : Runtime :=
  { rt with
    sharedConfig := setDaemonConfigKey rt.sharedConfig val key
    files := rt.files.insert path (.ok (setDaemonConfigKey rt.sharedConfig val key)) }

/-- Where files can be written, a daemon key gets to the file. -/
theorem writeDaemonKey_saved {env : Env} (hwrite : ∀ n, env.writeFile n = .ok ()) {w : World}
    {path key : String} {val : Yaml} (hpath : w.rt.sharedConfig.configPath = some path) :
    (writeDaemonKey env key val).Sat [] w fun o w' =>
      o = .ok () ∧ w'.rt = w.rt.withDaemonKey path key val := by
  have hpath' : (setDaemonConfigKey w.rt.sharedConfig val key).configPath = some path := by
    rw [(setDaemonConfigKey_rest _ val key).1, hpath]
  generalize hw1 : ({ w with rt := { w.rt with
    sharedConfig := setDaemonConfigKey w.rt.sharedConfig val key } } : World) = w1
  have hset : writing .sharedConfig (modifyRt fun rt =>
      { rt with sharedConfig := setDaemonConfigKey rt.sharedConfig val key }) [] w =
        (.ok (), w1) := by
    rw [← hw1]
    rfl
  have hread : (reading .sharedConfig do saveConfig env (← getRt fun rt => rt.sharedConfig)) [] w1 =
      saveConfig env (setDaemonConfigKey w.rt.sharedConfig val key)
        [(.sharedConfig, .read)] w1 := by
    rw [← hw1]
    rfl
  have hsave := saveConfig_sat (g := [(.sharedConfig, .read)]) env
    (setDaemonConfigKey w.rt.sharedConfig val key) w1
  refine Proc.sat_bind_of_ok hset ?_
  rcases hrun : saveConfig env (setDaemonConfigKey w.rt.sharedConfig val key)
    [(.sharedConfig, .read)] w1 with ⟨o, w'⟩
  rw [hrun] at hread
  rcases hsave.of_run hrun with ⟨rfl, path', hp, hrt⟩ | ⟨e, -, -, hnone | ⟨e', he⟩⟩
  · obtain rfl : path' = path := Option.some.inj (hp.symm.trans hpath')
    refine Proc.sat_bind_of_ok (Proc.attempt_of_ok hread) ⟨rfl, ?_⟩
    rw [Proc.pure_run, hrt, ← hw1]
    rfl
  · exact absurd (hnone.symm.trans hpath') (by simp)
  · exact absurd (he.symm.trans (hwrite _)) (by simp)

/-- **What a successful SET of a daemon key does.** -/
theorem daemonSet_run {env : Env} (hwrite : ∀ n, env.writeFile n = .ok ()) {w w' : World}
    {message : Message} {path key : String} {value : Cbor}
    (hpath : w.rt.sharedConfig.configPath = some path)
    (hkey : daemonConfigKeys.contains key = true)
    (hreq : crudRequest env message = some ("config", [key], .put [value]))
    (hrun : crudTurn env message [] w = (.ok (), w')) :
    w'.rt = w.rt.withDaemonKey path key (cborToYaml value) := by
  rcases crudTurn_cases env message w with ⟨-, hturn⟩ | ⟨e, hturn⟩
  · rcases dispatchManagement_cases env message w with ⟨ns, rest, args, hreq', hns⟩ | ⟨hnone, -⟩
    · obtain ⟨rfl, rfl, rfl⟩ : "config" = ns ∧ [key] = rest ∧ Args.put [value] = args := by
        simpa [hreq] using hreq'
      have hhandler : (do
          writeDaemonKey env key (cborToYaml value)
          sendCrudReply env message .ok : M Unit) [] w = (.ok (), w') := by
        rw [← hrun, hturn, hns]
        show _ = handleConfigNs env message [key] (.put [value]) [] w
        unfold handleConfigNs handleConfigNsWith
        simp only [isProtectedConfigKey_daemon hkey, hkey, Bool.false_eq_true, if_false, if_true]
      have hsat : (do
          writeDaemonKey env key (cborToYaml value)
          sendCrudReply env message .ok : M Unit).Sat [] w fun _ w2 =>
            w2.rt = w.rt.withDaemonKey path key (cborToYaml value) := by
        refine Proc.sat_bind ((writeDaemonKey_saved hwrite hpath).mono fun o w1 ⟨ho, h1⟩ => ?_)
        subst ho
        exact (calm_sendCrudReply message .ok).sat fun _ w2 _ h2 =>
          (show w2.rt = w1.rt from h2).trans h1
      exact hsat.of_run hhandler
    · exact absurd (hreq.symm.trans hnone) (by simp)
  · exact absurd (hrun.symm.trans hturn) (by simp)

/-! ## The invariant -/

/-- Where the file stands, by what the claim did so far. -/
inductive FileFollows (env : Env) (path owner : String) (written : StrMap Yaml) (rt : Runtime) :
    ClaimPhase → Prop where
  | before {p : ClaimPhase} (hp : p = .waiting ∨ p = .unclaimed (some path) ∨
        p = .owning (some path) ∨ p = .granted (some path))
      (hfile : ∀ config, rt.files[path]?.getD env.emptyConfig = .ok config →
        config.HoldsAll written) : FileFollows env path owner written rt p
  | saving {config : Config} (hpath : config.configPath = some path)
      (howner : config.extra["owners"]? = some (Yaml.strings [owner]))
      (hkeys : config.HoldsAll written) : FileFollows env path owner written rt (.saving config)
  | answered {r : ClaimResponse} (h : ClaimPersisted path owner written rt) :
      FileFollows env path owner written rt (.answered r)

/-- The config path stays, the shared config has the written values, and the file follows. -/
structure FollowsWrites (env : Env) (path owner : String) (s : Claimed) (written : StrMap Yaml) :
    Prop where
  statsPath : s.1.rt.stats.configPath = some path
  sharedPath : s.1.rt.sharedConfig.configPath = some path
  shared : s.1.rt.sharedConfig.HoldsAll written
  file : FileFollows env path owner written s.1.rt s.2

/-- An action of the claim keeps the invariant. -/
theorem claim_follows {env : Env} (hwrite : ∀ n, env.writeFile n = .ok ()) {path owner : String}
    {written : StrMap Yaml} {w w' : World} {p p' : ClaimPhase}
    (h : FollowsWrites env path owner (w, p) written)
    (hmove : ClaimMove env owner w.io.calls w.rt p p' w'.rt)
    (hfree : p' ≠ .answered .alreadyClaimed)
    (hread : ∀ configPath, p = .granted configPath → ∃ config, p' = .saving config) :
    FollowsWrites env path owner (w', p') written := by
  obtain ⟨hstats, hpath, hshared, hfile⟩ := h
  dsimp only at hstats hpath hshared hfile
  generalize hrt : w'.rt = rt' at hmove
  cases hmove with
  | refused _ => exact absurd rfl hfree
  | found _ =>
    cases hfile with
    | before hp hfile =>
      exact ⟨hrt ▸ hstats, hrt ▸ hpath, hrt ▸ hshared, .before (.inr (.inl (by rw [hstats])))
        (hrt ▸ hfile)⟩
  | owned =>
    cases hfile with
    | before hp hfile =>
      obtain rfl : _ = some path := by simpa using hp
      exact ⟨hrt ▸ hstats, hrt ▸ hpath, hrt ▸ hshared, .before (.inr (.inr (.inl rfl)))
        (hrt ▸ hfile)⟩
  | granted =>
    cases hfile with
    | before hp hfile =>
      obtain rfl : _ = some path := by simpa using hp
      exact ⟨hrt ▸ hstats, hrt ▸ hpath, hrt ▸ hshared, .before (.inr (.inr (.inr rfl)))
        (hrt ▸ hfile)⟩
  | unread _ =>
    obtain ⟨config, hc⟩ := hread _ rfl
    exact absurd hc (by simp)
  | read hget =>
    cases hfile with
    | before hp hfile =>
      obtain rfl : _ = path := by simpa using hp
      exact ⟨hrt ▸ hstats, hrt ▸ hpath, hrt ▸ hshared,
        .saving rfl Std.ExtTreeMap.getElem?_insert_self ((hfile _ hget).ownedAt _ _)⟩
  | unsaved hwhy =>
    cases hfile with
    | before hp _ => exact absurd hp (by simp)
    | saving hcpath _ _ =>
      rcases hwhy with hnone | ⟨e, he⟩
      · exact absurd (hnone.symm.trans hcpath) (by simp)
      · exact absurd (he.symm.trans (hwrite _)) (by simp)
  | saved hcpath' =>
    cases hfile with
    | before hp _ => exact absurd hp (by simp)
    | saving hcpath howner hkeys =>
      obtain rfl := Option.some.inj (hcpath'.symm.trans hcpath)
      refine ⟨hrt ▸ hstats, hrt ▸ hpath, hrt ▸ hshared, .answered ⟨_, ?_, howner, hkeys⟩⟩
      show w'.rt.files[_]? = _
      rw [hrt]
      exact Std.ExtTreeMap.getElem?_insert_self

/-- A SET that leaves the claim alone keeps the invariant. -/
theorem set_follows {env : Env} {path owner : String} {written : StrMap Yaml} {w w' : World}
    {p : ClaimPhase} {message : Message} {key : String} {value : Cbor}
    (h : FollowsWrites env path owner (w, p) written)
    (hkey : daemonConfigKeys.contains key = true)
    (hleaves : LeavesClaim owner (w, p) (.set message key value))
    (hrt : w'.rt = w.rt.withDaemonKey path key (cborToYaml value)) :
    FollowsWrites env path owner (w', p) (written.insert key (cborToYaml value)) := by
  obtain ⟨hstats, hpath, hshared, hfile⟩ := h
  obtain ⟨htype, hwhen⟩ := hleaves
  dsimp only at hstats hpath hshared hfile hwhen
  have hrest := setDaemonConfigKey_rest w.rt.sharedConfig (cborToYaml value) key
  have hholds := hshared.insert hkey htype
  have hget : w'.rt.files[path]? =
      some (.ok (setDaemonConfigKey w.rt.sharedConfig (cborToYaml value) key)) := by
    rw [hrt]
    exact Std.ExtTreeMap.getElem?_insert_self
  refine ⟨?_, ?_, ?_, ?_⟩
  · show w'.rt.stats.configPath = _
    rw [hrt]
    exact hstats
  · show w'.rt.sharedConfig.configPath = _
    rw [hrt]
    exact hrest.1.trans hpath
  · show w'.rt.sharedConfig.HoldsAll _
    rw [hrt]
    exact hholds
  · cases hfile with
    | before hp _ =>
      refine .before hp fun config hconfig => ?_
      rw [hget] at hconfig
      obtain rfl : _ = config := by simpa using hconfig
      exact hholds
    | saving _ _ _ => exact hwhen.elim
    | answered _ => exact .answered ⟨_, hget, by rw [hrest.2]; exact hwhen, hholds⟩

/-- **One event keeps the invariant.** -/
theorem configStep_follows {env : Env} (hwrite : ∀ n, env.writeFile n = .ok ())
    {path owner : String} {s s' : Claimed} {e : ConfigEvent} {written : StrMap Yaml}
    (hstep : QuietStep env owner s e s')
    (h : FollowsWrites env path owner s written) :
    FollowsWrites env path owner s' (lastWritten written e) := by
  obtain ⟨hleaves, hstep⟩ := hstep
  cases hstep with
  | @claim w w' p p' hlive hrun hfree hread =>
    obtain ⟨p1, w1, hrun1, hmove⟩ := claimStep_move env owner w hlive
    obtain ⟨rfl, rfl⟩ : p1 = p' ∧ w1 = w' := by simpa [hrun] using hrun1.symm
    exact claim_follows hwrite h hmove hfree hread
  | set hkey hreq hrun =>
    exact set_follows h hkey hleaves (daemonSet_run hwrite h.sharedPath hkey hreq hrun)

/-- **A persisted claim is not overwritten**, and neither is a daemon key, by runs in which every
value has its key's type and no SET comes after the claim read the config file, unless the claim is
through and the shared config names the owner too. -/
theorem claim_persists {env : Env} (hwrite : ∀ n, env.writeFile n = .ok ()) {path owner : String}
    {s s' : Claimed} {es : List ConfigEvent} {r : ClaimResponse} (hwaiting : s.2 = .waiting)
    (hstats : s.1.rt.stats.configPath = some path)
    (hshared : s.1.rt.sharedConfig.configPath = some path)
    (hrun : Run (QuietStep env owner) s es s')
    (hdone : s'.2 = .answered r) :
    ClaimPersisted path owner (es.foldl lastWritten ∅) s'.1.rt := by
  have hstart : FollowsWrites env path owner s ∅ := by
    refine ⟨hstats, hshared, fun _ _ h => absurd h (by simp), ?_⟩
    rw [hwaiting]
    exact .before (.inl rfl) fun _ _ _ _ h => absurd h (by simp)
  have hstep : ∀ s e s' written, QuietStep env owner s e s' →
      FollowsWrites env path owner s written →
        FollowsWrites env path owner s' (lastWritten written e) :=
    fun _ _ _ _ hstep h => configStep_follows hwrite hstep h
  have hend := hrun.refines hstep hstart
  have hfile := hend.file
  rw [hdone] at hfile
  cases hfile with
  | before hp _ => exact absurd hp (by simp)
  | answered h => exact h

/-! ## Two runs -/

/-- The next state, as a function. -/
def configNext (env : Env) (owner : String) (s : Claimed) : ConfigEvent → Claimed
  | .claim =>
    let (p, w) := nextClaim env (fun _ : Unit => owner) () s.2 s.1
    (w, p)
  | .set message _ _ => ((crudTurn env message [] s.1).2, s.2)

/-- The guards of `ConfigStep`. -/
def configAllowed (env : Env) (owner : String) (s : Claimed) : ConfigEvent → Bool
  | .claim =>
    let p := (configNext env owner s .claim).2
    !s.2.isAnswered && p != .answered .alreadyClaimed &&
      match s.2, p with
      | .granted _, .saving _ => true
      | .granted _, _ => false
      | _, _ => true
  | .set message key value =>
    daemonConfigKeys.contains key &&
      crudRequest env message == some ("config", [key], .put [value]) &&
      match (crudTurn env message [] s.1).1 with
      | .ok _ => true
      | _ => false

theorem configStep_of_allowed {env : Env} {owner : String} (s : Claimed) (e : ConfigEvent)
    (h : configAllowed env owner s e = true) :
    ConfigStep env owner s e (configNext env owner s e) := by
  obtain ⟨w, p⟩ := s
  cases e with
  | claim =>
    simp only [configAllowed, Bool.and_eq_true, Bool.not_eq_true', bne_iff_ne] at h
    obtain ⟨⟨hlive, hfree⟩, hread⟩ := h
    obtain ⟨p', w', hrun, hmove⟩ := claimStep_move env owner w hlive
    have hnext : configNext env owner (w, p) .claim = (w', p') := by
      unfold configNext nextClaim
      rw [hrun]
    rw [hnext] at hfree hread ⊢
    refine .claim hlive hrun hfree fun configPath hp => ?_
    subst hp
    cases p' with
    | saving config => exact ⟨config, rfl⟩
    | _ => exact absurd hread (by simp)
  | set message key value =>
    simp only [configAllowed, Bool.and_eq_true, beq_iff_eq] at h
    obtain ⟨⟨hkey, hreq⟩, hok⟩ := h
    refine .set hkey hreq ?_
    rcases hrun : crudTurn env message [] w with ⟨o, w'⟩
    rw [hrun] at hok
    cases o with
    | ok u => rfl
    | _ => exact absurd hok (by simp)

/-- The unclaimed daemon, and the claim of `did:ma:alice`. -/
def unclaimed : Claimed := (rivals.shared, .waiting)

/-- A SET of `log_level`, by the owner. -/
def setLogLevel : ConfigEvent :=
  .set (crudMessage "did:ma:alice" ":config.log_level" (.text "debug")) "log_level" (.text "debug")

/-- An allowed event that leaves the claim alone: a SET has a typed value and comes before the claim
reads the file. -/
def leavesUnread (s : Claimed) (e : ConfigEvent) : Bool :=
  configAllowed ({} : Tables).env "did:ma:alice" s e &&
    match e, s.2 with
    | .claim, _ => true
    | .set _ _ _, .saving _ => false
    | .set _ _ _, .answered _ => false
    | .set _ key value, _ => daemonKeyTakes (cborToYaml value) key

theorem leavesUnread_step (s : Claimed) (e : ConfigEvent) (h : leavesUnread s e = true) :
    QuietStep ({} : Tables).env "did:ma:alice" s e
      (configNext ({} : Tables).env "did:ma:alice" s e) := by
  obtain ⟨hallowed, hleaves⟩ := Bool.and_eq_true_iff.mp h
  refine ⟨?_, configStep_of_allowed s e hallowed⟩
  obtain ⟨w, p⟩ := s
  cases e with
  | claim => trivial
  | set message key value =>
    cases p with
    | saving _ => exact absurd hleaves (by simp)
    | answered _ => exact absurd hleaves (by simp)
    | _ => exact ⟨hleaves, trivial⟩

set_option maxRecDepth 100000

/-- A SET after the claim's grant and before its look at the file: the file has both. -/
theorem claim_persists_over_set :
    ClaimPersisted "config.yaml" "did:ma:alice"
      ([.claim, .claim, .claim, setLogLevel, .claim, .claim].foldl lastWritten ∅)
      ([.claim, .claim, .claim, setLogLevel, .claim, .claim].foldl
        (configNext ({} : Tables).env "did:ma:alice") unclaimed).1.rt := by
  have hrun := Run.of_allowed leavesUnread_step unclaimed
    [.claim, .claim, .claim, setLogLevel, .claim, .claim] (by decide +kernel)
  exact claim_persists (r := .claimed ["did:ma:alice"]) (fun _ => rfl) rfl (by decide +kernel)
    (by decide +kernel) hrun (by decide +kernel)

/-- **The first SET after the claim overwrites it**: a restart from the file finds no owner. -/
theorem claim_overwritten :
    ∃ s', Run (ConfigStep ({} : Tables).env "did:ma:alice") unclaimed
        [.claim, .claim, .claim, .claim, .claim, setLogLevel] s' ∧
      s'.2 = .answered (.claimed ["did:ma:alice"]) ∧
      s'.1.rt.stats.owners = ["did:ma:alice"] ∧
      ¬ ClaimPersisted "config.yaml" "did:ma:alice"
        ([.claim, .claim, .claim, .claim, .claim, setLogLevel].foldl lastWritten ∅) s'.1.rt := by
  have hrun := Run.of_allowed (fun s e h => configStep_of_allowed s e h) unclaimed
    [.claim, .claim, .claim, .claim, .claim, setLogLevel]
    (by decide +kernel : Run.allowed (configNext ({} : Tables).env "did:ma:alice")
      (configAllowed ({} : Tables).env "did:ma:alice") unclaimed _ = true)
  refine ⟨_, hrun, by decide +kernel, by decide +kernel, fun h => ?_⟩
  obtain ⟨config, hfile, howners⟩ := h.resolvedOwners
  have hnone : ((([.claim, .claim, .claim, .claim, .claim, setLogLevel].foldl
      (configNext ({} : Tables).env "did:ma:alice") unclaimed).1.rt.files["config.yaml"]?).map
        fun r => (r.toOption.map fun c => resolvedOwners c []).getD []) = some [] := by
    decide +kernel
  rw [hfile] at hnone
  exact absurd (howners.symm.trans (Option.some.inj hnone)) (by simp)

end MaRuntime
