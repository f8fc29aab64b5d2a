import MaRuntime.DispatchPaths
import MaRuntime.ScheduleTimes
import MaRuntime.Lib.Run

/-!
# Random schedules (`src/schedule.rs`)

A `:random` request registers a one-shot job that dispatches to its entity and then adds the next
one itself. Its documentation has it check first whether the schedule still exists; there is no such
check.

* `SchedStep`: the daemon takes a turn, registers a request that `#scheduler` was handed, or fires
  a job. A job is told by the number of the request that it comes from.
* `Extinct`: no job of a request is left, and none ever fires again.
* **`random_jobs_die_iff`**: a random schedule dies when it finds its entity gone, iff the scheduler
  itself refuses the next job.
* `random_job_outlives_entity`: it goes on without its entity.
-/

namespace MaRuntime

open Lib (Cbor Proc Run)

/-! ## The scheduler -/

/-- `tokio_cron_scheduler`, with the draws of `rand_delay`. `Nat` arguments number the calls;
delays are in milliseconds. -/
structure JobScheduler where
  /-- `Job::new_async`, on a cron or English spec. -/
  newAsync : Nat → String → Except Error Unit
  /-- `Job::new_repeated_async`. -/
  newRepeatedAsync : Nat → Nat → Except Error Unit
  /-- `Job::new_one_shot_async`. -/
  newOneShotAsync : Nat → Nat → Except Error Unit
  /-- `JobScheduler::add`. -/
  add : Nat → Except Error Unit
  randDelay : Nat → UInt64 → UInt64
  randDelay_mem : ∀ n maxSecs, RandDelay maxSecs (randDelay n maxSecs)

/-- A job, by what its closure captures: the request, and its number. -/
structure Job where
  schedule : Nat
  fragment : String
  scheduleId : Option String
  request : ScheduleRequest
  deriving DecidableEq, Repr

/-- The daemon and its scheduler. -/
structure Scheduling where
  world : World
  /-- The requests that were taken up, by their number. -/
  registered : List Nat := []
  jobs : List Job := []
  calls : Nat := 0

/-- `make_random_job`. -/
def makeRandomJob (js : JobScheduler) (n schedule : Nat) (fragment : String)
    (scheduleId : Option String) (content : Bytes) (maxSecs : UInt64) : Except Error Job := do
  js.newOneShotAsync n ((js.randDelay n maxSecs).toNat * 1000)
  pure { schedule, fragment, scheduleId, request := .random maxSecs content }

/-- The job of a request, at `now`. -/
def newJob (js : JobScheduler) (n now schedule : Nat) (fragment : String)
    (scheduleId : Option String) (request : ScheduleRequest) : Except Error Job :=
  match request with
  | .cron spec _ => do
    js.newAsync n spec
    pure { schedule, fragment, scheduleId, request }
  | .interval secs _ => do
    js.newRepeatedAsync n (secs.toNat * 1000)
    pure { schedule, fragment, scheduleId, request }
  | .at timestampMs _ => do
    js.newOneShotAsync n (atDelayMs timestampMs (nowMs now)).toNat
    pure { schedule, fragment, scheduleId, request }
  | .random maxSecs content => makeRandomJob js n schedule fragment scheduleId content maxSecs

/-- A job that could be made is added. Failures are only logged. -/
def Scheduling.addJob (js : JobScheduler) (s : Scheduling) (made : Except Error Job) :
    Scheduling :=
  match made with
  | .error _ => { s with calls := s.calls + 1 }
  | .ok job =>
    match js.add s.calls with
    | .error _ => { s with calls := s.calls + 1 }
    | .ok () => { s with calls := s.calls + 1, jobs := s.jobs ++ [job] }

/-- `register_schedule`, in the task that `#scheduler` spawns. -/
def registerSchedule (js : JobScheduler) (s : Scheduling) (now schedule : Nat) (fragment : String)
    (scheduleId : Option String) (request : ScheduleRequest) : Scheduling :=
  s.addJob js (newJob js s.calls now schedule fragment scheduleId request)

/-- The closure of a job. What follows the dispatch does not depend on the daemon, so that the
whole is one step. -/
def runJob (env : Env) (js : JobScheduler) (s : Scheduling) (nowNanos : UInt64) (id : String)
    (job : Job) : Scheduling :=
  let s := { s with
    world := (dispatchScheduled env nowNanos id job.fragment job.request.content [] s.world).2 }
  match job.request with
  | .cron _ _ => s
  | .interval _ _ => s
  | .at _ _ => { s with jobs := s.jobs.erase job }
  | .random maxSecs content =>
    let s := { s with jobs := s.jobs.erase job }
    let stillActive := true
    if stillActive then
      s.addJob js
        (makeRandomJob js s.calls job.schedule job.fragment job.scheduleId content maxSecs)
    else s

/-- One thing that happens. -/
inductive SchedEvent where
  | turn (t : Turn)
  | register (n : Nat)
  | fire (job : Job)

/-- The daemon takes a turn, a request that was handed to `#scheduler` is registered, once, or a
job fires. -/
inductive SchedStep (env : Env) (js : JobScheduler) : Scheduling → SchedEvent → Scheduling → Prop
  | turn {s : Scheduling} {t : Turn} {w : World} (h : Step env s.world t w) :
      SchedStep env js s (.turn t) { s with world := w }
  | register {s : Scheduling} {n now : Nat} {fragment : String} {request : ScheduleRequest}
      (hhanded : s.world.io.scheduled[n]? = some (fragment, request)) (hnew : n ∉ s.registered) :
      SchedStep env js s (.register n)
        (registerSchedule js { s with registered := n :: s.registered } now n fragment none request)
  | fire {s : Scheduling} {job : Job} {nowNanos : UInt64} {id : String} (hjob : job ∈ s.jobs) :
      SchedStep env js s (.fire job) (runJob env js s nowNanos id job)

/-! ## Extinction -/

/-- **The jobs of a request are extinct**: whatever happens, none is left and none fires. -/
def Extinct (env : Env) (js : JobScheduler) (schedule : Nat) (s : Scheduling) : Prop :=
  ∀ es s', Run (SchedStep env js) s es s' →
    (∀ job ∈ s'.jobs, job.schedule ≠ schedule) ∧
      ∀ job, .fire job ∈ es → job.schedule ≠ schedule

/-- **A random job that finds its entity gone is the last one** of its request. -/
def DyingStep (env : Env) (js : JobScheduler) (s : Scheduling) (e : SchedEvent) (s' : Scheduling) :
    Prop :=
  SchedStep env js s e s' ∧
    ∀ job maxSecs content, e = .fire job → job.request = .random maxSecs content →
      job.fragment ∉ s.world.rt.entityRegistry → Extinct env js job.schedule s'

/-- The scheduler refuses the next job, when it is made or when it is added. -/
def Refuses (js : JobScheduler) (n : Nat) (maxSecs : UInt64) : Prop :=
  (∃ e, js.newOneShotAsync n ((js.randDelay n maxSecs).toNat * 1000) = .error e) ∨
    ∃ e, js.add n = .error e

/-- A random job that fires finds its entity, or a scheduler that refuses the next job. -/
def CheckedStep (env : Env) (js : JobScheduler) (s : Scheduling) (e : SchedEvent)
    (s' : Scheduling) : Prop :=
  SchedStep env js s e s' ∧
    ∀ job maxSecs content, e = .fire job → job.request = .random maxSecs content →
      job.fragment ∉ s.world.rt.entityRegistry → Refuses js s.calls maxSecs

/-- Each job comes from a request that was taken up, and no two from the same. -/
structure OneEach (s : Scheduling) : Prop where
  registered : ∀ job ∈ s.jobs, job.schedule ∈ s.registered
  nodup : (s.jobs.map Job.schedule).Nodup

/-- A request was taken up and has no job left. -/
structure Spent (schedule : Nat) (s : Scheduling) : Prop where
  registered : schedule ∈ s.registered
  jobless : ∀ job ∈ s.jobs, job.schedule ≠ schedule

section Steps

variable {env : Env} {js : JobScheduler} {s s' : Scheduling}

/-- A job that was made is of its request. -/
theorem newJob_schedule {n now schedule : Nat} {fragment : String} {scheduleId : Option String}
    {request : ScheduleRequest} {job : Job}
    (h : newJob js n now schedule fragment scheduleId request = .ok job) :
    job.schedule = schedule := by
  unfold newJob makeRandomJob at h
  cases request with
  | cron spec content =>
    cases hmade : js.newAsync n spec <;> simp [bind, Except.bind, pure, Except.pure, hmade] at h
    rw [← h]
  | interval secs content =>
    cases hmade : js.newRepeatedAsync n (secs.toNat * 1000) <;>
      simp [bind, Except.bind, pure, Except.pure, hmade] at h
    rw [← h]
  | «at» timestampMs content =>
    cases hmade : js.newOneShotAsync n (atDelayMs timestampMs (nowMs now)).toNat <;>
      simp [bind, Except.bind, pure, Except.pure, hmade] at h
    rw [← h]
  | random maxSecs content =>
    cases hmade : js.newOneShotAsync n ((js.randDelay n maxSecs).toNat * 1000) <;>
      simp [bind, Except.bind, pure, Except.pure, hmade] at h
    rw [← h]

/-- The next job is the same again. -/
theorem makeRandomJob_self {n : Nat} {job : Job} {maxSecs : UInt64} {content : Bytes}
    (hrandom : job.request = .random maxSecs content) :
    makeRandomJob js n job.schedule job.fragment job.scheduleId content maxSecs =
      (js.newOneShotAsync n ((js.randDelay n maxSecs).toNat * 1000)).map fun _ => job := by
  obtain ⟨schedule, fragment, scheduleId, request⟩ := job
  cases hrandom
  unfold makeRandomJob
  cases js.newOneShotAsync n ((js.randDelay n maxSecs).toNat * 1000) <;> rfl

/-- **Adding a job** appends it, if it can be made and the scheduler takes it. -/
theorem addJob_jobs (made : Except Error Job) :
    (s.addJob js made).registered = s.registered ∧ (s.addJob js made).world = s.world ∧
      (((∃ e, made = .error e) ∨ ∃ e, js.add s.calls = .error e) ∧
          (s.addJob js made).jobs = s.jobs ∨
        ∃ job, made = .ok job ∧ js.add s.calls = .ok () ∧
          (s.addJob js made).jobs = s.jobs ++ [job]) := by
  unfold Scheduling.addJob
  cases made with
  | error e => exact ⟨rfl, rfl, .inl ⟨.inl ⟨e, rfl⟩, rfl⟩⟩
  | ok job =>
    cases hadd : js.add s.calls with
    | error e => exact ⟨rfl, rfl, .inl ⟨.inr ⟨e, rfl⟩, rfl⟩⟩
    | ok u => exact ⟨rfl, rfl, .inr ⟨job, rfl, rfl, rfl⟩⟩

/-- **What a firing does to the jobs**: a recurring job stays, a one-shot job goes, and a random job
comes back unless the scheduler refuses it. -/
theorem runJob_jobs {nowNanos : UInt64} {id : String} {job : Job} :
    (runJob env js s nowNanos id job).registered = s.registered ∧
      match job.request with
      | .cron _ _ | .interval _ _ => (runJob env js s nowNanos id job).jobs = s.jobs
      | .at _ _ => (runJob env js s nowNanos id job).jobs = s.jobs.erase job
      | .random maxSecs _ =>
        Refuses js s.calls maxSecs ∧
            (runJob env js s nowNanos id job).jobs = s.jobs.erase job ∨
          ¬ Refuses js s.calls maxSecs ∧
            (runJob env js s nowNanos id job).jobs = s.jobs.erase job ++ [job] := by
  unfold runJob
  cases hrequest : job.request with
  | cron spec content => exact ⟨rfl, rfl⟩
  | interval secs content => exact ⟨rfl, rfl⟩
  | «at» timestampMs content => exact ⟨rfl, rfl⟩
  | random maxSecs content =>
    dsimp only
    rw [if_pos rfl, makeRandomJob_self hrequest]
    let s1 : Scheduling :=
      { s with
        world := (dispatchScheduled env nowNanos id job.fragment content [] s.world).2
        jobs := s.jobs.erase job }
    obtain ⟨hregistered, -, h⟩ := @addJob_jobs js s1
      ((js.newOneShotAsync s.calls ((js.randDelay s.calls maxSecs).toNat * 1000)).map fun _ => job)
    refine ⟨hregistered, ?_⟩
    unfold Refuses
    rcases h with ⟨hrefused, hjobs⟩ | ⟨next, hmade, hadd, hjobs⟩
    · refine .inl ⟨hrefused.imp_left ?_, hjobs⟩
      rintro ⟨e, he⟩
      cases hnew : js.newOneShotAsync s.calls ((js.randDelay s.calls maxSecs).toNat * 1000) with
      | error e' => exact ⟨e', rfl⟩
      | ok u =>
        rw [hnew] at he
        exact absurd he (by simp [Except.map])
    · cases hnew : js.newOneShotAsync s.calls ((js.randDelay s.calls maxSecs).toNat * 1000) with
      | error e' =>
        rw [hnew] at hmade
        exact absurd hmade (by simp [Except.map])
      | ok u =>
        rw [hnew] at hmade hjobs
        obtain rfl : job = next := by simpa [Except.map] using hmade
        have hadd : js.add s.calls = .ok () := hadd
        exact .inr ⟨by simp [hadd], hjobs⟩

/-- The jobs after a firing are some of those before. -/
theorem runJob_sublist {nowNanos : UInt64} {id : String} {job : Job} (hjob : job ∈ s.jobs) :
    ∃ jobs, (runJob env js s nowNanos id job).jobs.Perm jobs ∧ jobs.Sublist s.jobs := by
  have hgone : (s.jobs.erase job).Sublist s.jobs := List.erase_sublist
  have hback : (s.jobs.erase job ++ [job]).Perm s.jobs :=
    (List.perm_append_singleton job _).trans (List.perm_cons_erase hjob).symm
  have h := (@runJob_jobs env js s nowNanos id job).2
  cases hrequest : job.request with
  | cron spec content =>
    rw [hrequest] at h
    exact ⟨s.jobs, .of_eq h, .refl _⟩
  | interval secs content =>
    rw [hrequest] at h
    exact ⟨s.jobs, .of_eq h, .refl _⟩
  | «at» timestampMs content =>
    rw [hrequest] at h
    exact ⟨s.jobs.erase job, .of_eq h, hgone⟩
  | random maxSecs content =>
    rw [hrequest] at h
    rcases h with ⟨-, hjobs⟩ | ⟨-, hjobs⟩
    · exact ⟨s.jobs.erase job, .of_eq hjobs, hgone⟩
    · exact ⟨s.jobs, (List.Perm.of_eq hjobs).trans hback, .refl _⟩

/-- **No two jobs are of one request**, whatever happens. -/
theorem SchedStep.oneEach {e : SchedEvent} (h : SchedStep env js s e s') (hs : OneEach s) :
    OneEach s' := by
  cases h with
  | turn h => exact ⟨hs.registered, hs.nodup⟩
  | @register n now fragment request hhanded hnew =>
    unfold registerSchedule
    obtain ⟨hregistered, -, h⟩ := @addJob_jobs js { s with registered := n :: s.registered }
      (newJob js s.calls now n fragment none request)
    have hkept : ∀ job ∈ s.jobs, job.schedule ∈ n :: s.registered := fun job hjob =>
      List.mem_cons_of_mem n (hs.registered job hjob)
    rcases h with ⟨-, hjobs⟩ | ⟨job, hmade, -, hjobs⟩
    · constructor
      · rw [hjobs, hregistered]
        exact hkept
      · rw [hjobs]
        exact hs.nodup
    · have hschedule := newJob_schedule hmade
      constructor
      · rw [hjobs, hregistered]
        intro job' hjob'
        rcases List.mem_append.mp hjob' with hold | hold
        · exact hkept job' hold
        · obtain rfl := List.mem_singleton.mp hold
          rw [hschedule]
          exact List.mem_cons_self
      · rw [hjobs, List.map_append]
        refine List.nodup_append.mpr ⟨hs.nodup, by simp, fun a ha b hb hab => ?_⟩
        obtain ⟨old, hold, rfl⟩ := List.mem_map.mp ha
        obtain rfl : b = n := by simpa [hschedule] using hb
        exact hnew (hab ▸ hs.registered old hold)
  | @fire job nowNanos id hjob =>
    obtain ⟨jobs, hperm, hsub⟩ := @runJob_sublist env js s nowNanos id job hjob
    constructor
    · intro job' hjob'
      rw [runJob_jobs.1]
      exact hs.registered job' (hsub.subset (hperm.subset hjob'))
    · exact ((hperm.map _).nodup_iff).mpr (hs.nodup.sublist (hsub.map _))

/-- **A request without a job gets none**, and so none of its jobs fires. -/
theorem SchedStep.spent {e : SchedEvent} {schedule : Nat} (h : SchedStep env js s e s')
    (hs : Spent schedule s) :
    Spent schedule s' ∧ ∀ job, e = .fire job → job.schedule ≠ schedule := by
  cases h with
  | turn h => exact ⟨⟨hs.registered, hs.jobless⟩, by simp⟩
  | @register n now fragment request hhanded hnew =>
    unfold registerSchedule
    obtain ⟨hregistered, -, h⟩ := @addJob_jobs js { s with registered := n :: s.registered }
      (newJob js s.calls now n fragment none request)
    have hkept := List.mem_cons_of_mem n hs.registered
    refine ⟨⟨hregistered ▸ hkept, fun job' hjob' => ?_⟩, by simp⟩
    rcases h with ⟨-, hjobs⟩ | ⟨job, hmade, -, hjobs⟩
    · exact hs.jobless job' (hjobs ▸ hjob')
    · rw [hjobs] at hjob'
      rcases List.mem_append.mp hjob' with hold | hold
      · exact hs.jobless job' hold
      · obtain rfl := List.mem_singleton.mp hold
        rw [newJob_schedule hmade]
        exact fun heq => hnew (heq ▸ hs.registered)
  | @fire job nowNanos id hjob =>
    obtain ⟨jobs, hperm, hsub⟩ := @runJob_sublist env js s nowNanos id job hjob
    refine ⟨⟨?_, fun job' hjob' => ?_⟩, fun job' heq => ?_⟩
    · rw [runJob_jobs.1]
      exact hs.registered
    · exact hs.jobless job' (hsub.subset (hperm.subset hjob'))
    · obtain rfl : job = job' := by simpa using heq
      exact hs.jobless job hjob

/-- A request that is spent is extinct. -/
theorem Spent.extinct {schedule : Nat} (h : Spent schedule s) : Extinct env js schedule s := by
  intro es s' hrun
  induction hrun with
  | nil s => exact ⟨h.jobless, by simp⟩
  | cons hstep hrest ih =>
    obtain ⟨hspent, hfired⟩ := hstep.spent h
    obtain ⟨hjobless, hnever⟩ := ih hspent
    refine ⟨hjobless, fun job hjob => ?_⟩
    rcases List.mem_cons.mp hjob with heq | hlater
    · exact hfired job heq.symm
    · exact hnever job hlater

theorem OneEach.of_erase (hs : OneEach s) {job : Job} (hjob : job ∈ s.jobs) :
    ∀ job' ∈ s.jobs.erase job, job'.schedule ≠ job.schedule := by
  have hnodup := (((List.perm_cons_erase hjob).map Job.schedule).nodup_iff).mp hs.nodup
  rw [List.map_cons, List.nodup_cons] at hnodup
  exact fun job' hjob' hsame => hnodup.1 (List.mem_map.mpr ⟨job', hjob', hsame⟩)

/-- **A random job is the last of its request, iff the scheduler refuses the next.** -/
theorem extinct_iff {nowNanos : UInt64} {id : String} {job : Job} {maxSecs : UInt64}
    {content : Bytes} (hs : OneEach s) (hjob : job ∈ s.jobs)
    (hrandom : job.request = .random maxSecs content) :
    Extinct env js job.schedule (runJob env js s nowNanos id job) ↔
      Refuses js s.calls maxSecs := by
  obtain ⟨hregistered, h⟩ := @runJob_jobs env js s nowNanos id job
  rw [hrandom] at h
  rcases h with ⟨hrefused, hjobs⟩ | ⟨htaken, hjobs⟩
  · refine iff_of_true (Spent.extinct ⟨hregistered ▸ hs.registered job hjob, ?_⟩) hrefused
    rw [hjobs]
    exact hs.of_erase hjob
  · refine iff_of_false (fun hextinct => ?_) htaken
    exact (hextinct [] _ (.nil _)).1 job (by rw [hjobs]; simp) rfl

/-- **A random schedule dies with its entity**, iff it meets its entity or a scheduler that refuses
the next job, each time it fires. -/
theorem random_jobs_die_iff (env : Env) (js : JobScheduler) (w : World) (es : List SchedEvent)
    (s : Scheduling) :
    Run (DyingStep env js) { world := w } es s ↔ Run (CheckedStep env js) { world := w } es s := by
  have hstart : OneEach { world := w } := ⟨by simp, by simp⟩
  have same {s s' : Scheduling} {e : SchedEvent} (hs : OneEach s)
      (hstep : SchedStep env js s e s') :
      (∀ job maxSecs content, e = .fire job → job.request = .random maxSecs content →
        job.fragment ∉ s.world.rt.entityRegistry → Extinct env js job.schedule s') ↔
      ∀ job maxSecs content, e = .fire job → job.request = .random maxSecs content →
        job.fragment ∉ s.world.rt.entityRegistry → Refuses js s.calls maxSecs := by
    refine forall_congr' fun job => forall_congr' fun maxSecs => forall_congr' fun content =>
      forall_congr' fun hfire => forall_congr' fun hrandom => forall_congr' fun _ => ?_
    subst hfire
    cases hstep with
    | fire hjob => exact extinct_iff hs hjob hrandom
  constructor
  · exact Run.along (I := OneEach) (fun hs hstep =>
      ⟨hstep.1.oneEach hs, hstep.1, (same hs hstep.1).mp hstep.2⟩) hstart
  · exact Run.along (I := OneEach) (fun hs hstep =>
      ⟨hstep.1.oneEach hs, hstep.1, (same hs hstep.1).mpr hstep.2⟩) hstart

end Steps

/-! ## A leaf that asked for a tick -/

/-- The manifest of the leaf, with an ACL for the `#scheduler`. -/
def tickTables : Tables :=
  { leafTables with
    manifests :=
      [("bafyroot",
        { leafManifest with acls := leafManifest.acls.insert "scheduler" ⟨"bafyopenacl"⟩ })] }

/-- Every cast to the leaf asks for its own deletion. -/
def tickEnv : Env := { tickTables.live with guest := leafEnv.guest }

/-- The daemon with the leaf loaded. -/
def tickStart : World := started tickEnv (some "bafyroot") ["did:ma:alice"]

/-- The owner asks for random casts to the leaf. -/
def askTick : Message :=
  { dropLeaf with
    id := "m0"
    «to» := "did:ma:runtime#scheduler"
    payload := Lib.rfcCodec.encode
      (.array [.text ":random", .unsigned 5, .text "leaf", .text ":tick"]) }

/-- A scheduler that takes every job. -/
def willingScheduler : JobScheduler where
  newAsync _ _ := .ok ()
  newRepeatedAsync _ _ := .ok ()
  newOneShotAsync _ _ := .ok ()
  add _ := .ok ()
  randDelay _ _ := 1
  randDelay_mem _ maxSecs := by
    refine ⟨Std.le_refl 1, ?_⟩
    show (1 : UInt64) ≤ if maxSecs ≤ 1 then 1 else maxSecs
    split
    · exact Std.le_refl 1
    · exact UInt64.le_of_lt (UInt64.not_le.mp ‹_›)

/-- The job of the request. -/
def tickJob : Job where
  schedule := 0
  fragment := "leaf"
  scheduleId := none
  request := .random 5 (Lib.rfcCodec.encode (.text ":tick"))

/-- The daemon after the request. -/
def tickAsked : World := (rpcTurn tickEnv askTick [] tickStart).2

/-- The daemon after a cast that deleted the leaf. -/
def tickDropped : World := (rpcTurn tickEnv dropLeaf [] tickAsked).2

set_option maxRecDepth 100000 in
/-- **A random job goes on without its entity**: it fires when the leaf is gone, and is added
again. -/
theorem random_job_outlives_entity :
    ∃ s s', Run (SchedStep tickEnv willingScheduler) { world := tickStart }
        [.turn (.rpc askTick), .register 0, .turn (.rpc dropLeaf)] s ∧
      SchedStep tickEnv willingScheduler s (.fire tickJob) s' ∧
      "leaf" ∈ tickStart.rt.entityRegistry ∧ "leaf" ∉ s.world.rt.entityRegistry ∧
      s.jobs = [tickJob] ∧ s'.jobs = [tickJob] ∧
      ¬ DyingStep tickEnv willingScheduler s (.fire tickJob) s' := by
  have hask : Step tickEnv tickStart (.rpc askTick) tickAsked := .turn (by decide +kernel)
  have hdrop : Step tickEnv tickAsked (.rpc dropLeaf) tickDropped := .turn (by decide +kernel)
  have hhanded : tickAsked.io.scheduled[0]? = some ("leaf", tickJob.request) := by decide +kernel
  have hgone : "leaf" ∉ tickDropped.rt.entityRegistry := by decide +kernel
  let s : Scheduling := { world := tickDropped, registered := [0], jobs := [tickJob], calls := 1 }
  have hrun : Run (SchedStep tickEnv willingScheduler) { world := tickStart }
      [.turn (.rpc askTick), .register 0, .turn (.rpc dropLeaf)] s :=
    .cons (.turn hask)
      (.cons (@SchedStep.register _ _ _ 0 0 _ _ hhanded (by simp)) (.cons (.turn hdrop) (.nil _)))
  have hfire : SchedStep tickEnv willingScheduler s (.fire tickJob)
      (runJob tickEnv willingScheduler s 0 "m2" tickJob) := .fire (List.mem_singleton_self _)
  have hback : (runJob tickEnv willingScheduler s 0 "m2" tickJob).jobs = [tickJob] := rfl
  refine ⟨s, _, hrun, hfire, by decide +kernel, hgone, rfl, hback, fun hdying => ?_⟩
  have hextinct := hdying.2 tickJob _ _ rfl rfl hgone
  exact (hextinct [] _ (.nil _)).1 tickJob (by rw [hback]; simp) rfl

end MaRuntime
