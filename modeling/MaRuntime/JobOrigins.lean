import MaRuntime.MuteHandlers
import MaRuntime.LeastPrivilege
import MaRuntime.NativeScheduler
import MaRuntime.Answers
import MaRuntime.RandomJobs

/-!
# Where jobs come from

`#scheduler` hands its requests to a task that registers them (`io.scheduled`), and a job that fires
is dispatched past every ACL. A job may itself address `#scheduler`, and so order another one.

* `Rooted`: an RPC message that both gates let pass to `#scheduler` asked for the request, or a job
  of a request that is itself rooted carried it there.
* **`jobs_rooted`**: every job that waits or fires in a run is that of its request, which is rooted,
  and no other step of the run orders one.
-/

namespace MaRuntime

open Lib (Cbor Proc Run)

/-! ## Who orders a job -/

/-- The message gets past both gates to `#scheduler`, with a request. -/
structure AsksJob (env : Env) (message : Message) (request : String × ScheduleRequest) (w : World) :
    Prop where
  admitted : ∃ term, Admitted env message term nativeScheduler w ∧
    parseScheduleRequest env term = .ok request

/-- A job of the request addresses `#scheduler`, and carries another request. -/
structure Carries (env : Env) (parent request : String × ScheduleRequest) : Prop where
  target : parent.1 = schedulerFragment
  content : ∃ term, env.codec.decode parent.2.content = some term ∧
    parseScheduleRequest env term = .ok request

/-- The work ordered one job. -/
def Ordered (request : String × ScheduleRequest) (w w' : World) : Prop :=
  w'.io.scheduled = w.io.scheduled ++ [request]

/-- The work ordered no job, or one of a request that fits. -/
def OrdersOnly (fits : String × ScheduleRequest → Prop) (w w' : World) : Prop :=
  Unordered w w' ∨ ∃ request, fits request ∧ Ordered request w w'

section Orders

variable {env : Env} {message : Message}

theorem unordered_sendRpcReply (body : ReplyBody) :
    Proc.Keeps Unordered (sendRpcReply env message body) := by
  unfold sendRpcReply
  dsimp only
  split
  · exact Proc.keeps_fail _
  · exact unordered_delivery

/-- A message to an entity orders a job only past the ACL of `#scheduler`. -/
theorem handleEntityPluginMessage_orders (term : Cbor) (entity : EntityPlugin) (w : World) :
    Unordered w (handleEntityPluginMessage env message term entity rpcGuards w).2 ∨
      PassesEntityGate env message term entity w ∧
        Orders env entity term w
          (handleEntityPluginMessage env message term entity rpcGuards w).2 := by
  have hmute : Mute w (authorizeEntity env message term entity rpcGuards w).2 :=
    mute_authorizeEntity term entity rpcGuards w
  unfold handleEntityPluginMessage handleEntityPluginMessageWith
  rcases hauth : authorizeEntity env message term entity rpcGuards w with ⟨o, w1⟩
  rw [hauth] at hmute
  cases o with
  | err e =>
    rw [Proc.bind_of_err hauth]
    exact .inl hmute.scheduled
  | stuck =>
    rw [Proc.bind_of_stuck hauth]
    exact .inl hmute.scheduled
  | ok u =>
    rw [Proc.bind_of_ok hauth]
    let input : CastInput := { msg := localMessage env message term }
    have hdispatch : MuteOrOrders env entity input w1 (dispatch env entity input rpcGuards w1).2 :=
      keeps_dispatch entity input rpcGuards w1
    have hrest := Proc.Keeps.rest (p := dispatch env entity input)
      (fun result => @mute_processResult env entity result) rpcGuards w1
    rcases (hdispatch.before hrest).after hmute with h | ⟨term', hterm, h⟩
    · exact .inl h.scheduled
    · obtain rfl : term = term' := Option.some.inj ((env.codec.decode_encode term).symm.trans hterm)
      exact .inr ⟨authorizeEntity_ok hauth, h⟩

/-- What comes after orders nothing. -/
theorem ordersOnly_bind {α β : Type} {fits : String × ScheduleRequest → Prop} {p : M α}
    {f : α → M β} {g : Lib.Guards Lock} {w w1 : World} (hf : ∀ a, Proc.Keeps Unordered (f a))
    (h : OrdersOnly fits w (p g w1).2) : OrdersOnly fits w ((p >>= f) g w1).2 := by
  have hrest : Unordered (p g w1).2 ((p >>= f) g w1).2 := Proc.Keeps.rest hf g w1
  rcases h with hnone | ⟨request, hfits, hordered⟩
  · exact .inl (trans_of Unordered hnone hrest)
  · exact .inr ⟨request, hfits, Eq.trans hrest hordered⟩

/-- **An RPC message orders a job only past both gates.** -/
theorem rpcTurn_orders (w : World) :
    OrdersOnly (fun request => ∃ term entity, Admitted env message term entity w ∧
        entity.backend = .native ∧ parseScheduleRequest env term = .ok request)
      w (rpcTurn env message [] w).2 := by
  show OrdersOnly _ w (handleRpcMessage env message w.rt.rootAcl rpcGuards (counted w)).2
  have reply (body : ReplyBody) :
      Unordered w (sendRpcReply env message body rpcGuards (counted w)).2 :=
    unordered_sendRpcReply body rpcGuards (counted w)
  unfold handleRpcMessage handleRpcMessageWith
  rcases @rpcGate_cases env message (counted w) with ⟨hgate, hrun⟩ | ⟨-, e, hrun⟩
  · rw [Proc.bind_of_ok (p := rpcGate env message w.rt.rootAcl) hrun]
    split
    · exact .inl rfl
    · cases hterm : env.codec.decode message.payload with
      | none => exact .inl rfl
      | some term =>
        cases hfragment : Text.stripPrefix message.to (env.ourDid ++ "#") with
        | none =>
          dsimp only
          split
          · split
            · exact .inl (reply _)
            · exact .inl (reply _)
          · exact .inl (reply _)
        | some fragment =>
          dsimp only
          unfold dispatchFragmentWith
          have hread : reading .entityRegistry (getRt fun rt => rt.entityRegistry[fragment]?)
              rpcGuards (counted w) =
                (Lib.Outcome.ok w.rt.entityRegistry[fragment]?, counted w) := rfl
          rw [Proc.bind_of_ok hread]
          cases hentity : w.rt.entityRegistry[fragment]? with
          | none => exact .inl (reply _)
          | some entity =>
            -- Whatever is reported to the sender afterwards, it orders nothing.
            refine ordersOnly_bind (fun r => ?_) ?_
            · split
              · exact Proc.keeps_pure _
              · exact unordered_sendRpcReply _
            · rw [Proc.attempt_snd]
              rcases @handleEntityPluginMessage_orders env message term entity (counted w) with
                h | ⟨hpasses, h⟩
              · exact .inl h
              · obtain ⟨request, hrequest, hordered⟩ := h.scheduled
                have hadmitted : Admitted env message term entity w :=
                  ⟨hgate, hterm, ⟨fragment, hfragment, hentity⟩, hpasses⟩
                exact .inr ⟨request, ⟨term, entity, hadmitted, h.native, hrequest⟩, hordered⟩
  · rw [Proc.bind_of_err (p := rpcGate env message w.rt.rootAcl) hrun]
    exact .inl rfl

/-- A job orders another one only if it addresses a native entity. -/
theorem dispatchScheduled_orders (nowNanos : UInt64) (id fragment : String) (content : Bytes)
    (w : World) :
    OrdersOnly (fun request => ∃ term entity, w.rt.entityRegistry[fragment]? = some entity ∧
        entity.backend = .native ∧ env.codec.decode content = some term ∧
        parseScheduleRequest env term = .ok request)
      w (dispatchScheduled env nowNanos id fragment content [] w).2 := by
  unfold dispatchScheduled
  have hread : reading .entityRegistry (getRt fun rt => rt.entityRegistry[fragment]?) [] w =
      (Lib.Outcome.ok w.rt.entityRegistry[fragment]?, w) := rfl
  rw [Proc.bind_of_ok hread]
  cases hentity : w.rt.entityRegistry[fragment]? with
  | none => exact .inl rfl
  | some entity =>
    refine ordersOnly_bind (fun r => ?_) ?_
    · split
      · exact keeps_unordered (mute_persistPending _ _)
      · exact Proc.keeps_pure _
    · rw [Proc.attempt_snd]
      rcases keeps_dispatch entity { msg := scheduledMessage env nowNanos id fragment content } [] w
        with h | ⟨term, hterm, h⟩
      · exact .inl h.scheduled
      · obtain ⟨request, hrequest, hordered⟩ := h.scheduled
        exact .inr ⟨request, ⟨term, entity, rfl, h.native, hterm, hrequest⟩, hordered⟩

/-- **Whatever else the daemon does, it orders no job.** -/
theorem Turn.unordered {t : Turn} (ht : ∀ message, t ≠ .rpc message) (w : World) :
    Unordered w (t.run env [] w).2 := by
  cases t with
  | rpc message => exact absurd rfl (ht message)
  | crud message =>
    show Unordered w (crudTurn env message [] w).2
    rcases crudTurn_cases env message w with ⟨-, hrun⟩ | ⟨e, hrun⟩
    · rw [hrun]
      exact (@crudAnswering_dispatchManagement env message w).unordered [] w
    · rw [hrun]
      exact refl_of Unordered w
  | ipfs message => exact unordered_ipfsTurn [] w
  | claim owner =>
    exact keeps_unordered ((mute_handleClaim owner).bind fun _ => Proc.keeps_pure _) [] w

end Orders

/-! ## Origins -/

/-- The step handed over the `n`-th request. -/
def HandedIn (env : Env) (js : JobScheduler) (s : Scheduling) (es : List SchedEvent) (n : Nat)
    (request : String × ScheduleRequest) (e : SchedEvent) (s1 : Scheduling) : Prop :=
  ∃ es1 es2 s2, es = es1 ++ e :: es2 ∧ Run (SchedStep env js) s es1 s1 ∧ SchedStep env js s1 e s2 ∧
    s1.world.io.scheduled.length = n ∧ Ordered request s1.world s2.world

/-- The `n`-th request was handed over for an RPC message, which asked for it in the state that it
met. -/
def AskedIn (env : Env) (js : JobScheduler) (s : Scheduling) (es : List SchedEvent) (n : Nat)
    (request : String × ScheduleRequest) : Prop :=
  ∃ message s1, HandedIn env js s es n request (.turn (.rpc message)) s1 ∧
    AsksJob env message request s1.world

/-- The `n`-th request was handed over by a job of the `k`-th. -/
def FiredIn (env : Env) (js : JobScheduler) (s : Scheduling) (es : List SchedEvent) (k n : Nat)
    (request : String × ScheduleRequest) : Prop :=
  ∃ job s1, job.schedule = k ∧ HandedIn env js s es n request (.fire job) s1

/-- **The request has its origin in the run**: it was asked for itself, or the job of such a request
carried it to `#scheduler`. -/
inductive Rooted (env : Env) (js : JobScheduler) (s : Scheduling) (es : List SchedEvent)
    (log : List (String × ScheduleRequest)) : Nat → Prop where
  | asked {n : Nat} {request : String × ScheduleRequest} (hlog : log[n]? = some request)
      (hasked : AskedIn env js s es n request) : Rooted env js s es log n
  | carried {k n : Nat} {parent request : String × ScheduleRequest}
      (hk : Rooted env js s es log k) (hparent : log[k]? = some parent)
      (hcarries : Carries env parent request) (hfired : FiredIn env js s es k n request)
      (hlog : log[n]? = some request) : Rooted env js s es log n

/-- Every request that was handed over has its origin, and every job is that of its request. -/
structure Origins (env : Env) (js : JobScheduler) (s0 : Scheduling) (es : List SchedEvent)
    (s : Scheduling) : Prop where
  rooted : ∀ n < s.world.io.scheduled.length, Rooted env js s0 es s.world.io.scheduled n
  jobs : ∀ job ∈ s.jobs,
    s.world.io.scheduled[job.schedule]? = some (job.fragment, job.request)

section Origins

variable {env : Env} {js : JobScheduler} {s0 s s' : Scheduling} {es : List SchedEvent}
  {log : List (String × ScheduleRequest)}

/-- What was handed over stays so. -/
theorem HandedIn.append {n : Nat} {request : String × ScheduleRequest} {e : SchedEvent}
    {s1 : Scheduling} (h : HandedIn env js s0 es n request e s1) (later : List SchedEvent) :
    HandedIn env js s0 (es ++ later) n request e s1 := by
  obtain ⟨es1, es2, s2, hes, hrest⟩ := h
  exact ⟨es1, es2 ++ later, s2, by rw [hes, List.append_assoc, List.cons_append], hrest⟩

/-- Neither more requests nor a longer run unroot one. -/
theorem Rooted.append {n : Nat} (h : Rooted env js s0 es log n) (later : List SchedEvent)
    (more : List (String × ScheduleRequest)) : Rooted env js s0 (es ++ later) (log ++ more) n := by
  have hkept {m : Nat} {request : String × ScheduleRequest} (hlog : log[m]? = some request) :
      (log ++ more)[m]? = some request := by
    obtain ⟨hm, -⟩ := List.getElem?_eq_some_iff.mp hlog
    rw [List.getElem?_append_left hm]
    exact hlog
  induction h with
  | asked hlog hasked =>
    obtain ⟨message, s1, hhanded, hasks⟩ := hasked
    exact .asked (hkept hlog) ⟨message, s1, hhanded.append later, hasks⟩
  | carried hk hparent hcarries hfired hlog ih =>
    obtain ⟨job, s1, hjob, hhanded⟩ := hfired
    exact .carried ih (hkept hparent) hcarries ⟨job, s1, hjob, hhanded.append later⟩ (hkept hlog)

/-- At the root there is a request that was asked for. -/
theorem Rooted.exists_asked {n : Nat} (h : Rooted env js s0 es log n) :
    ∃ k request, AskedIn env js s0 es k request := by
  induction h with
  | asked hlog hasked => exact ⟨_, _, hasked⟩
  | carried hk hparent hcarries hfired hlog ih => exact ih

/-- The job that is made for a request. -/
theorem newJob_eq {n now schedule : Nat} {fragment : String} {scheduleId : Option String}
    {request : ScheduleRequest} {job : Job}
    (h : newJob js n now schedule fragment scheduleId request = .ok job) :
    job = { schedule, fragment, scheduleId, request } := by
  have made {u : Except Error Unit} {made : Job}
      (h : (do u; pure made : Except Error Job) = .ok job) : job = made := by
    cases u with
    | error e => cases h
    | ok u => exact (Except.ok.inj h).symm
  unfold newJob makeRandomJob at h
  cases request with
  | cron spec content => exact made h
  | interval secs content => exact made h
  | «at» timestampMs content => exact made h
  | random maxSecs content => exact made h

theorem runJob_world (nowNanos : UInt64) (id : String) (job : Job) :
    (runJob env js s nowNanos id job).world =
      (dispatchScheduled env nowNanos id job.fragment job.request.content [] s.world).2 := by
  unfold runJob
  split
  · rfl
  · rfl
  · rfl
  · rename_i hrandom
    rw [if_pos rfl, hrandom]
    exact (addJob_jobs _).2.1

/-- The only native entity is the one that startup registers. -/
theorem Wired.native {p : PluginHost} (hw : Wired env p) {name : String} {ep : EntityPlugin}
    (hentity : p.registry[name]? = some ep) (hnative : ep.backend = .native) :
    name = schedulerFragment ∧ ep = nativeScheduler := by
  cases hw.entities name ep hentity with
  | native h => exact ⟨h, rfl⟩
  | extism => cases hnative

/-- **A step hands over no request, or one** that was asked for or carried. -/
theorem SchedStep.orders {e : SchedEvent} (h : SchedStep env js s e s')
    {started : List (String × KindNode)} (hw : Wired env (s.world.plugins started)) :
    OrdersOnly (fun request =>
        (∃ message, e = .turn (.rpc message) ∧ AsksJob env message request s.world) ∨
          ∃ job ∈ s.jobs, e = .fire job ∧ Carries env (job.fragment, job.request) request)
      s.world s'.world := by
  cases h with
  | @turn t w h =>
    obtain ⟨-⟩ := h
    by_cases ht : ∃ message, t = .rpc message
    · obtain ⟨message, rfl⟩ := ht
      rcases rpcTurn_orders s.world with
        h | ⟨request, ⟨term, entity, h, hnative, hrequest⟩, hordered⟩
      · exact .inl h
      · obtain ⟨fragment, -, hentity⟩ := h.target
        obtain ⟨-, rfl⟩ := hw.native hentity hnative
        exact .inr ⟨request, .inl ⟨message, rfl, ⟨term, h, hrequest⟩⟩, hordered⟩
    · exact .inl (Turn.unordered (fun message h => ht ⟨message, h⟩) s.world)
  | @register n now fragment request hhanded hnew =>
    have hworld : (registerSchedule js { s with registered := n :: s.registered } now n fragment
        none request).world = s.world := (addJob_jobs _).2.1
    rw [hworld]
    exact .inl (refl_of Unordered s.world)
  | @fire job nowNanos id hjob =>
    rw [runJob_world]
    rcases dispatchScheduled_orders nowNanos id job.fragment job.request.content s.world with
      h | ⟨request, ⟨term, entity, hentity, hnative, hterm, hrequest⟩, hordered⟩
    · exact .inl h
    · obtain ⟨htarget, -⟩ := hw.native hentity hnative
      exact .inr ⟨request, .inr ⟨job, hjob, rfl, htarget, term, hterm, hrequest⟩, hordered⟩

/-- **A step keeps the origins**: what it hands over is rooted, and a job that fires was one of its
request. -/
theorem SchedStep.origins {e : SchedEvent} (h : SchedStep env js s e s')
    {started : List (String × KindNode)} (hw : Wired env (s.world.plugins started))
    (hrun : Run (SchedStep env js) s0 es s) (hs : Origins env js s0 es s) :
    Origins env js s0 (es ++ [e]) s' ∧
      (∃ more, s'.world.io.scheduled = s.world.io.scheduled ++ more) ∧
      ∀ job, e = .fire job →
        s.world.io.scheduled[job.schedule]? = some (job.fragment, job.request) := by
  have hjobs : ∀ job ∈ s'.jobs,
      s.world.io.scheduled[job.schedule]? = some (job.fragment, job.request) := by
    cases h with
    | turn h => exact hs.jobs
    | @register n now fragment request hhanded hnew =>
      unfold registerSchedule
      obtain ⟨-, -, h⟩ := @addJob_jobs js { s with registered := n :: s.registered }
        (newJob js s.calls now n fragment none request)
      rcases h with ⟨-, hjobs⟩ | ⟨job, hmade, -, hjobs⟩
      · rw [hjobs]
        exact hs.jobs
      · rw [hjobs]
        intro job' hjob'
        rcases List.mem_append.mp hjob' with hold | hnew
        · exact hs.jobs job' hold
        · obtain rfl := List.mem_singleton.mp hnew
          rw [newJob_eq hmade]
          exact hhanded
    | @fire job nowNanos id hjob =>
      obtain ⟨jobs, hperm, hsub⟩ := @runJob_sublist env js s nowNanos id job hjob
      exact fun job' hjob' => hs.jobs job' (hsub.subset (hperm.subset hjob'))
  have hlater {more : List (String × ScheduleRequest)}
      (hlog : s'.world.io.scheduled = s.world.io.scheduled ++ more) :
      ∀ job ∈ s'.jobs, s'.world.io.scheduled[job.schedule]? = some (job.fragment, job.request) := by
    intro job hjob
    obtain ⟨hlt, -⟩ := List.getElem?_eq_some_iff.mp (hjobs job hjob)
    rw [hlog, List.getElem?_append_left hlt]
    exact hjobs job hjob
  have hfired : ∀ job, e = .fire job →
      s.world.io.scheduled[job.schedule]? = some (job.fragment, job.request) := by
    rintro job rfl
    cases h with
    | fire hjob => exact hs.jobs job hjob
  rcases h.orders hw with hsame | ⟨request, horigin, hordered⟩
  · have hlog : s'.world.io.scheduled = s.world.io.scheduled ++ [] :=
      Eq.trans hsame (List.append_nil _).symm
    refine ⟨⟨?_, hlater hlog⟩, ⟨[], hlog⟩, hfired⟩
    rw [hlog]
    intro n hn
    exact (hs.rooted n (by simpa using hn)).append [e] []
  · have hlog : s'.world.io.scheduled = s.world.io.scheduled ++ [request] := hordered
    refine ⟨⟨fun n hn => ?_, hlater hlog⟩, ⟨[request], hlog⟩, hfired⟩
    rw [hlog] at hn ⊢
    by_cases hold : n < s.world.io.scheduled.length
    · exact (hs.rooted n hold).append [e] [request]
    · obtain rfl : n = s.world.io.scheduled.length := by
        rw [List.length_append, List.length_singleton] at hn
        omega
      have hnew : (s.world.io.scheduled ++ [request])[s.world.io.scheduled.length]? =
          some request := List.getElem?_concat_length
      have hhanded : HandedIn env js s0 (es ++ [e]) s.world.io.scheduled.length request e s :=
        ⟨es, [], s', rfl, hrun, h, rfl, hordered⟩
      rcases horigin with ⟨message, rfl, hasks⟩ | ⟨job, hjob, rfl, hcarries⟩
      · exact .asked hnew ⟨message, s, hhanded, hasks⟩
      · have hparent := hs.jobs job hjob
        obtain ⟨hlt, -⟩ := List.getElem?_eq_some_iff.mp hparent
        refine .carried ((hs.rooted job.schedule hlt).append _ [request]) ?_ hcarries
          ⟨job, s, rfl, hhanded⟩ hnew
        rw [List.getElem?_append_left hlt]
        exact hparent

/-- A step leaves the plugins as the daemon keeps them. -/
theorem SchedStep.wired {e : SchedEvent} (h : SchedStep env js s e s')
    {started : List (String × KindNode)} (hw : Wired env (s.world.plugins started)) :
    ∃ started', Wired env (s'.world.plugins started') := by
  cases h with
  | @turn t w h =>
    obtain ⟨-⟩ := h
    obtain ⟨started', hw', -⟩ := (HostStep.run : HostStep env s.world (.turn t) _).wired hw
    exact ⟨started', hw'⟩
  | @register n now fragment request hhanded hnew =>
    have hworld : (registerSchedule js { s with registered := n :: s.registered } now n fragment
        none request).world = s.world := (addJob_jobs _).2.1
    rw [hworld]
    exact ⟨started, hw⟩
  | @fire job nowNanos id hjob =>
    rw [runJob_world]
    obtain ⟨started', hw', -⟩ := (HostStep.run : HostStep env s.world
      (.scheduled nowNanos id job.fragment job.request.content) _).wired hw
    exact ⟨started', hw'⟩

/-- The plugins along a run. -/
theorem sched_wired (hrun : Run (SchedStep env js) s es s') {started : List (String × KindNode)}
    (hw : Wired env (s.world.plugins started)) :
    ∃ started', Wired env (s'.world.plugins started') :=
  Run.invariant (I := fun s : Scheduling => ∃ started, Wired env (s.world.plugins started))
    (fun ⟨_, hw⟩ hstep => hstep.wired hw) ⟨started, hw⟩ hrun

/-- The origins along a run, with those of the jobs that fired. -/
theorem origins_run {later : List SchedEvent} (hrun : Run (SchedStep env js) s later s')
    {started : List (String × KindNode)} (hw : Wired env (s.world.plugins started))
    (hbefore : Run (SchedStep env js) s0 es s) (hs : Origins env js s0 es s) :
    Origins env js s0 (es ++ later) s' ∧
      (∃ more, s'.world.io.scheduled = s.world.io.scheduled ++ more) ∧
      ∀ job, .fire job ∈ later →
        s'.world.io.scheduled[job.schedule]? = some (job.fragment, job.request) := by
  induction hrun generalizing started es with
  | nil s =>
    rw [List.append_nil]
    exact ⟨hs, ⟨[], (List.append_nil _).symm⟩, by simp⟩
  | @cons s s1 s' e later hstep hrest ih =>
    obtain ⟨hs1, ⟨more, hmore⟩, hfired⟩ := hstep.origins hw hbefore hs
    obtain ⟨started1, hw1⟩ := hstep.wired hw
    obtain ⟨hs', ⟨more', hmore'⟩, hfired'⟩ := ih hw1 (hbefore.append (.cons hstep (.nil s1))) hs1
    rw [List.append_assoc, List.singleton_append] at hs'
    refine ⟨hs', ⟨more ++ more', by rw [hmore', hmore, List.append_assoc]⟩, fun job hjob => ?_⟩
    rcases List.mem_cons.mp hjob with heq | hlater
    · have hold := hfired job heq.symm
      obtain ⟨hlt, -⟩ := List.getElem?_eq_some_iff.mp hold
      rw [hmore', hmore, List.append_assoc, List.getElem?_append_left hlt]
      exact hold
    · exact hfired' job hlater

/-- **Every job has its origin**: in every run of the daemon and its scheduler, a job that waits or
has fired is that of a request which `#scheduler` handed over, unchanged. An RPC message asked for
it that got past both gates, straight or through jobs that address `#scheduler`. What any step of
the run hands over is what such a message or such a job asks for, and at most that. -/
theorem jobs_rooted {config : Config} {files : StrMap (Except Error Config)}
    {cells : Nat → PluginCell} {rootCid : Option Cid} {cliOwners : List String}
    {es : List SchedEvent} {s : Scheduling}
    (hrun :
      Run (SchedStep env js) { world := booted env config files cells rootCid cliOwners } es s) :
    (∀ job, job ∈ s.jobs ∨ .fire job ∈ es →
      s.world.io.scheduled[job.schedule]? = some (job.fragment, job.request) ∧
        Rooted env js { world := booted env config files cells rootCid cliOwners } es
          s.world.io.scheduled job.schedule ∧
        ∃ n request,
          AskedIn env js { world := booted env config files cells rootCid cliOwners } es n
            request) ∧
      ∀ es1 e es2 s1 s2, es = es1 ++ e :: es2 →
        Run (SchedStep env js) { world := booted env config files cells rootCid cliOwners } es1 s1 →
        SchedStep env js s1 e s2 →
        OrdersOnly (fun request =>
          (∃ message, e = .turn (.rpc message) ∧ AsksJob env message request s1.world) ∨
            ∃ job ∈ s1.jobs, e = .fire job ∧ Carries env (job.fragment, job.request) request)
          s1.world s2.world := by
  obtain ⟨-, started, hw, -⟩ := booted_wired env config files cells rootCid cliOwners
  have hnone : (booted env config files cells rootCid cliOwners).io.scheduled = [] :=
    (mute_startup rootCid cliOwners [] _).scheduled
  have hstart : Origins env js { world := booted env config files cells rootCid cliOwners } []
      { world := booted env config files cells rootCid cliOwners } := by
    constructor
    · rw [hnone]
      exact fun n hn => absurd hn (Nat.not_lt_zero n)
    · exact fun job hjob => absurd hjob List.not_mem_nil
  obtain ⟨horigins, -, hfired⟩ := origins_run hrun hw (.nil _) hstart
  constructor
  · intro job hjob
    have hlog : s.world.io.scheduled[job.schedule]? = some (job.fragment, job.request) :=
      hjob.elim (horigins.jobs job) (hfired job)
    obtain ⟨hlt, -⟩ := List.getElem?_eq_some_iff.mp hlog
    have hrooted := horigins.rooted job.schedule hlt
    exact ⟨hlog, hrooted, hrooted.exists_asked⟩
  · intro es1 e es2 s1 s2 _ hbefore hstep
    obtain ⟨started1, hw1⟩ := sched_wired hbefore hw
    exact hstep.orders hw1

end Origins

/-! ## A job that orders another one -/

/-- The owner asks for a job that asks `#scheduler` for random casts to the leaf. -/
def askNested : Message :=
  { askTick with
    payload := Lib.rfcCodec.encode
      (.array [.text ":random", .unsigned 5, .text "scheduler",
        .array [.text ":random", .unsigned 5, .text "leaf", .text ":tick"]]) }

/-- The job of that request. -/
def nestedJob : Job where
  schedule := 0
  fragment := "scheduler"
  scheduleId := none
  request := .random 5 (Lib.rfcCodec.encode
    (.array [.text ":random", .unsigned 5, .text "leaf", .text ":tick"]))

/-- The job that it orders. -/
def orderedJob : Job := { tickJob with schedule := 1 }

/-- The daemon after the request. -/
def nestedAsked : World := (rpcTurn tickEnv askNested [] tickStart).2

/-- The daemon after the job of the request. -/
def nestedFired : World :=
  (dispatchScheduled tickEnv 0 "m1" "scheduler" nestedJob.request.content [] nestedAsked).2

set_option maxRecDepth 100000 in
/-- A job of the leaf, with a root but without a message of its own. -/
theorem jobs_rooted_nested :
    ∃ s, Run (SchedStep tickEnv willingScheduler) { world := tickStart }
        [.turn (.rpc askNested), .register 0, .fire nestedJob, .register 1] s ∧
      orderedJob ∈ s.jobs ∧
      Rooted tickEnv willingScheduler { world := tickStart }
        [.turn (.rpc askNested), .register 0, .fire nestedJob, .register 1]
        s.world.io.scheduled 1 := by
  have hask : Step tickEnv tickStart (.rpc askNested) nestedAsked := .turn (by decide +kernel)
  have hhanded : nestedAsked.io.scheduled[0]? = some ("scheduler", nestedJob.request) := by
    decide +kernel
  have hordered : nestedFired.io.scheduled[1]? = some ("leaf", orderedJob.request) := by
    decide +kernel
  let asked : Scheduling :=
    { world := nestedAsked, registered := [0], jobs := [nestedJob], calls := 1 }
  let fired : Scheduling :=
    { world := nestedFired, registered := [0], jobs := [nestedJob], calls := 2 }
  have hfire : SchedStep tickEnv willingScheduler asked (.fire nestedJob) fired :=
    @SchedStep.fire _ _ asked nestedJob 0 "m1" (List.mem_singleton_self _)
  have hrun : Run (SchedStep tickEnv willingScheduler) { world := tickStart }
      [.turn (.rpc askNested), .register 0, .fire nestedJob, .register 1]
      { fired with registered := [1, 0], jobs := [nestedJob, orderedJob], calls := 3 } :=
    .cons (.turn hask) (.cons (@SchedStep.register _ _ _ 0 0 _ _ hhanded (by simp))
      (.cons hfire (.cons (@SchedStep.register _ _ _ 1 0 _ _ hordered (by simp [fired])) (.nil _))))
  have hjob : orderedJob ∈ [nestedJob, orderedJob] := by simp
  exact ⟨_, hrun, hjob, ((jobs_rooted hrun).1 orderedJob (.inl hjob)).2.1⟩

end MaRuntime
