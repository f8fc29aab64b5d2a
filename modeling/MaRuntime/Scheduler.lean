import Mathlib.Algebra.Ring.Int.Defs
import MaRuntime.World

/-!
# Schedule requests (`src/schedule.rs`, `src/scheduler_actor.rs`)

`#scheduler` is compiled in: a message to it is a CBOR array
`[type_atom, spec, target_frag, verb_or_array, extra_args…]`, parsed here into the target and the
`ScheduleRequest` that a task then registers. Arithmetic on durations is on `u64` and wraps.
-/

namespace MaRuntime

open Lib (Cbor Proc)

/-! ## Durations -/

/-- `str::parse::<u64>` of a run of ASCII digits. -/
def parseU64 (digits : List Char) : Except Error UInt64 :=
  if digits.isEmpty then .error ["cannot parse integer from empty string"]
  else
    let n := digits.foldl (fun acc c => acc * 10 + (c.toNat - '0'.toNat)) 0
    if n < 2 ^ 64 then .ok (UInt64.ofNat n)
    else .error ["number too large to fit in target type"]

/-- The seconds in one unit. -/
def unitSecs : Char → Option UInt64
  | 's' => some 1
  | 'm' => some 60
  | 'h' => some 3600
  | 'd' => some 86400
  | _ => none

/-- The loop of `parse_duration` over the remaining characters. -/
def parseDurationLoop (s : String) : List Char → List Char → UInt64 → Except Error UInt64
  | [], numBuf, totalSecs =>
    if !numBuf.isEmpty then
      let s := Text.debug s
      .error [s!"duration {s} ends with a number but no unit"]
    else if totalSecs = 0 then .error ["duration must be > 0"]
    else .ok totalSecs
  | ch :: rest, numBuf, totalSecs =>
    if ch.isDigit then parseDurationLoop s rest (numBuf ++ [ch]) totalSecs
    else
      let quoted := Text.debug s
      match parseU64 numBuf with
      | .error e => .error (s!"invalid number in duration {quoted}" :: e)
      | .ok n =>
        match unitSecs ch with
        | none =>
          let ch := "'" ++ String.ofList [ch] ++ "'"
          .error [s!"unknown duration unit {ch} in {quoted}"]
        | some unit => parseDurationLoop s rest [] (totalSecs + n * unit)

/-- `parse_duration`, in seconds. -/
def parseDuration (s : String) : Except Error UInt64 := parseDurationLoop s s.toList [] 0

/-! ## Requests -/

/-- The text an error shows: its outermost context. -/
def Error.display (e : Error) : String := e.headD ""

/-- The range of `i64`. -/
def int64OfInt (n : Int) : Option Int64 :=
  if -(2 ^ 63) ≤ n ∧ n < 2 ^ 63 then some (Int64.ofInt n) else none

/-- The range of `u64`. -/
def uint64OfInt (n : Int) : Option UInt64 :=
  if 0 ≤ n ∧ n < 2 ^ 64 then some (UInt64.ofNat n.toNat) else none

/-- `encode_verb_content`: the verb and the extra arguments, before encoding. -/
def encodeVerbContent (verb : Cbor) (args : List Cbor) : Except Error Cbor :=
  match verb with
  | .text v => if args.isEmpty then .ok (.text v) else .ok (.array (.text v :: args))
  | .array items => .ok (.array items)
  | _ => .error ["scheduler: verb (4th element) must be text atom or array"]

/-- `parse_schedule_request`: the target fragment and the request. -/
def parseScheduleRequest (env : Env) (term : Cbor) : Except Error (String × ScheduleRequest) :=
  match term with
  | .array items =>
    match items with
    | typeVerb :: spec :: target :: verb :: args => do
      let .text typeVerb := typeVerb | .error ["scheduler: first element must be text atom"]
      let .text target := target | .error ["scheduler: third element must be target fragment"]
      let fragment := match Text.splitOnce target '#' with
        | some (_, fragment) => fragment
        | none => target
      let content ← encodeVerbContent verb args
      let content := env.codec.encode content
      let request ← match typeVerb, spec with
        | ":cron", .text spec => .ok (.cron spec content)
        | ":cron", _ => .error ["scheduler :cron: spec must be text"]
        | ":interval", .text dur =>
          match parseDuration dur with
          | .ok secs => .ok (.interval secs content)
          | .error e =>
            let e := e.display
            .error [s!"scheduler :interval: {e}"]
        | ":interval", _ => .error ["scheduler :interval: duration must be text"]
        | ":at", ts =>
          match ts.toInt with
          | some n =>
            match int64OfInt n with
            | some n => .ok (.at n content)
            | none => .error ["scheduler :at: timestamp out of i64 range"]
          | none => .error ["scheduler :at: timestamp must be integer"]
        | ":random", maxSecs =>
          match maxSecs.toInt with
          | some n => .ok (.random ((uint64OfInt n).getD 60) content)
          | none => .error ["scheduler :random: max_secs must be integer"]
        | other, _ => .error [s!"scheduler: unknown schedule type '{other}'"]
      .ok (fragment, request)
    | _ =>
      let n := toString items.length
      .error [s!"scheduler: expected [type, spec, target, verb], got {n} elements"]
  | other =>
    let other := env.debugValue other
    .error [s!"scheduler: expected CBOR array, got {other}"]

/-- `make_native_dispatch`: the closure of `#scheduler`. -/
def schedulerDispatch (env : Env) (input : CastInput) : M DispatchResult := do
  match env.codec.decode input.msg.content with
  | none => Proc.fail ["scheduler: invalid CBOR in message"]
  | some term => do
    let request ← Proc.ofExcept (parseScheduleRequest env term)
    -- The registration is handed to a task of its own.
    modifyIo fun io => { io with scheduled := io.scheduled ++ [request] }
    pure
      { output := env.codec.encode (.text ":ok"), pendingState := none
        createRequests := [], deleteRequests := [] }

/-- What a dispatch to `#scheduler` does, if it succeeds: it registers one request. -/
theorem schedulerDispatch_ok {env : Env} {input : CastInput} {result : DispatchResult}
    {g : Lib.Guards Lock} {w w' : World} (h : schedulerDispatch env input g w = (.ok result, w')) :
    ∃ term request, env.codec.decode input.msg.content = some term ∧
      parseScheduleRequest env term = .ok request ∧
      w' = { w with io := { w.io with scheduled := w.io.scheduled ++ [request] } } ∧
      result = { output := env.codec.encode (.text ":ok"), pendingState := none
                 createRequests := [], deleteRequests := [] } := by
  unfold schedulerDispatch at h
  cases hterm : env.codec.decode input.msg.content with
  | none => simp only [hterm, Proc.fail_run, Prod.mk.injEq, reduceCtorEq, false_and] at h
  | some term =>
    simp only [hterm] at h
    obtain ⟨request, w1, hparse, h⟩ := Proc.bind_ok h
    have hrequest := Proc.ofExcept_ok hparse
    rw [hrequest] at hparse
    obtain rfl : w = w1 := congrArg Prod.snd hparse
    obtain ⟨_, w2, hregister, h⟩ := Proc.bind_ok h
    simp only [Proc.pure_run, Prod.mk.injEq, Lib.Outcome.ok.injEq] at h
    obtain ⟨rfl, rfl⟩ := h
    exact ⟨term, request, rfl, hrequest, (congrArg Prod.snd hregister).symm, rfl⟩

/-- `SCHEDULER_FRAGMENT`. -/
def schedulerFragment : String := "scheduler"

/-- The node of `#scheduler`. -/
def schedulerNode : EntityNode :=
  { kind := "/ma/scheduler/0.0.1", acl := "scheduler", label := some "Scheduler" }

end MaRuntime
