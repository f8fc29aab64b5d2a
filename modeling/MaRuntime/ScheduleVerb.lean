import MaRuntime.VerbCheck

/-!
# The call that a schedule request carries

A request names a verb and arguments for its target. `encode_verb_content` turns them into the bytes
that every firing delivers, and the target reads them with `parse_verb`.

* `parseScheduleRequest_iff`: what `parse_schedule_request` accepts, and the bytes it stores.
* `callIntact_iff`: the target reads the call that was asked for, unless the verb is an array that
  does not start with a text, or has further arguments after it.
-/

namespace MaRuntime

open Lib (Cbor)

/-- The bytes that a firing delivers. -/
def ScheduleRequest.content : ScheduleRequest → Bytes
  | .cron _ content => content
  | .interval _ content => content
  | .at _ content => content
  | .random _ content => content

/-! ## What is accepted -/

/-- The type atom and the spec ask for a request of this shape, whatever its content. -/
inductive SpecReads : String → Cbor → (Bytes → ScheduleRequest) → Prop where
  | cron (spec : String) : SpecReads ":cron" (.text spec) (.cron spec)
  | interval {dur : String} {secs : UInt64} (h : parseDuration dur = .ok secs) :
      SpecReads ":interval" (.text dur) (.interval secs)
  | at {ts : Cbor} {n : Int} {timestampMs : Int64} (hn : ts.toInt = some n)
      (hrange : int64OfInt n = some timestampMs) : SpecReads ":at" ts (.at timestampMs)
  | random {maxSecs : Cbor} {n : Int} (hn : maxSecs.toInt = some n) :
      SpecReads ":random" maxSecs (.random ((uint64OfInt n).getD 60))

theorem SpecReads.content {typeVerb : String} {spec : Cbor} {make : Bytes → ScheduleRequest}
    (h : SpecReads typeVerb spec make) (content : Bytes) : (make content).content = content := by
  cases h with
  | _ => rfl

/-- **What `parse_schedule_request` accepts**, and what it makes of it. -/
theorem parseScheduleRequest_iff {env : Env} {atom spec : Cbor} {rest : List Cbor}
    {request : ScheduleRequest} :
    (∃ fragment, parseScheduleRequest env (.array (atom :: spec :: rest)) =
        .ok (fragment, request)) ↔
      ∃ typeVerb target verb args content make, atom = .text typeVerb ∧
        rest = .text target :: verb :: args ∧ encodeVerbContent verb args = .ok content ∧
        SpecReads typeVerb spec make ∧ request = make (env.codec.encode content) := by
  constructor
  · rintro ⟨fragment, h⟩
    unfold parseScheduleRequest at h
    rcases rest with _ | ⟨target, _ | ⟨verb, args⟩⟩
    · cases h
    · cases h
    · cases atom with
      | text typeVerb =>
        cases target with
        | text target =>
          dsimp only at h
          cases hcontent : encodeVerbContent verb args with
          | error e =>
            rw [hcontent] at h
            cases h
          | ok content =>
            rw [hcontent] at h
            dsimp only [bind, Except.bind] at h
            refine ⟨typeVerb, target, verb, args, content, ?_⟩
            split at h
            · cases h
              exact ⟨_, rfl, rfl, hcontent, .cron _, rfl⟩
            · cases h
            · split at h
              · rename_i hdur
                cases h
                exact ⟨_, rfl, rfl, hcontent, .interval hdur, rfl⟩
              · cases h
            · cases h
            · split at h
              · rename_i hn
                split at h
                · rename_i hrange
                  cases h
                  exact ⟨_, rfl, rfl, hcontent, .at hn hrange, rfl⟩
                · cases h
              · cases h
            · split at h
              · rename_i hn
                cases h
                exact ⟨_, rfl, rfl, hcontent, .random hn, rfl⟩
              · cases h
            · cases h
        | _ => cases h
      | _ => cases h
  · rintro ⟨typeVerb, target, verb, args, content, make, rfl, rfl, hcontent, hmake, rfl⟩
    unfold parseScheduleRequest
    simp only [hcontent]
    cases hmake with
    | cron spec => exact ⟨_, rfl⟩
    | interval h => simp [bind, Except.bind, h]
    | «at» hn hrange => simp [bind, Except.bind, hn, hrange]
    | random hn => simp [bind, Except.bind, hn]

/-- The type atom and the spec are accepted. -/
def SpecAccepted (atom spec : Cbor) : Prop :=
  ∃ typeVerb make, atom = .text typeVerb ∧ SpecReads typeVerb spec make

/-! ## What arrives -/

/-- The request `[atom, spec, target, verb, args…]` is accepted. -/
def AcceptsCall (env : Env) (atom spec target verb : Cbor) (args : List Cbor)
    (request : ScheduleRequest) : Prop :=
  ∃ fragment, parseScheduleRequest env (.array (atom :: spec :: target :: verb :: args)) =
    .ok (fragment, request)

/-- **The call reaches the target intact**: what is stored reads as the verb and its arguments,
followed by the further arguments, and an array that names no verb is refused. -/
structure CallIntact (env : Env) (atom spec target verb : Cbor) (args : List Cbor) : Prop where
  arrives : ∀ request, AcceptsCall env atom spec target verb args request →
    ∃ v, verbOf verb = some v ∧
      Plugins.parseVerb env.codec request.content = some (v, argsOf verb ++ args)
  refused : ∀ items, verb = .array items → verbOf verb = none →
    ∀ request, ¬ AcceptsCall env atom spec target verb args request

/-- The verb is a text, or an array that starts with a text and is the last element, or of a type
that is refused. -/
inductive VerbShape : Cbor → List Cbor → Prop where
  | text (v : String) (args : List Cbor) : VerbShape (.text v) args
  | array (v : String) (items : List Cbor) : VerbShape (.array (.text v :: items)) []
  | other {verb : Cbor} {args : List Cbor} (htext : ∀ v, verb ≠ .text v)
      (harray : ∀ items, verb ≠ .array items) : VerbShape verb args

section CallIntact

variable {env : Env} {atom spec target verb : Cbor} {args : List Cbor}

theorem acceptsCall_iff {request : ScheduleRequest} :
    AcceptsCall env atom spec target verb args request ↔ (∃ t, target = .text t) ∧
      ∃ typeVerb content make, atom = .text typeVerb ∧ encodeVerbContent verb args = .ok content ∧
        SpecReads typeVerb spec make ∧ request = make (env.codec.encode content) := by
  unfold AcceptsCall
  rw [parseScheduleRequest_iff]
  constructor
  · rintro ⟨typeVerb, t, verb', args', content, make, hatom, heq, hcontent, hmake, rfl⟩
    simp only [List.cons.injEq] at heq
    obtain ⟨rfl, rfl, rfl⟩ := heq
    exact ⟨⟨t, rfl⟩, typeVerb, content, make, hatom, hcontent, hmake, rfl⟩
  · rintro ⟨⟨t, rfl⟩, typeVerb, content, make, hatom, hcontent, hmake, rfl⟩
    exact ⟨typeVerb, t, verb, args, content, make, hatom, rfl, hcontent, hmake, rfl⟩

/-- What the target reads of an accepted request. -/
theorem parseVerb_content {typeVerb : String} {content : Cbor} {make : Bytes → ScheduleRequest}
    (hmake : SpecReads typeVerb spec make) :
    Plugins.parseVerb env.codec (make (env.codec.encode content)).content =
      (verbOf content).map fun v => (v, argsOf content) := by
  rw [hmake.content, parseVerb_encode]

/-- **The call of a request whose type, spec and target are accepted is intact exactly where its
verb has one of the shapes that the encoder keeps.** -/
theorem callIntact_iff (env : Env) (atom spec target verb : Cbor) (args : List Cbor) :
    CallIntact env atom spec target verb args ↔
      (SpecAccepted atom spec → (∃ t, target = .text t) → VerbShape verb args) := by
  constructor
  · rintro ⟨harrives, -⟩ ⟨typeVerb, make, hatom, hmake⟩ htarget
    cases verb with
    | text v => exact .text v args
    | array items =>
      obtain ⟨v, hv, hparse⟩ :=
        harrives _ (acceptsCall_iff.mpr ⟨htarget, typeVerb, _, make, hatom, rfl, hmake, rfl⟩)
      rw [parseVerb_content hmake, hv, Option.map_some, Option.some_inj, Prod.mk.injEq] at hparse
      have hargs : args = [] := List.self_eq_append_right.mp hparse.2
      match items, hv with
      | .text v :: items, _ =>
        rw [hargs]
        exact .array v items
    | _ => exact .other (by simp) (by simp)
  · intro hshape
    have harrives : ∀ request, AcceptsCall env atom spec target verb args request →
        ∃ v, verbOf verb = some v ∧
          Plugins.parseVerb env.codec request.content = some (v, argsOf verb ++ args) := by
      intro request haccepts
      obtain ⟨htarget, typeVerb, content, make, hatom, hcontent, hmake, rfl⟩ :=
        acceptsCall_iff.mp haccepts
      rw [parseVerb_content hmake]
      cases hshape ⟨typeVerb, make, hatom, hmake⟩ htarget with
      | text v args =>
        refine ⟨v, rfl, ?_⟩
        unfold encodeVerbContent at hcontent
        cases args with
        | nil =>
          cases hcontent
          rfl
        | cons arg args =>
          cases hcontent
          rfl
      | array v items =>
        cases hcontent
        exact ⟨v, rfl, by simp [verbOf, argsOf]⟩
      | other htext harray =>
        unfold encodeVerbContent at hcontent
        split at hcontent
        · exact absurd rfl (htext _)
        · exact absurd rfl (harray _)
        · cases hcontent
    refine ⟨harrives, fun items _ hnone request haccepts => ?_⟩
    obtain ⟨v, hv, -⟩ := harrives request haccepts
    exact absurd (hnone.symm.trans hv) (by simp)

end CallIntact

/-- **Arguments after an array verb are lost**, and a request without a verb is registered: every
firing delivers a call that the target cannot read. -/
theorem call_is_lost :
    (∃ request, AcceptsCall (Tables.env {}) (.text ":interval") (.text "1h") (.text "notes")
        (.array [.text ":add"]) [.text "milk"] request ∧
      Plugins.parseVerb (Tables.env {}).codec request.content = some (":add", [])) ∧
    (∃ request, AcceptsCall (Tables.env {}) (.text ":interval") (.text "1h") (.text "notes")
        (.array []) [] request ∧ Plugins.parseVerb (Tables.env {}).codec request.content = none) ∧
    ¬ CallIntact (Tables.env {}) (.text ":interval") (.text "1h") (.text "notes")
      (.array [.text ":add"]) [.text "milk"] ∧
    ¬ CallIntact (Tables.env {}) (.text ":interval") (.text "1h") (.text "notes")
      (.array []) [] := by
  have hspec : SpecReads ":interval" (.text "1h") (.interval 3600) := .interval rfl
  have hargs : AcceptsCall (Tables.env {}) (.text ":interval") (.text "1h") (.text "notes")
      (.array [.text ":add"]) [.text "milk"] _ :=
    acceptsCall_iff.mpr ⟨⟨"notes", rfl⟩, _, _, _, rfl, rfl, hspec, rfl⟩
  have hempty : AcceptsCall (Tables.env {}) (.text ":interval") (.text "1h") (.text "notes")
      (.array []) [] _ :=
    acceptsCall_iff.mpr ⟨⟨"notes", rfl⟩, _, _, _, rfl, rfl, hspec, rfl⟩
  have hread := @parseVerb_content (Tables.env {}) _ _ (.array [.text ":add"]) _ hspec
  have hnone := @parseVerb_content (Tables.env {}) _ _ (.array []) _ hspec
  refine ⟨⟨_, hargs, hread⟩, ⟨_, hempty, hnone⟩, fun hintact => ?_, fun hintact => ?_⟩
  · obtain ⟨v, -, hparse⟩ := hintact.arrives _ hargs
    exact absurd (hread.symm.trans hparse) (by simp [verbOf, argsOf])
  · exact hintact.refused [] rfl rfl _ hempty

end MaRuntime
