import MaRuntime.FiniteEnv
import MaRuntime.Mediation
import MaRuntime.NativeScheduler
import MaRuntime.Plugins.Shared

/-!
# The verb that is checked is the verb that is executed

The entity gate reads the verb of a term to look it up in the ACL; the term is then encoded again
and whoever answers it reads the verb once more: the plugins with `parse_verb`, `#scheduler` with
`parse_schedule_request`.

* `parseVerb_encode`: `parse_verb` is `verbOf`, with the arguments; so
  `handleCallWith_localMessage`: a plugin answers the verb that was checked, or none.
* `parseScheduleRequest_ok`: an accepted request is an array whose type atom names its kind; so
  `scheduled_verb_authorized`: `#scheduler` registers a request of the kind that was checked.
* `checked_verb_executed`: the two, and that a term without a verb is rejected by both.
-/

namespace MaRuntime

open Lib (Cbor Proc)

/-! ## The plugins -/

/-- The arguments of a term that has a verb. -/
def argsOf : Cbor → List Cbor
  | .array (_ :: args) => args
  | _ => []

/-- **The plugins parse the verb that the gate reads.** -/
theorem parseVerb_encode (codec : Lib.CborCodec) (term : Cbor) :
    Plugins.parseVerb codec (codec.encode term) = (verbOf term).map fun v => (v, argsOf term) := by
  unfold Plugins.parseVerb
  rw [codec.decode_encode]
  cases term with
  | array items =>
    cases items with
    | nil => rfl
    | cons item args => cases item <;> rfl
  | _ => rfl

/-- A plugin that gets the message of a term answers the verb of the term. -/
theorem handleCallWith_localMessage {S : Type} (env : Env) (message : Message) (term : Cbor)
    (answer : String → List Cbor → String → Plugins.PluginM S Bytes) :
    Plugins.handleCallWith env.codec answer
        (env.codec.encode (CastInput.toCbor { msg := localMessage env message term })) =
      (match verbOf term with
      | none => do
        Plugins.sendReply env.codec (localMessage env message term)
          (Plugins.cborError env.codec "invalid verb term")
        pure []
      | some verb => do
        let result ← Plugins.borrowMut .state (answer verb (argsOf term) message.from)
        Plugins.sendReply env.codec (localMessage env message term) result
        pure []) := by
  unfold Plugins.handleCallWith
  rw [env.codec.decode_encode, Option.bind_some, Plugins.castInputOfCbor_toCbor]
  have hverb : Plugins.parseVerb env.codec (localMessage env message term).content =
      (verbOf term).map fun v => (v, argsOf term) := parseVerb_encode env.codec term
  simp only [hverb]
  cases verbOf term with
  | none => rfl
  | some verb => rfl

/-! ## The scheduler -/

/-- The atom that asks for a request of this kind. -/
def ScheduleRequest.typeAtom : ScheduleRequest → String
  | .cron _ _ => ":cron"
  | .interval _ _ => ":interval"
  | .at _ _ => ":at"
  | .random _ _ => ":random"

/-- **The type atom of an accepted request names its kind.** -/
theorem parseScheduleRequest_ok {env : Env} {term : Cbor} {fragment : String}
    {request : ScheduleRequest}
    (h : parseScheduleRequest env term = .ok (fragment, request)) :
    ∃ rest, term = .array (.text request.typeAtom :: rest) := by
  unfold parseScheduleRequest at h
  split at h
  · split at h
    · rename_i typeVerb spec target verb args
      cases typeVerb with
      | text s =>
        cases target with
        | text t =>
          cases hcontent : encodeVerbContent verb args with
          | error e =>
            rw [hcontent] at h
            cases h
          | ok content =>
            rw [hcontent] at h
            dsimp only [bind, Except.bind] at h
            refine ⟨spec :: .text t :: verb :: args, ?_⟩
            have hatom : s = request.typeAtom := by
              split at h
              · cases h
                rfl
              · cases h
              · split at h
                · cases h
                  rfl
                · cases h
              · cases h
              · split at h
                · split at h
                  · cases h
                    rfl
                  · cases h
                · cases h
              · split at h
                · cases h
                  rfl
                · cases h
              · cases h
            rw [hatom]
        | _ => cases h
      | _ => cases h
    · cases h
  · cases h

/-- **What `#scheduler` registers was authorised under the atom of its kind.** -/
theorem scheduled_verb_authorized {env : Env} {message : Message} {term : Cbor} {w w' : World}
    (h : handleEntityPluginMessage env message term nativeScheduler rpcGuards w = (.ok (), w')) :
    ∃ fragment request acl, parseScheduleRequest env term = .ok (fragment, request) ∧
      w.rt.aclCache[aclCacheKey nativeScheduler.acl]? = some acl ∧
      (checkFull env.core (callerDid env message.from)
        (fun g => (queryActorGroup env g (callerDid env message.from)).attempt) acl
        [request.typeAtom, "*"] rpcGuards w).1 = .ok (.ok ()) := by
  obtain ⟨_, w1, hauth, h⟩ := Proc.bind_ok h
  obtain ⟨result, w2, hdispatch, -⟩ := Proc.bind_ok h
  obtain ⟨-, acl, hacl, hcheck⟩ := authorizeEntity_ok hauth
  have hdispatch : schedulerDispatch env { msg := localMessage env message term } rpcGuards w1 =
      (.ok result, w2) := hdispatch
  obtain ⟨term', ⟨fragment, request⟩, hterm, hparse, -, -⟩ := schedulerDispatch_ok hdispatch
  obtain rfl : term = term' := Option.some.inj ((env.codec.decode_encode term).symm.trans hterm)
  obtain ⟨rest, rfl⟩ := parseScheduleRequest_ok hparse
  exact ⟨fragment, request, acl, hparse, hacl, hcheck⟩

/-! ## Both -/

/-- **The verb that is authorised is the verb that is executed**, whatever the term: the plugins and
`#scheduler` read the verb that the gate reads, and no verb where it reads none. -/
theorem checked_verb_executed (env : Env) (message : Message) (term : Cbor) :
    (∀ v args, Plugins.parseVerb env.codec (localMessage env message term).content =
      some (v, args) → verbOf term = some v) ∧
    (∀ fragment request, parseScheduleRequest env term = .ok (fragment, request) →
      (∃ rest, term = .array (.text request.typeAtom :: rest)) ∧
        verbOf term = some request.typeAtom) ∧
    (verbOf term = none →
      Plugins.parseVerb env.codec (localMessage env message term).content = none ∧
        ∃ e, parseScheduleRequest env term = .error e) := by
  have hparse : Plugins.parseVerb env.codec (localMessage env message term).content =
      (verbOf term).map fun v => (v, argsOf term) := parseVerb_encode env.codec term
  refine ⟨fun v args h => ?_, fun fragment request h => ?_, fun hnone => ⟨?_, ?_⟩⟩
  · rw [hparse] at h
    obtain ⟨v', hv, heq⟩ := Option.map_eq_some_iff.mp h
    rw [hv, (Prod.mk.inj heq).1]
  · obtain ⟨rest, rfl⟩ := parseScheduleRequest_ok h
    exact ⟨⟨rest, rfl⟩, rfl⟩
  · rw [hparse, hnone]
    rfl
  · cases hresult : parseScheduleRequest env term with
    | error e => exact ⟨e, rfl⟩
    | ok request =>
      -- An accepted request has a type atom, and the gate would have read it.
      obtain ⟨rest, rfl⟩ := parseScheduleRequest_ok hresult
      exact absurd hnone (by simp [verbOf])

/-- Every hour, `#notes` is to save its notes. -/
def hourlySave : Cbor := .array [.text ":interval", .text "1h", .text "notes", .text ":save"]

/-- `#notes` asks for it. -/
def hourlyMessage : Message where
  id := "m1"
  «from» := "did:ma:runtime#notes"
  «to» := "did:ma:runtime#scheduler"
  messageType := "application/x-ma-rpc"
  contentType := "application/cbor"
  createdAt := 0
  exp := 0
  replyTo := none
  payload := []

/-- The scheduler is asked for an `:interval`, a plugin for `:save`, and nobody takes `[]`. -/
theorem checked_verb_executed_hourly :
    verbOf hourlySave = some ":interval" ∧ verbOf (.text ":save") = some ":save" ∧
      ∃ e, parseScheduleRequest (Tables.env {}) (.array []) = .error e := by
  have hscheduler : parseScheduleRequest (Tables.env {}) hourlySave =
      .ok ("notes", .interval 3600 (Lib.rfcCodec.encode (.text ":save"))) := rfl
  have hplugin : Plugins.parseVerb Lib.rfcCodec (Lib.rfcCodec.encode (.text ":save")) =
      some (":save", []) := parseVerb_encode Lib.rfcCodec (.text ":save")
  have hatom := (checked_verb_executed (Tables.env {}) hourlyMessage hourlySave).2.1 _ _ hscheduler
  have hverb := (checked_verb_executed (Tables.env {}) hourlyMessage (.text ":save")).1 _ _ hplugin
  have hnone := (checked_verb_executed (Tables.env {}) hourlyMessage (.array [])).2.2 rfl
  exact ⟨hatom.2, hverb, hnone.2⟩

end MaRuntime
