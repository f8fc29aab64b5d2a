import MaRuntime.ScheduleVerb

/-!
# The times of a schedule request

An `:at` request names a time and a `:random` request a bound, as CBOR integers of any size. The
first goes through `i64` and a subtraction that wraps, the second through `u64`, with 60 in the
place of what does not fit.

* `atDelayMs_toNat`: the delay of an `:at` job is exact where the difference fits `i64`.
* `timeExact_iff`: the delays are exact or the request is refused, but for times too far in the past
  and negative bounds.
-/

namespace MaRuntime

open Lib (Cbor)

/-! ## The delays of `register_schedule` -/

/-- The clock, in milliseconds: what does not fit `i64` is its maximum. -/
def nowMs (now : Nat) : Int64 := if now < 2 ^ 63 then Int64.ofNat now else Int64.maxValue

/-- The delay of an `:at` job, in milliseconds. The subtraction wraps. -/
def atDelayMs (timestampMs nowMs : Int64) : UInt64 :=
  (uint64OfInt (max (timestampMs - nowMs) 0).toInt).getD 0

/-- The seconds that `rand_delay` can draw: `gen_range(1..=max_secs.max(1))`. -/
def RandDelay (maxSecs secs : UInt64) : Prop := 1 ≤ secs ∧ secs ≤ max maxSecs 1

/-- The one-shot job of a request is registered with a delay, in milliseconds. -/
inductive RegisteredWith (now : Nat) : ScheduleRequest → Nat → Prop where
  | at {timestampMs : Int64} {content : Bytes} :
      RegisteredWith now (.at timestampMs content) (atDelayMs timestampMs (nowMs now)).toNat
  | random {maxSecs secs : UInt64} {content : Bytes} (h : RandDelay maxSecs secs) :
      RegisteredWith now (.random maxSecs content) (secs.toNat * 1000)

/-! ## Arithmetic -/

theorem nowMs_toInt (now : Nat) : (nowMs now).toInt = min (now : Int) (2 ^ 63 - 1) := by
  unfold nowMs
  split
  · rename_i h
    rw [Int64.toInt_ofNat_of_lt h]
    omega
  · rw [Int64.toInt_maxValue]
    omega

theorem max_zero_toInt (x : Int64) : (max x 0).toInt = max x.toInt 0 := by
  have hzero : (0 : Int64).toInt = 0 := rfl
  show (if x ≤ 0 then 0 else x).toInt = _
  split
  · rename_i h
    have h := Int64.le_iff_toInt_le.mp h
    rw [hzero]
    omega
  · rename_i h
    have h := mt Int64.le_iff_toInt_le.mpr h
    omega

theorem uint64OfInt_of_range {n : Int} (hn : 0 ≤ n) (hlt : n < 2 ^ 64) :
    uint64OfInt n = some (UInt64.ofNat n.toNat) :=
  if_pos ⟨hn, hlt⟩

theorem toNat_getD_uint64OfInt {n : Int} (hn : 0 ≤ n) (hlt : n < 2 ^ 64) (d : UInt64) :
    (((uint64OfInt n).getD d).toNat : Int) = n := by
  have hsize : n.toNat < UInt64.size := by
    unfold UInt64.size
    omega
  rw [uint64OfInt_of_range hn hlt, Option.getD_some, UInt64.toNat_ofNat_of_lt' hsize]
  omega

/-- **The delay of an `:at` job**: the difference as `i64` wraps it, and zero for a negative one. -/
theorem atDelayMs_toNat (timestampMs nowMs : Int64) :
    ((atDelayMs timestampMs nowMs).toNat : Int) =
      max ((timestampMs.toInt - nowMs.toInt).bmod (2 ^ 64)) 0 := by
  have hlt := Int64.toInt_lt (timestampMs - nowMs)
  unfold atDelayMs
  rw [toNat_getD_uint64OfInt] <;> rw [max_zero_toInt]
  · rw [Int64.toInt_sub]
  · omega
  · omega

/-- A time of the range of `i64` is the number it was. -/
theorem int64OfInt_toInt {n : Int} {timestampMs : Int64} (h : int64OfInt n = some timestampMs) :
    timestampMs.toInt = n ∧ -(2 ^ 63) ≤ n ∧ n < 2 ^ 63 := by
  unfold int64OfInt at h
  split at h
  · rename_i hrange
    obtain rfl := Option.some.inj h
    exact ⟨Int64.toInt_ofInt_of_le hrange.1 hrange.2, hrange⟩
  · exact absurd h (by simp)

/-- **The delay is exact exactly where the difference fits `i64`.** -/
theorem atDelay_exact_iff {n : Int} {timestampMs : Int64} (h : int64OfInt n = some timestampMs)
    (now : Nat) : ((atDelayMs timestampMs (nowMs now)).toNat : Int) = max 0 (n - now) ↔
      min (now : Int) (2 ^ 63 - 1) - 2 ^ 63 ≤ n := by
  obtain ⟨hn, hlow, hhigh⟩ := int64OfInt_toInt h
  rw [atDelayMs_toNat, hn, nowMs_toInt, Int.bmod_def]
  omega

/-! ## What is accepted -/

/-- The rest of a request is accepted: a target and a verb. -/
def RestAccepted (rest : List Cbor) : Prop :=
  ∃ target verb args content, rest = .text target :: verb :: args ∧
    encodeVerbContent verb args = .ok content

/-- The request `[typeVerb, spec, rest…]` is accepted. -/
def AcceptsSpec (env : Env) (typeVerb : String) (spec : Cbor) (rest : List Cbor)
    (request : ScheduleRequest) : Prop :=
  ∃ fragment, parseScheduleRequest env (.array (.text typeVerb :: spec :: rest)) =
    .ok (fragment, request)

/-- **An `:at` request**: the delay is what is left until the time, and a time beyond `i64` is
refused. -/
structure AtExact (env : Env) (now : Nat) (n : Int) (spec : Cbor) (rest : List Cbor) : Prop where
  delay : ∀ request, AcceptsSpec env ":at" spec rest request → ∀ delay : Nat,
    RegisteredWith now request delay ↔ (delay : Int) = max 0 (n - now)
  refused : ¬ (-(2 ^ 63) ≤ n ∧ n < 2 ^ 63) → ∀ request, ¬ AcceptsSpec env ":at" spec rest request

/-- **A `:random` request**: the delay is at least a second and at most the bound, and a bound
beyond `u64` is refused. -/
structure RandomExact (env : Env) (now : Nat) (n : Int) (spec : Cbor) (rest : List Cbor) :
    Prop where
  delay : ∀ request, AcceptsSpec env ":random" spec rest request → ∀ delay : Nat,
    RegisteredWith now request delay → 1000 ≤ delay ∧ (delay : Int) ≤ max n 1 * 1000
  refused : ¬ (0 ≤ n ∧ n < 2 ^ 64) → ∀ request, ¬ AcceptsSpec env ":random" spec rest request

/-- **The times of a request are exact or refused.** -/
def TimeExact (env : Env) (now : Nat) (typeVerb : String) (spec : Cbor) (rest : List Cbor) : Prop :=
  ∀ n, spec.toInt = some n → (typeVerb = ":at" → AtExact env now n spec rest) ∧
    (typeVerb = ":random" → RandomExact env now n spec rest)

/-- The time is not too far in the past, or refused; the bound is not negative. -/
def TimeFits (now : Nat) (typeVerb : String) (spec : Cbor) : Prop :=
  ∀ n, spec.toInt = some n →
    (typeVerb = ":at" → -(2 ^ 63) ≤ n → n < 2 ^ 63 →
      min (now : Int) (2 ^ 63 - 1) - 2 ^ 63 ≤ n) ∧
    (typeVerb = ":random" → 0 ≤ n)

section TimeExact

variable {env : Env} {now : Nat} {n : Int} {spec : Cbor} {rest : List Cbor}

theorem SpecReads.at_inv {make : Bytes → ScheduleRequest} (h : SpecReads ":at" spec make)
    (hn : spec.toInt = some n) :
    ∃ timestampMs, int64OfInt n = some timestampMs ∧ make = .at timestampMs := by
  generalize htype : ":at" = typeVerb at h
  cases h with
  | cron => exact absurd htype (by decide)
  | interval => exact absurd htype (by decide)
  | «at» hn' hrange =>
    obtain rfl := Option.some.inj (hn.symm.trans hn')
    exact ⟨_, hrange, rfl⟩
  | random => exact absurd htype (by decide)

theorem SpecReads.random_inv {make : Bytes → ScheduleRequest} (h : SpecReads ":random" spec make)
    (hn : spec.toInt = some n) : make = .random ((uint64OfInt n).getD 60) := by
  generalize htype : ":random" = typeVerb at h
  cases h with
  | cron => exact absurd htype (by decide)
  | interval => exact absurd htype (by decide)
  | «at» => exact absurd htype (by decide)
  | random hn' =>
    obtain rfl := Option.some.inj (hn.symm.trans hn')
    rfl

/-- An `:at` request is accepted for a time of the range of `i64`. -/
theorem acceptsAt_iff (hn : spec.toInt = some n) {request : ScheduleRequest} :
    AcceptsSpec env ":at" spec rest request ↔ ∃ target verb args content timestampMs,
      rest = .text target :: verb :: args ∧ encodeVerbContent verb args = .ok content ∧
        int64OfInt n = some timestampMs ∧ request = .at timestampMs (env.codec.encode content) := by
  unfold AcceptsSpec
  rw [parseScheduleRequest_iff]
  constructor
  · rintro ⟨typeVerb, target, verb, args, content, make, htype, hrest, hcontent, hmake, rfl⟩
    obtain rfl : ":at" = typeVerb := Cbor.text.inj htype
    obtain ⟨timestampMs, hrange, rfl⟩ := hmake.at_inv hn
    exact ⟨target, verb, args, content, timestampMs, hrest, hcontent, hrange, rfl⟩
  · rintro ⟨target, verb, args, content, timestampMs, hrest, hcontent, hrange, rfl⟩
    exact ⟨":at", target, verb, args, content, _, rfl, hrest, hcontent, .at hn hrange, rfl⟩

/-- A `:random` request is accepted whatever its bound. -/
theorem acceptsRandom_iff (hn : spec.toInt = some n) {request : ScheduleRequest} :
    AcceptsSpec env ":random" spec rest request ↔ ∃ target verb args content,
      rest = .text target :: verb :: args ∧ encodeVerbContent verb args = .ok content ∧
        request = .random ((uint64OfInt n).getD 60) (env.codec.encode content) := by
  unfold AcceptsSpec
  rw [parseScheduleRequest_iff]
  constructor
  · rintro ⟨typeVerb, target, verb, args, content, make, htype, hrest, hcontent, hmake, rfl⟩
    obtain rfl : ":random" = typeVerb := Cbor.text.inj htype
    obtain rfl := hmake.random_inv hn
    exact ⟨target, verb, args, content, hrest, hcontent, rfl⟩
  · rintro ⟨target, verb, args, content, hrest, hcontent, rfl⟩
    exact ⟨":random", target, verb, args, content, _, rfl, hrest, hcontent, .random hn, rfl⟩

theorem registeredAt_iff {timestampMs : Int64} {content : Bytes} {delay : Nat} :
    RegisteredWith now (.at timestampMs content) delay ↔
      delay = (atDelayMs timestampMs (nowMs now)).toNat := by
  constructor
  · intro h
    cases h
    rfl
  · rintro rfl
    exact .at

/-- **`:at` is exact where its time is not too far in the past.** -/
theorem atExact_iff (hn : spec.toInt = some n) : AtExact env now n spec rest ↔
    (RestAccepted rest → -(2 ^ 63) ≤ n → n < 2 ^ 63 →
      min (now : Int) (2 ^ 63 - 1) - 2 ^ 63 ≤ n) := by
  constructor
  · rintro ⟨hdelay, -⟩ ⟨target, verb, args, content, hrest, hcontent⟩ hlow hhigh
    have hrange : int64OfInt n = some (Int64.ofInt n) := if_pos ⟨hlow, hhigh⟩
    have haccepts := (@acceptsAt_iff env _ _ _ hn _).mpr
      ⟨target, verb, args, content, _, hrest, hcontent, hrange, rfl⟩
    exact (atDelay_exact_iff hrange now).mp ((hdelay _ haccepts _).mp .at)
  · intro hfits
    refine ⟨fun request haccepts delay => ?_, fun hout request haccepts => ?_⟩
    · obtain ⟨target, verb, args, content, timestampMs, hrest, hcontent, hrange, rfl⟩ :=
        (acceptsAt_iff hn).mp haccepts
      obtain ⟨-, hlow, hhigh⟩ := int64OfInt_toInt hrange
      have hexact := (atDelay_exact_iff hrange now).mpr
        (hfits ⟨target, verb, args, content, hrest, hcontent⟩ hlow hhigh)
      rw [registeredAt_iff, ← hexact, Int.natCast_inj]
    · obtain ⟨_, _, _, _, _, _, _, hrange, _⟩ := (acceptsAt_iff hn).mp haccepts
      exact hout (int64OfInt_toInt hrange).2

/-- A CBOR integer has 64 bits and a sign. -/
theorem toInt_lt {spec : Cbor} (hn : spec.toInt = some n) : n < 2 ^ 64 := by
  cases spec with
  | unsigned u =>
    have hlt := u.toNat_lt
    obtain rfl := Option.some.inj hn
    omega
  | negative u =>
    obtain rfl := Option.some.inj hn
    omega
  | _ => cases hn

/-- **`:random` is exact where its bound is not negative.** -/
theorem randomExact_iff (hn : spec.toInt = some n) :
    RandomExact env now n spec rest ↔ (RestAccepted rest → 0 ≤ n) := by
  have hlt := toInt_lt hn
  constructor
  · rintro ⟨-, hrefused⟩ ⟨target, verb, args, content, hrest, hcontent⟩
    by_contra hneg
    exact hrefused (fun h => hneg h.1) _
      ((acceptsRandom_iff hn).mpr ⟨target, verb, args, content, hrest, hcontent, rfl⟩)
  · intro hfits
    have hpos {request : ScheduleRequest} (h : AcceptsSpec env ":random" spec rest request) :
        0 ≤ n := by
      obtain ⟨target, verb, args, content, hrest, hcontent, -⟩ := (acceptsRandom_iff hn).mp h
      exact hfits ⟨target, verb, args, content, hrest, hcontent⟩
    refine ⟨fun request haccepts delay hdelay => ?_, fun hout request haccepts =>
      hout ⟨hpos haccepts, hlt⟩⟩
    have hn0 := hpos haccepts
    obtain ⟨target, verb, args, content, hrest, hcontent, rfl⟩ := (acceptsRandom_iff hn).mp haccepts
    cases hdelay with
    | @random _ secs _ h =>
      have hbound := toNat_getD_uint64OfInt hn0 hlt 60
      obtain ⟨hlow, hhigh⟩ := h
      have hlow := UInt64.le_iff_toNat_le.mp hlow
      have hone : (1 : UInt64).toNat = 1 := rfl
      have hmax : (max ((uint64OfInt n).getD 60) 1).toNat =
          max ((uint64OfInt n).getD 60).toNat 1 := by
        show (if (uint64OfInt n).getD 60 ≤ 1 then (1 : UInt64) else _).toNat = _
        split
        · rename_i h
          have h := UInt64.le_iff_toNat_le.mp h
          omega
        · rename_i h
          have h := mt UInt64.le_iff_toNat_le.mpr h
          omega
      have hhigh := UInt64.le_iff_toNat_le.mp hhigh
      omega

/-- **The times of a request are exact or refused exactly where** an `:at` time is no further in the
past than `i64` reaches and a `:random` bound is not negative, unless the rest is refused. These
are the delays that are registered: one beyond the dates of the external scheduler ends its loop
later. -/
theorem timeExact_iff (env : Env) (now : Nat) (typeVerb : String) (spec : Cbor)
    (rest : List Cbor) : TimeExact env now typeVerb spec rest ↔
      (RestAccepted rest → TimeFits now typeVerb spec) := by
  constructor
  · intro h hrest n hn
    obtain ⟨hat, hrandom⟩ := h n hn
    exact ⟨fun htype => (atExact_iff hn).mp (hat htype) hrest,
      fun htype => (randomExact_iff hn).mp (hrandom htype) hrest⟩
  · intro h n hn
    exact ⟨fun htype => (atExact_iff hn).mpr fun hrest => (h hrest n hn).1 htype,
      fun htype => (randomExact_iff hn).mpr fun hrest => (h hrest n hn).2 htype⟩

end TimeExact

/-- **A time in the distant past is put off** by almost three hundred million years, and a bound of
minus five seconds is taken for 60. -/
theorem times_are_replaced :
    (∃ request, AcceptsSpec (Tables.env {}) ":at" (.negative 9223372036854775807)
        [.text "notes", .text ":save"] request ∧
      RegisteredWith 1 request 9223372036854775807) ∧
    (∃ request, AcceptsSpec (Tables.env {}) ":random" (.negative 4)
        [.text "notes", .text ":save"] request ∧ RegisteredWith 1 request 60000) ∧
    ¬ TimeExact (Tables.env {}) 1 ":at" (.negative 9223372036854775807)
      [.text "notes", .text ":save"] ∧
    ¬ TimeExact (Tables.env {}) 1 ":random" (.negative 4) [.text "notes", .text ":save"] := by
  have hat : AcceptsSpec (Tables.env {}) ":at" (.negative 9223372036854775807)
      [.text "notes", .text ":save"] _ :=
    (acceptsAt_iff rfl).mpr ⟨_, _, _, _, _, rfl, rfl, rfl, rfl⟩
  have hrandom : AcceptsSpec (Tables.env {}) ":random" (.negative 4)
      [.text "notes", .text ":save"] _ :=
    (acceptsRandom_iff rfl).mpr ⟨_, _, _, _, rfl, rfl, rfl⟩
  refine ⟨⟨_, hat, registeredAt_iff.mpr (by decide +kernel)⟩,
    ⟨_, hrandom, @RegisteredWith.random _ _ 60 _ ⟨by decide, by decide⟩⟩, fun h => ?_, fun h => ?_⟩
  · have hdelay := ((h _ rfl).1 rfl).delay _ hat 9223372036854775807
    exact absurd (hdelay.mp (registeredAt_iff.mpr (by decide +kernel))) (by decide)
  · exact ((h _ rfl).2 rfl).refused (by decide) _ hrandom

end MaRuntime
