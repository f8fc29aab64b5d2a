import Mathlib.Algebra.GroupWithZero.Nat
import Mathlib.Algebra.Order.BigOperators.Group.List
import MaRuntime.Scheduler

/-!
# Durations

`parse_duration` reads groups of a number and a unit and adds them up on `u64`. `DurationGroup` is
the grammar, with the exact number of seconds; the code computes it modulo `2^64`.

* `parseDuration_ok_iff`: what is accepted, and with which value.
* `parseDuration_exact_iff`: the value is exact, and what does not fit is refused, unless the
  numbers fit one by one and their sum does not.
-/

namespace MaRuntime

/-! ## The grammar -/

/-- The units of a duration. -/
inductive DurationUnit where
  | seconds
  | minutes
  | hours
  | days
  deriving DecidableEq, Repr

/-- The letter of a unit. -/
def DurationUnit.letter : DurationUnit → Char
  | .seconds => 's'
  | .minutes => 'm'
  | .hours => 'h'
  | .days => 'd'

/-- The seconds in a unit. -/
def DurationUnit.secs : DurationUnit → Nat
  | .seconds => 1
  | .minutes => 60
  | .hours => 3600
  | .days => 86400

/-- The number that a run of digits writes. -/
def decimalValue (digits : List Char) : Nat :=
  digits.foldl (fun acc c => acc * 10 + (c.toNat - '0'.toNat)) 0

/-- One group: a number and its unit. -/
structure DurationGroup where
  digits : List Char
  unit : DurationUnit
  nonempty : digits ≠ []
  ascii : ∀ c ∈ digits, c.isDigit = true

namespace DurationGroup

/-- The characters of a group. -/
def text (group : DurationGroup) : List Char := group.digits ++ [group.unit.letter]

/-- The number of a group. -/
def number (group : DurationGroup) : Nat := decimalValue group.digits

/-- The seconds of a group. -/
def secs (group : DurationGroup) : Nat := group.number * group.unit.secs

end DurationGroup

/-- The text of a sequence of groups. -/
def groupsText (groups : List DurationGroup) : List Char := groups.flatMap DurationGroup.text

/-- **The exact sum** of a sequence of groups. -/
def exactSecs (groups : List DurationGroup) : Nat := (groups.map DurationGroup.secs).sum

@[simp] theorem groupsText_cons (group : DurationGroup) (groups : List DurationGroup) :
    groupsText (group :: groups) = group.digits ++ group.unit.letter :: groupsText groups := by
  simp [groupsText, DurationGroup.text]

@[simp] theorem exactSecs_cons (group : DurationGroup) (groups : List DurationGroup) :
    exactSecs (group :: groups) = group.secs + exactSecs groups := by
  simp [exactSecs]

theorem DurationUnit.secs_pos (unit : DurationUnit) : 0 < unit.secs := by
  cases unit <;> decide

/-- A letter is no digit. -/
theorem DurationUnit.letter_not_digit (unit : DurationUnit) : unit.letter.isDigit = false := by
  cases unit <;> rfl

/-- The number of a group is at most the sum. -/
theorem number_le_exactSecs {group : DurationGroup} {groups : List DurationGroup}
    (h : group ∈ groups) : group.number ≤ exactSecs groups :=
  calc group.number ≤ group.number * group.unit.secs :=
        Nat.le_mul_of_pos_right _ group.unit.secs_pos
    _ ≤ exactSecs groups := List.le_sum_of_mem (List.mem_map_of_mem h)

/-! ## The sum is a matter of the text -/

/-- The seconds of the remaining characters, after a number `n`. -/
def readSecs : List Char → Nat → Nat
  | [], _ => 0
  | c :: cs, n =>
    if c.isDigit then readSecs cs (n * 10 + (c.toNat - '0'.toNat))
    else n * ((unitSecs c).getD 0).toNat + readSecs cs 0

/-- The code knows the units. -/
theorem unitSecs_letter (unit : DurationUnit) :
    unitSecs unit.letter = some (UInt64.ofNat unit.secs) := by
  cases unit <;> rfl

theorem DurationUnit.toNat_secs (unit : DurationUnit) :
    (UInt64.ofNat unit.secs).toNat = unit.secs := by
  cases unit <;> rfl

theorem readSecs_digits (digits rest : List Char) (h : ∀ c ∈ digits, c.isDigit = true) (n : Nat) :
    readSecs (digits ++ rest) n =
      readSecs rest (digits.foldl (fun acc c => acc * 10 + (c.toNat - '0'.toNat)) n) := by
  induction digits generalizing n with
  | nil => rfl
  | cons c digits ih =>
    rw [List.cons_append, readSecs, if_pos (h c List.mem_cons_self)]
    exact ih (fun c hc => h c (List.mem_cons_of_mem _ hc)) _

theorem readSecs_groups (groups : List DurationGroup) :
    readSecs (groupsText groups) 0 = exactSecs groups := by
  induction groups with
  | nil => rfl
  | cons group groups ih =>
    rw [groupsText_cons, exactSecs_cons, readSecs_digits _ _ group.ascii, readSecs,
      group.unit.letter_not_digit, if_neg Bool.false_ne_true, ih, unitSecs_letter,
      Option.getD_some, group.unit.toNat_secs]
    rfl

/-- **Two readings of one text have one sum.** -/
theorem exactSecs_unique {groups groups' : List DurationGroup}
    (h : groupsText groups = groupsText groups') : exactSecs groups = exactSecs groups' := by
  rw [← readSecs_groups, ← readSecs_groups, h]

/-! ## The loop -/

/-- A run of digits is a number that fits. -/
theorem parseU64_ok_iff {digits : List Char} {n : UInt64} :
    parseU64 digits = .ok n ↔
      digits ≠ [] ∧ decimalValue digits < 2 ^ 64 ∧ n = UInt64.ofNat (decimalValue digits) := by
  unfold parseU64
  cases digits with
  | nil => simp
  | cons c digits =>
    rw [if_neg (by simp)]
    show (if decimalValue (c :: digits) < 2 ^ 64 then _ else _) = _ ↔ _
    by_cases hlt : decimalValue (c :: digits) < 2 ^ 64
    · rw [if_pos hlt]
      constructor
      · intro h
        exact ⟨by simp, hlt, (Except.ok.inj h).symm⟩
      · rintro ⟨-, -, rfl⟩
        rfl
    · rw [if_neg hlt]
      exact iff_of_false (by simp) fun h => hlt h.2.1

/-- The loop pushes digits into its buffer. -/
theorem parseDurationLoop_digits (s : String) (digits rest : List Char)
    (h : ∀ c ∈ digits, c.isDigit = true) (numBuf : List Char) (totalSecs : UInt64) :
    parseDurationLoop s (digits ++ rest) numBuf totalSecs =
      parseDurationLoop s rest (numBuf ++ digits) totalSecs := by
  induction digits generalizing numBuf with
  | nil => simp
  | cons c digits ih =>
    rw [List.cons_append, parseDurationLoop, if_pos (h c List.mem_cons_self),
      ih (fun c hc => h c (List.mem_cons_of_mem _ hc)), List.append_assoc]
    rfl

/-- **The loop adds groups up** modulo `2^64`. -/
theorem parseDurationLoop_groups (s : String) (groups : List DurationGroup) (totalSecs : UInt64)
    (hfits : ∀ group ∈ groups, group.number < 2 ^ 64) :
    parseDurationLoop s (groupsText groups) [] totalSecs =
      if totalSecs + UInt64.ofNat (exactSecs groups) = 0 then .error ["duration must be > 0"]
      else .ok (totalSecs + UInt64.ofNat (exactSecs groups)) := by
  induction groups generalizing totalSecs with
  | nil =>
    rw [show UInt64.ofNat (exactSecs []) = 0 from rfl, UInt64.add_zero]
    rfl
  | cons group groups ih =>
    have hparse : parseU64 group.digits = .ok (UInt64.ofNat group.number) :=
      parseU64_ok_iff.mpr ⟨group.nonempty, hfits group List.mem_cons_self, rfl⟩
    have hsum : totalSecs + UInt64.ofNat group.number * UInt64.ofNat group.unit.secs +
        UInt64.ofNat (exactSecs groups) =
          totalSecs + UInt64.ofNat (exactSecs (group :: groups)) := by
      rw [exactSecs_cons, DurationGroup.secs, UInt64.ofNat_add, UInt64.ofNat_mul, UInt64.add_assoc]
    rw [groupsText_cons, parseDurationLoop_digits s _ _ group.ascii, List.nil_append,
      parseDurationLoop, group.unit.letter_not_digit, if_neg Bool.false_ne_true, hparse]
    simp only [unitSecs_letter]
    rw [ih _ fun group h => hfits group (List.mem_cons_of_mem _ h), hsum]

/-- A character the code knows as a unit. -/
theorem exists_unit_of_unitSecs {c : Char} {secs : UInt64} (h : unitSecs c = some secs) :
    ∃ unit : DurationUnit, unit.letter = c ∧ secs = UInt64.ofNat unit.secs := by
  unfold unitSecs at h
  split at h
  · exact ⟨.seconds, rfl, (Option.some.inj h).symm⟩
  · exact ⟨.minutes, rfl, (Option.some.inj h).symm⟩
  · exact ⟨.hours, rfl, (Option.some.inj h).symm⟩
  · exact ⟨.days, rfl, (Option.some.inj h).symm⟩
  · exact absurd h (by simp)

/-- **What the loop accepts is a sequence of groups**, whose numbers fit one by one. -/
theorem groups_of_parseDurationLoop {s : String} :
    ∀ {cs numBuf : List Char} {totalSecs d : UInt64}, (∀ c ∈ numBuf, c.isDigit = true) →
      parseDurationLoop s cs numBuf totalSecs = .ok d →
        ∃ groups, numBuf ++ cs = groupsText groups ∧ ∀ group ∈ groups, group.number < 2 ^ 64
  | [], numBuf, totalSecs, d, _, h => by
    rw [parseDurationLoop] at h
    cases numBuf with
    | nil => exact ⟨[], rfl, by simp⟩
    | cons c numBuf => exact absurd h (by simp)
  | c :: cs, numBuf, totalSecs, d, hbuf, h => by
    rw [parseDurationLoop] at h
    by_cases hc : c.isDigit = true
    · rw [if_pos hc] at h
      have hpushed : ∀ c' ∈ numBuf ++ [c], c'.isDigit = true := by
        intro c' hc'
        rcases List.mem_append.mp hc' with hc' | hc'
        · exact hbuf c' hc'
        · rwa [List.mem_singleton.mp hc']
      obtain ⟨groups, htext, hfits⟩ := groups_of_parseDurationLoop hpushed h
      exact ⟨groups, by rw [← htext, List.append_assoc]; rfl, hfits⟩
    · rw [if_neg hc] at h
      cases hparse : parseU64 numBuf with
      | error e =>
        rw [hparse] at h
        exact absurd h (by simp)
      | ok n =>
        obtain ⟨hne, hlt, -⟩ := parseU64_ok_iff.mp hparse
        rw [hparse] at h
        cases hunit : unitSecs c with
        | none =>
          rw [hunit] at h
          exact absurd h (by simp)
        | some secs =>
          rw [hunit] at h
          obtain ⟨unit, rfl, -⟩ := exists_unit_of_unitSecs hunit
          obtain ⟨groups, htext, hfits⟩ := groups_of_parseDurationLoop (by simp) h
          refine ⟨⟨numBuf, unit, hne, hbuf⟩ :: groups, ?_, ?_⟩
          · rw [groupsText_cons, ← htext]
            rfl
          · intro group hgroup
            rcases List.mem_cons.mp hgroup with rfl | hgroup
            · exact hlt
            · exact hfits group hgroup

/-- **What `parse_duration` accepts**, and the value it gives it. -/
theorem parseDuration_ok_iff {s : String} {d : UInt64} :
    parseDuration s = .ok d ↔ ∃ groups, s.toList = groupsText groups ∧
      (∀ group ∈ groups, group.number < 2 ^ 64) ∧ d.toNat = exactSecs groups % 2 ^ 64 ∧ d ≠ 0 := by
  have hrun {groups : List DurationGroup} (htext : s.toList = groupsText groups)
      (hfits : ∀ group ∈ groups, group.number < 2 ^ 64) :
      parseDuration s = if UInt64.ofNat (exactSecs groups) = 0 then .error ["duration must be > 0"]
        else .ok (UInt64.ofNat (exactSecs groups)) := by
    unfold parseDuration
    rw [htext, parseDurationLoop_groups s groups 0 hfits, UInt64.zero_add]
  constructor
  · intro h
    obtain ⟨groups, htext, hfits⟩ := groups_of_parseDurationLoop (by simp) h
    rw [hrun htext hfits] at h
    split at h
    · exact absurd h (by simp)
    · rename_i hne
      obtain rfl := Except.ok.inj h
      exact ⟨groups, htext, hfits, rfl, hne⟩
  · rintro ⟨groups, htext, hfits, hd, hne⟩
    have hvalue : d = UInt64.ofNat (exactSecs groups) := UInt64.toNat_inj.mp hd
    rw [hrun htext hfits, ← hvalue, if_neg hne]

/-! ## Exactness -/

/-- **Accepted exactly where the grammar and the range allow, with the exact value.** -/
def DurationExact (s : String) : Prop :=
  ∀ d : UInt64, parseDuration s = .ok d ↔ ∃ groups, groups ≠ [] ∧ s.toList = groupsText groups ∧
    1 ≤ exactSecs groups ∧ exactSecs groups < 2 ^ 64 ∧ d.toNat = exactSecs groups

/-- The numbers fit one by one, their sum does not, and it does not wrap to zero. -/
def DurationWraps (s : String) : Prop :=
  ∃ groups, s.toList = groupsText groups ∧ (∀ group ∈ groups, group.number < 2 ^ 64) ∧
    2 ^ 64 ≤ exactSecs groups ∧ exactSecs groups % 2 ^ 64 ≠ 0

/-- **`parse_duration` is exact unless the sum wraps.** -/
theorem parseDuration_exact_iff (s : String) : DurationExact s ↔ ¬ DurationWraps s := by
  constructor
  · rintro hexact ⟨groups, htext, hfits, hlarge, hne⟩
    have hd : (UInt64.ofNat (exactSecs groups)).toNat = exactSecs groups % 2 ^ 64 := rfl
    have hok : parseDuration s = .ok (UInt64.ofNat (exactSecs groups)) := by
      refine parseDuration_ok_iff.mpr ⟨groups, htext, hfits, hd, fun hzero => hne ?_⟩
      rw [← hd, hzero]
      rfl
    obtain ⟨groups', -, htext', -, hsmall, -⟩ := (hexact _).mp hok
    have hsame := exactSecs_unique (htext.symm.trans htext')
    omega
  · intro hwraps d
    rw [parseDuration_ok_iff]
    constructor
    · rintro ⟨groups, htext, hfits, hd, hne⟩
      have hpos : d.toNat ≠ 0 := fun h => hne (UInt64.toNat_inj.mp h)
      have hsmall : exactSecs groups < 2 ^ 64 := by
        by_contra hlarge
        exact hwraps ⟨groups, htext, hfits, by omega, by omega⟩
      refine ⟨groups, ?_, htext, by omega, hsmall, by omega⟩
      rintro rfl
      exact hpos hd
    · rintro ⟨groups, -, htext, hpos, hsmall, hd⟩
      refine ⟨groups, htext, fun group h => ?_, by omega, fun hzero => ?_⟩
      · have hle := number_le_exactSecs h
        omega
      · rw [hzero] at hd
        have hzero' : (0 : UInt64).toNat = 0 := rfl
        omega

/-- **A number of minutes that wraps**: it is accepted as 44 seconds. -/
theorem minutes_wrap :
    parseDuration "307445734561825861m" = .ok 44 ∧ ¬ DurationExact "307445734561825861m" := by
  have hok : parseDuration "307445734561825861m" = .ok 44 := by decide +kernel
  refine ⟨hok, fun hexact => ?_⟩
  obtain ⟨groups, -, htext, -, -, hd⟩ := (hexact 44).mp hok
  have hsum : exactSecs groups = 18446744073709551660 := by
    rw [← readSecs_groups, ← htext]
    decide +kernel
  rw [hsum] at hd
  exact absurd hd (by decide)

end MaRuntime
