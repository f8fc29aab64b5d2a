import Std.Data.ExtTreeSet
import MaRuntime.Entity

/-!
# Access control (`src/acl.rs`)

An ACL maps principals to `CapabilityEntry`s. `checkFull` is the evaluator: explicit denies, then
`check_cap` of `ma_core`, then the group principals through a resolver that may act (it queries a
plugin at the entity gate), so it is written for any monad. At the transport, CRUD, IPFS and
entity-management gates the resolver knows no members (`checkFullNoGroups`). `checkWith` is the
check over a resolver that only answers, and `checkWith_ok_iff` says what it takes to be accepted.

`normalize_principal` and `check_cap` belong to `ma_core`. `MaCore.Lawful` is what its interface
promises of them for ACLs without the entry `#`, `MaCore.LooksUp` with it.
-/

namespace MaRuntime

/-- An error with its context, outermost first. -/
abbrev Error := List String

/-- `ma_core::CapabilityEntry`. -/
inductive CapabilityEntry where
  | deny
  | allow (caps : Std.ExtTreeSet String compare)

namespace CapabilityEntry

instance : DecidableEq CapabilityEntry
  | .deny, .deny => isTrue rfl
  | .deny, .allow _ => isFalse nofun
  | .allow _, .deny => isFalse nofun
  | .allow x, .allow y => decidable_of_iff (x = y) ⟨congrArg _, fun h => by injection h⟩

/-- `CapabilityEntry::from_caps`. -/
def fromCaps (caps : List String) : CapabilityEntry := .allow (Std.ExtTreeSet.ofList caps compare)

/-- An `Allow` set with the capability, or with `*`. -/
def grants : CapabilityEntry → String → Bool
  | .deny, _ => false
  | .allow caps, cap => caps.contains cap || caps.contains "*"

/-- An entry that grants `*` grants anything. -/
theorem grants_of_all {entry : CapabilityEntry} (h : entry.grants "*" = true) (cap : String) :
    entry.grants cap = true := by
  cases entry with
  | deny => exact absurd h (by simp [grants])
  | allow caps =>
    simp only [grants, Bool.or_self] at h
    simp [grants, h]

end CapabilityEntry

/-- `ma_core::AclMap`. -/
abbrev AclMap := StrMap CapabilityEntry

/-- What the runtime takes from `ma_core`'s ACL module. -/
structure MaCore where
  /-- `normalize_principal`. -/
  normalizePrincipal : String → String
  /-- `check_cap(acl, caller, cap).is_ok()`. -/
  checkCap : AclMap → String → String → Bool

/-- The entry that speaks for a caller: its own, else the wildcard's. -/
def MaCore.entryFor (core : MaCore) (acl : AclMap) (caller : String) : Option CapabilityEntry :=
  acl[core.normalizePrincipal caller]? <|> acl["*"]?

/-- `check_cap` looks up the caller's normalised DID, then `*`, and succeeds exactly when that
entry is an `Allow` set containing the capability or `*`. -/
def MaCore.Lawful (core : MaCore) : Prop :=
  ∀ acl caller cap,
    core.checkCap acl caller cap = ((core.entryFor acl caller).any (·.grants cap))

/-- The keys that `check_cap` looks up for a caller: the first of them that the ACL has decides.
They are his normalised DID and `*`. For the caller `#fragment`, an entity of the runtime itself,
the entry `#` speaks too; in which order is left open. -/
structure MaCore.LooksUp (core : MaCore) (keys : String → List String) : Prop where
  decides : ∀ acl caller cap, core.checkCap acl caller cap =
    ((keys caller).findSome? fun key => acl[key]?).any (·.grants cap)
  remote : ∀ caller, Text.startsWith caller "#" = false →
    keys caller = [core.normalizePrincipal caller, "*"]
  entity : ∀ caller, Text.startsWith caller "#" = true → ∀ key ∈ keys caller,
    key = core.normalizePrincipal caller ∨ key = "#" ∨ key = "*"

/-- `GROUP_PREFIX`. -/
def groupPrefix : String := "+"

/-- `OWNERS_PRINCIPAL`. -/
def ownersPrincipal : String := "+owners"

/-- `CAP_RPC`. -/
def capRpc : String := "rpc"

/-- `CAP_CRUD`. -/
def capCrud : String := "crud"

/-- `CAP_IPFS`. -/
def capIpfs : String := "ipfs"

/-- `inject_owners`. -/
def injectOwners (acl : AclMap) : AclMap := acl.insert ownersPrincipal (.fromCaps ["*"])

/-- `is_owner`. -/
def isOwner (core : MaCore) (owners : List String) (caller : String) : Bool :=
  owners.any fun o => core.normalizePrincipal o = core.normalizePrincipal caller

/-! ## `check_full` -/

section CheckFull

variable {m : Type → Type} [Monad m] (core : MaCore) (caller : String)
  (resolveGroup : String → m (Except Error (List String)))

/-- The group's members contain the caller; an unresolved group has no members. -/
def inGroup (key : String) : m Bool := do
  let members ← resolveGroup key
  pure ((members.toOption.getD []).any fun p =>
    core.normalizePrincipal p = core.normalizePrincipal caller)

/-- Step 3a: the first group with a `Deny` entry that the caller belongs to. -/
def deniedGroup : List (String × CapabilityEntry) → m (Option String)
  | [] => pure none
  | (key, .deny) :: rest =>
    if Text.startsWith key groupPrefix then do
      if ← inGroup core caller resolveGroup key then pure (some key) else deniedGroup rest
    else deniedGroup rest
  | (_, .allow _) :: rest => deniedGroup rest

/-- Step 3b: some group with a fitting `Allow` entry that the caller belongs to. The group is
resolved before its capabilities are looked at. -/
def allowedGroup (caps : List String) : List (String × CapabilityEntry) → m Bool
  | [] => pure false
  | (key, .allow capSet) :: rest =>
    if Text.startsWith key groupPrefix then do
      let member ← inGroup core caller resolveGroup key
      if member && caps.any (CapabilityEntry.allow capSet).grants then pure true
      else allowedGroup caps rest
    else allowedGroup caps rest
  | (_, .deny) :: rest => allowedGroup caps rest

/-- `check_full`. The entries are visited in the order of `acl.toList`. -/
def checkFull (acl : AclMap) (caps : List String) : m (Except Error Unit) :=
  if acl[core.normalizePrincipal caller]? = some .deny then
    pure (.error [s!"access denied for {caller}"])
  else if acl["*"]? = some .deny then
    pure (.error [s!"access denied for {caller} (wildcard deny)"])
  else if caps.any (core.checkCap acl caller) then pure (.ok ())
  else do
    match ← deniedGroup core caller resolveGroup acl.toList with
    | some key => pure (.error [s!"access denied for {caller} (group {key})"])
    | none =>
      if ← allowedGroup core caller resolveGroup caps acl.toList then pure (.ok ())
      else
        let caps := Text.debugStrings caps
        pure (.error [s!"access denied for {caller}: none of {caps} permitted"])

end CheckFull

/-- `check_full` with the resolver `|_| async { Ok(vec![]) }`. -/
def checkFullNoGroups (core : MaCore) (acl : AclMap) (caller : String) (caps : List String) :
    Except Error Unit :=
  Id.run (checkFull core caller (fun _ => pure (.ok [])) acl caps)

/-! ## The check over answers -/

section Answers

variable (core : MaCore) (caller : String) (answer : String → Except Error (List String))

/-- `check_full` with a resolver that only answers. -/
def checkWith (acl : AclMap) (caps : List String) : Except Error Unit :=
  Id.run (checkFull core caller (fun key => pure (answer key)) acl caps)

/-- The answer for a group has the caller among its members. -/
def answersMember (key : String) : Bool :=
  Id.run (inGroup core caller (fun key => pure (answer key)) key)

/-- The first denying group with the caller, by the answers. -/
def answersDenied (l : List (String × CapabilityEntry)) : Option String :=
  Id.run (deniedGroup core caller (fun key => pure (answer key)) l)

/-- Some group with the caller allows a capability, by the answers. -/
def answersAllowed (caps : List String) (l : List (String × CapabilityEntry)) : Bool :=
  Id.run (allowedGroup core caller (fun key => pure (answer key)) caps l)

/-- `check_full` with a resolver that only answers, visiting the entries in a given order. -/
def checkVisiting (order : List (String × CapabilityEntry)) (acl : AclMap) (caps : List String) :
    Except Error Unit :=
  if acl[core.normalizePrincipal caller]? = some .deny then
    .error [s!"access denied for {caller}"]
  else if acl["*"]? = some .deny then
    .error [s!"access denied for {caller} (wildcard deny)"]
  else if caps.any (core.checkCap acl caller) then .ok ()
  else
    match answersDenied core caller answer order with
    | some key => .error [s!"access denied for {caller} (group {key})"]
    | none =>
      if answersAllowed core caller answer caps order then .ok ()
      else
        let caps := Text.debugStrings caps
        .error [s!"access denied for {caller}: none of {caps} permitted"]

/-- The caller is a resolved member of a group. -/
def ResolvedMember (key : String) : Prop :=
  ∃ members, answer key = .ok members ∧
    ∃ p ∈ members, core.normalizePrincipal p = core.normalizePrincipal caller

/-- The caller's entry, or that of `*`, is a deny. -/
def DeniedOutright (acl : AclMap) : Prop :=
  acl[core.normalizePrincipal caller]? = some .deny ∨ acl["*"]? = some .deny

/-- `check_cap` grants one of the capabilities. -/
def GrantedOutright (acl : AclMap) (caps : List String) : Prop :=
  ∃ cap ∈ caps, core.checkCap acl caller cap = true

/-- The caller is in a group whose entry is a deny. -/
def DeniedByGroup (acl : AclMap) : Prop :=
  ∃ key, acl[key]? = some .deny ∧ Text.startsWith key groupPrefix = true ∧
    ResolvedMember core caller answer key

/-- The caller is in a group whose entry allows one of the capabilities. -/
def AllowedByGroup (acl : AclMap) (caps : List String) : Prop :=
  ∃ key capSet, acl[key]? = some (.allow capSet) ∧ Text.startsWith key groupPrefix = true ∧
    ResolvedMember core caller answer key ∧
    ∃ cap ∈ caps, (CapabilityEntry.allow capSet).grants cap = true

end Answers

section Check

variable {core : MaCore} {caller : String} {answer : String → Except Error (List String)}

theorem run_deniedGroup (l : List (String × CapabilityEntry)) :
    Id.run (deniedGroup core caller (fun key => pure (answer key)) l) =
      answersDenied core caller answer l := rfl

theorem run_allowedGroup (caps : List String) (l : List (String × CapabilityEntry)) :
    Id.run (allowedGroup core caller (fun key => pure (answer key)) caps l) =
      answersAllowed core caller answer caps l := rfl

theorem answersMember_iff {key : String} :
    answersMember core caller answer key = true ↔ ResolvedMember core caller answer key := by
  show ((answer key).toOption.getD []).any _ = true ↔ _
  cases hanswer : answer key with
  | error e =>
    refine iff_of_false (by simp [Except.toOption]) ?_
    rintro ⟨members, hmembers, -⟩
    exact absurd (hanswer.symm.trans hmembers) nofun
  | ok members =>
    show members.any _ = true ↔ _
    rw [List.any_eq_true]
    constructor
    · rintro ⟨p, hp, hsame⟩
      exact ⟨members, hanswer, p, hp, of_decide_eq_true hsame⟩
    · rintro ⟨members', hmembers, p, hp, hsame⟩
      obtain rfl := Except.ok.inj (hanswer.symm.trans hmembers)
      exact ⟨p, hp, decide_eq_true hsame⟩

@[simp] theorem answersDenied_allow {key : String} {capSet : Std.ExtTreeSet String compare}
    {l : List (String × CapabilityEntry)} :
    answersDenied core caller answer ((key, .allow capSet) :: l) =
      answersDenied core caller answer l := rfl

theorem answersDenied_deny {key : String} {l : List (String × CapabilityEntry)} :
    answersDenied core caller answer ((key, .deny) :: l) =
      if Text.startsWith key groupPrefix = true ∧ answersMember core caller answer key = true
      then some key else answersDenied core caller answer l := by
  unfold answersDenied
  rw [deniedGroup]
  by_cases hgroup : Text.startsWith key groupPrefix = true
  · rw [if_pos hgroup, Id.run_bind]
    show Id.run (if answersMember core caller answer key = true then _ else _) = _
    by_cases hmember : answersMember core caller answer key = true
    · rw [if_pos hmember, if_pos ⟨hgroup, hmember⟩]
      rfl
    · rw [if_neg hmember, if_neg fun h => hmember h.2]
  · rw [if_neg hgroup, if_neg fun h => hgroup h.1]

/-- Some denying group has the caller, wherever it stands. -/
theorem answersDenied_isSome_iff {l : List (String × CapabilityEntry)} :
    (answersDenied core caller answer l).isSome = true ↔
      ∃ key, (key, .deny) ∈ l ∧ Text.startsWith key groupPrefix = true ∧
        ResolvedMember core caller answer key := by
  induction l with
  | nil => simp [answersDenied, deniedGroup]
  | cons e l ih =>
    obtain ⟨key, entry⟩ := e
    cases entry with
    | allow capSet => simp [ih]
    | deny =>
      rw [answersDenied_deny]
      split
      · rename_i h
        exact iff_of_true rfl ⟨key, List.mem_cons_self, h.1, answersMember_iff.mp h.2⟩
      · rename_i h
        rw [ih]
        constructor
        · rintro ⟨key', hkey', hmember⟩
          exact ⟨key', List.mem_cons_of_mem _ hkey', hmember⟩
        · rintro ⟨key', hkey', hgroup, hmember⟩
          rcases List.mem_cons.mp hkey' with heq | hkey'
          · obtain rfl := (Prod.mk.inj heq).1
            exact absurd ⟨hgroup, answersMember_iff.mpr hmember⟩ h
          · exact ⟨key', hkey', hgroup, hmember⟩

@[simp] theorem answersAllowed_deny {caps : List String} {key : String}
    {l : List (String × CapabilityEntry)} :
    answersAllowed core caller answer caps ((key, .deny) :: l) =
      answersAllowed core caller answer caps l := rfl

theorem answersAllowed_allow {caps : List String} {key : String}
    {capSet : Std.ExtTreeSet String compare} {l : List (String × CapabilityEntry)} :
    answersAllowed core caller answer caps ((key, .allow capSet) :: l) =
      (Text.startsWith key groupPrefix && answersMember core caller answer key &&
        caps.any (CapabilityEntry.allow capSet).grants ||
      answersAllowed core caller answer caps l) := by
  unfold answersAllowed
  rw [allowedGroup]
  by_cases hgroup : Text.startsWith key groupPrefix = true
  · rw [if_pos hgroup, Id.run_bind, hgroup, Bool.true_and]
    show Id.run (if (answersMember core caller answer key &&
      caps.any (CapabilityEntry.allow capSet).grants) = true then _ else _) = _
    cases hfits : answersMember core caller answer key &&
      caps.any (CapabilityEntry.allow capSet).grants with
    | true => rfl
    | false => rfl
  · rw [if_neg hgroup, Bool.eq_false_of_not_eq_true hgroup, Bool.false_and, Bool.false_and,
      Bool.false_or]

/-- Some fitting group has the caller, wherever it stands. -/
theorem answersAllowed_iff {caps : List String} {l : List (String × CapabilityEntry)} :
    answersAllowed core caller answer caps l = true ↔
      ∃ key capSet, (key, .allow capSet) ∈ l ∧ Text.startsWith key groupPrefix = true ∧
        ResolvedMember core caller answer key ∧
        ∃ cap ∈ caps, (CapabilityEntry.allow capSet).grants cap = true := by
  induction l with
  | nil => simp [answersAllowed, allowedGroup]
  | cons e l ih =>
    obtain ⟨key, entry⟩ := e
    cases entry with
    | deny => simp [ih]
    | allow capSet =>
      rw [answersAllowed_allow, Bool.or_eq_true, ih, Bool.and_eq_true, Bool.and_eq_true,
        answersMember_iff, List.any_eq_true, and_assoc]
      constructor
      · rintro (⟨hgroup, hmember, hcap⟩ | ⟨key', capSet', hkey', h⟩)
        · exact ⟨key, capSet, List.mem_cons_self, hgroup, hmember, hcap⟩
        · exact ⟨key', capSet', List.mem_cons_of_mem _ hkey', h⟩
      · rintro ⟨key', capSet', hkey', h⟩
        rcases List.mem_cons.mp hkey' with heq | hkey'
        · cases heq
          exact .inl h
        · exact .inr ⟨key', capSet', hkey', h⟩

/-- **Who is accepted**, in whichever order the entries are visited: nobody who is denied outright;
else who is granted a capability outright, or is in no denying group and in one that allows a
capability. -/
theorem checkVisiting_ok_iff {order : List (String × CapabilityEntry)} {acl : AclMap}
    {caps : List String} (horder : order.Perm acl.toList) :
    checkVisiting core caller answer order acl caps = .ok () ↔
      ¬ DeniedOutright core caller acl ∧
        (GrantedOutright core caller acl caps ∨
          ¬ DeniedByGroup core caller answer acl ∧ AllowedByGroup core caller answer acl caps) := by
  have hdenied : (answersDenied core caller answer order).isSome = true ↔
      DeniedByGroup core caller answer acl := by
    simp only [answersDenied_isSome_iff, DeniedByGroup, horder.mem_iff,
      Std.ExtTreeMap.mem_toList_iff_getElem?_eq_some]
  have hallowed : answersAllowed core caller answer caps order = true ↔
      AllowedByGroup core caller answer acl caps := by
    simp only [answersAllowed_iff, AllowedByGroup, horder.mem_iff,
      Std.ExtTreeMap.mem_toList_iff_getElem?_eq_some]
  have hgranted : caps.any (core.checkCap acl caller) = true ↔
      GrantedOutright core caller acl caps := List.any_eq_true
  unfold checkVisiting
  by_cases hself : acl[core.normalizePrincipal caller]? = some .deny
  · rw [if_pos hself]
    exact iff_of_false nofun fun h => h.1 (.inl hself)
  rw [if_neg hself]
  by_cases hwild : acl["*"]? = some .deny
  · rw [if_pos hwild]
    exact iff_of_false nofun fun h => h.1 (.inr hwild)
  rw [if_neg hwild]
  have houtright : ¬ DeniedOutright core caller acl := not_or.mpr ⟨hself, hwild⟩
  by_cases hcap : caps.any (core.checkCap acl caller) = true
  · rw [if_pos hcap]
    exact iff_of_true rfl ⟨houtright, .inl (hgranted.mp hcap)⟩
  rw [if_neg hcap]
  have hno : ¬ GrantedOutright core caller acl caps := fun h => hcap (hgranted.mpr h)
  cases hfirst : answersDenied core caller answer order with
  | some key =>
    have hgroup : DeniedByGroup core caller answer acl := hdenied.mp (by rw [hfirst]; rfl)
    exact iff_of_false nofun fun h => h.2.elim hno fun h => h.1 hgroup
  | none =>
    have hgroup : ¬ DeniedByGroup core caller answer acl := fun h =>
      absurd (hdenied.mpr h) (by rw [hfirst]; simp)
    dsimp only
    by_cases hallow : answersAllowed core caller answer caps order = true
    · rw [if_pos hallow]
      exact iff_of_true rfl ⟨houtright, .inr ⟨hgroup, hallowed.mp hallow⟩⟩
    · rw [if_neg hallow]
      exact iff_of_false nofun fun h => h.2.elim hno fun h => hallow (hallowed.mpr h.2)

/-- `checkFull` visits the entries in the order of the map. -/
theorem checkWith_eq {acl : AclMap} {caps : List String} :
    checkWith core caller answer acl caps =
      checkVisiting core caller answer acl.toList acl caps := rfl

/-- Who is accepted, in the order of the map. -/
theorem checkWith_ok_iff {acl : AclMap} {caps : List String} :
    checkWith core caller answer acl caps = .ok () ↔
      ¬ DeniedOutright core caller acl ∧
        (GrantedOutright core caller acl caps ∨
          ¬ DeniedByGroup core caller answer acl ∧ AllowedByGroup core caller answer acl caps) :=
  checkWith_eq ▸ checkVisiting_ok_iff (List.Perm.refl _)

end Check

/-- Without groups the check passes exactly when neither the caller nor `*` is denied and
`check_cap` accepts one of the capabilities. -/
theorem checkFullNoGroups_ok_iff {core : MaCore} {acl : AclMap} {caller : String}
    {caps : List String} :
    checkFullNoGroups core acl caller caps = .ok () ↔
      acl[core.normalizePrincipal caller]? ≠ some .deny ∧ acl["*"]? ≠ some .deny ∧
        ∃ cap ∈ caps, core.checkCap acl caller cap = true := by
  have hnone : ¬ AllowedByGroup core caller (fun _ => .ok []) acl caps := by
    rintro ⟨key, capSet, -, -, ⟨members, hmembers, p, hp, -⟩, -⟩
    obtain rfl := Except.ok.inj hmembers
    exact absurd hp List.not_mem_nil
  have hcheck : checkFullNoGroups core acl caller caps = .ok () ↔
      ¬ DeniedOutright core caller acl ∧ (GrantedOutright core caller acl caps ∨
        ¬ DeniedByGroup core caller (fun _ => .ok []) acl ∧
          AllowedByGroup core caller (fun _ => .ok []) acl caps) := checkWith_ok_iff
  rw [hcheck, or_iff_left fun h => hnone h.2, DeniedOutright, not_or, and_assoc]
  rfl

end MaRuntime
