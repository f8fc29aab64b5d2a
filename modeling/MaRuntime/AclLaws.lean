import MaRuntime.FiniteEnv

/-!
# Laws of the ACL evaluator

How `check_full` answers for related maps, capability lists and orders of visiting the entries, with
a resolver that only answers. Of `check_cap` the laws take that it is monotone.

* `MaCore.Monotone`: a deny grants nothing, a larger `Allow` set loses nothing;
  `MaCore.Lawful.monotone`: the interface of `ma_core` promises as much.
* **`evaluator_laws`**: the order of the entries does not matter, capabilities are alternatives,
  denies only refuse, larger sets only accept, and groups accumulate.
-/

namespace MaRuntime

/-- **What the laws take of `check_cap`**: a `Deny` entry never makes it more permissive, and it is
monotone in the `Allow` sets. -/
structure MaCore.Monotone (core : MaCore) : Prop where
  deny : ∀ acl key caller cap, core.checkCap (acl.insert key .deny) caller cap = true →
    core.checkCap acl caller cap = true
  enlarge : ∀ (acl : AclMap) key caps caps' caller cap, acl[key]? = some (.allow caps) →
    (∀ c ∈ caps, c ∈ caps') → core.checkCap acl caller cap = true →
    core.checkCap (acl.insert key (.allow caps')) caller cap = true

namespace CapabilityEntry

theorem grants_allow_iff {caps : Std.ExtTreeSet String compare} {cap : String} :
    (CapabilityEntry.allow caps).grants cap = true ↔ cap ∈ caps ∨ "*" ∈ caps := by
  rw [grants, Bool.or_eq_true, Std.ExtTreeSet.contains_iff_mem, Std.ExtTreeSet.contains_iff_mem]

theorem grants_mono {caps caps' : Std.ExtTreeSet String compare} {cap : String}
    (hsub : ∀ c ∈ caps, c ∈ caps') (h : (CapabilityEntry.allow caps).grants cap = true) :
    (CapabilityEntry.allow caps').grants cap = true :=
  grants_allow_iff.mpr ((grants_allow_iff.mp h).imp (hsub _) (hsub _))

end CapabilityEntry

section Entries

variable {acl : AclMap} {key key' : String} {caps caps' capSet : Std.ExtTreeSet String compare}

/-- A deny written to a map leaves the denies that are there. -/
theorem insert_deny_deny (h : acl[key']? = some .deny) :
    (acl.insert key .deny)[key']? = some .deny := by
  rw [Std.ExtTreeMap.getElem?_insert]
  split
  · rfl
  · exact h

/-- An allow read after a deny was written was there. -/
theorem insert_deny_allow (h : (acl.insert key .deny)[key']? = some (.allow capSet)) :
    acl[key']? = some (.allow capSet) := by
  rw [Std.ExtTreeMap.getElem?_insert] at h
  split at h
  · exact absurd h (by simp)
  · exact h

theorem insert_deny_none (h : (acl.insert key .deny)[key']? = none) : acl[key']? = none := by
  rw [Std.ExtTreeMap.getElem?_insert] at h
  split at h
  · exact absurd h (by simp)
  · exact h

/-- A larger `Allow` set leaves the denies as they are. -/
theorem insert_allow_deny_iff (hentry : acl[key]? = some (.allow caps)) :
    (acl.insert key (.allow caps'))[key']? = some .deny ↔ acl[key']? = some .deny := by
  rw [Std.ExtTreeMap.getElem?_insert]
  split
  · rename_i heq
    obtain rfl := Std.LawfulEqCmp.compare_eq_iff_eq.mp heq
    simp [hentry]
  · rfl

/-- An allow stays one, with at least the capabilities that it has. -/
theorem insert_allow_allow (hentry : acl[key]? = some (.allow caps)) (hsub : ∀ c ∈ caps, c ∈ caps')
    (h : acl[key']? = some (.allow capSet)) :
    ∃ capSet', (acl.insert key (.allow caps'))[key']? = some (.allow capSet') ∧
      ∀ c ∈ capSet, c ∈ capSet' := by
  rw [Std.ExtTreeMap.getElem?_insert]
  split
  · rename_i heq
    obtain rfl := Std.LawfulEqCmp.compare_eq_iff_eq.mp heq
    obtain rfl := CapabilityEntry.allow.inj (Option.some.inj (h.symm.trans hentry))
    exact ⟨caps', rfl, hsub⟩
  · exact ⟨capSet, h, fun _ hc => hc⟩

theorem insert_allow_none (hentry : acl[key]? = some (.allow caps)) (h : acl[key']? = none) :
    (acl.insert key (.allow caps'))[key']? = none := by
  rw [Std.ExtTreeMap.getElem?_insert]
  split
  · rename_i heq
    obtain rfl := Std.LawfulEqCmp.compare_eq_iff_eq.mp heq
    exact absurd (hentry.symm.trans h) (by simp)
  · exact h

end Entries

/-- What speaks for a caller and grants a capability is an allow. -/
theorem MaCore.Lawful.checkCap_iff {core : MaCore} (hlaw : core.Lawful) {acl : AclMap}
    {caller cap : String} : core.checkCap acl caller cap = true ↔
      ∃ capSet, (acl[core.normalizePrincipal caller]? = some (.allow capSet) ∨
        acl[core.normalizePrincipal caller]? = none ∧ acl["*"]? = some (.allow capSet)) ∧
        (CapabilityEntry.allow capSet).grants cap = true := by
  rw [hlaw, Option.any_eq_true, MaCore.entryFor]
  cases hself : acl[core.normalizePrincipal caller]? with
  | none =>
    constructor
    · rintro ⟨entry, hentry, hgrants⟩
      cases entry with
      | deny => exact absurd hgrants (by simp [CapabilityEntry.grants])
      | allow capSet => exact ⟨capSet, .inr ⟨rfl, hentry⟩, hgrants⟩
    · rintro ⟨capSet, hentry | ⟨-, hentry⟩, hgrants⟩
      · exact absurd hentry (by simp)
      · exact ⟨.allow capSet, hentry, hgrants⟩
  | some entry =>
    constructor
    · rintro ⟨entry', hentry, hgrants⟩
      obtain rfl : entry = entry' := Option.some.inj hentry
      cases entry with
      | deny => exact absurd hgrants (by simp [CapabilityEntry.grants])
      | allow capSet => exact ⟨capSet, .inl rfl, hgrants⟩
    · rintro ⟨capSet, hentry | ⟨hnone, -⟩, hgrants⟩
      · exact ⟨entry, rfl, by rwa [Option.some.inj hentry]⟩
      · exact absurd hnone (by simp)

/-- **The interface of `ma_core` promises what the laws take of it.** -/
theorem MaCore.Lawful.monotone {core : MaCore} (hlaw : core.Lawful) : core.Monotone where
  deny acl key caller cap h := by
    obtain ⟨capSet, hentry, hgrants⟩ := hlaw.checkCap_iff.mp h
    refine hlaw.checkCap_iff.mpr ⟨capSet, ?_, hgrants⟩
    rcases hentry with hself | ⟨hnone, hwild⟩
    · exact .inl (insert_deny_allow hself)
    · exact .inr ⟨insert_deny_none hnone, insert_deny_allow hwild⟩
  enlarge acl key caps caps' caller cap hkey hsub h := by
    obtain ⟨capSet, hentry, hgrants⟩ := hlaw.checkCap_iff.mp h
    rcases hentry with hself | ⟨hnone, hwild⟩
    · obtain ⟨capSet', hself', hsub'⟩ := insert_allow_allow hkey hsub hself
      exact hlaw.checkCap_iff.mpr
        ⟨capSet', .inl hself', CapabilityEntry.grants_mono hsub' hgrants⟩
    · obtain ⟨capSet', hwild', hsub'⟩ := insert_allow_allow hkey hsub hwild
      exact hlaw.checkCap_iff.mpr
        ⟨capSet', .inr ⟨insert_allow_none hkey hnone, hwild'⟩,
          CapabilityEntry.grants_mono hsub' hgrants⟩

/-! ## The laws -/

section Laws

variable {core : MaCore} {acl : AclMap} {caller : String} {caps : List String}
  {answer : String → Except Error (List String)}

/-- Capabilities are alternatives. -/
theorem checkWith_ok_iff_exists : checkWith core caller answer acl caps = .ok () ↔
    ∃ cap ∈ caps, checkWith core caller answer acl [cap] = .ok () := by
  have hgranted : GrantedOutright core caller acl caps ↔
      ∃ cap ∈ caps, GrantedOutright core caller acl [cap] := by
    simp [GrantedOutright]
  have hallowed : AllowedByGroup core caller answer acl caps ↔
      ∃ cap ∈ caps, AllowedByGroup core caller answer acl [cap] := by
    constructor
    · rintro ⟨key, capSet, hentry, hgroup, hmember, cap, hcap, hgrants⟩
      exact ⟨cap, hcap, key, capSet, hentry, hgroup, hmember, cap, List.mem_singleton_self _,
        hgrants⟩
    · rintro ⟨cap, hcap, key, capSet, hentry, hgroup, hmember, cap', hcap', hgrants⟩
      obtain rfl := List.mem_singleton.mp hcap'
      exact ⟨key, capSet, hentry, hgroup, hmember, cap', hcap, hgrants⟩
  simp only [checkWith_ok_iff, hgranted, hallowed]
  constructor
  · rintro ⟨hno, ⟨cap, hcap, h⟩ | ⟨hgroup, cap, hcap, h⟩⟩
    · exact ⟨cap, hcap, hno, .inl h⟩
    · exact ⟨cap, hcap, hno, .inr ⟨hgroup, h⟩⟩
  · rintro ⟨cap, hcap, hno, h | ⟨hgroup, h⟩⟩
    · exact ⟨hno, .inl ⟨cap, hcap, h⟩⟩
    · exact ⟨hno, .inr ⟨hgroup, cap, hcap, h⟩⟩

/-- A deny only refuses. -/
theorem checkWith_insert_deny (hmono : core.Monotone) {key : String}
    (h : checkWith core caller answer (acl.insert key .deny) caps = .ok ()) :
    checkWith core caller answer acl caps = .ok () := by
  obtain ⟨hno, haccepted⟩ := checkWith_ok_iff.mp h
  refine checkWith_ok_iff.mpr
    ⟨fun hdenied => hno (hdenied.imp insert_deny_deny insert_deny_deny), ?_⟩
  rcases haccepted with ⟨cap, hcap, hcheck⟩ | ⟨hgroup, hallowed⟩
  · exact .inl ⟨cap, hcap, hmono.deny _ _ _ _ hcheck⟩
  · refine .inr ⟨?_, ?_⟩
    · rintro ⟨key', hentry, hmember⟩
      exact hgroup ⟨key', insert_deny_deny hentry, hmember⟩
    · obtain ⟨key', capSet, hentry, hmember⟩ := hallowed
      exact ⟨key', capSet, insert_deny_allow hentry, hmember⟩

/-- A larger `Allow` set only accepts. -/
theorem checkWith_insert_allow (hmono : core.Monotone) {key : String}
    {capSet capSet' : Std.ExtTreeSet String compare} (hkey : acl[key]? = some (.allow capSet))
    (hsub : ∀ c ∈ capSet, c ∈ capSet') (h : checkWith core caller answer acl caps = .ok ()) :
    checkWith core caller answer (acl.insert key (.allow capSet')) caps = .ok () := by
  obtain ⟨hno, haccepted⟩ := checkWith_ok_iff.mp h
  refine checkWith_ok_iff.mpr ⟨fun hdenied => hno ?_, ?_⟩
  · exact hdenied.imp (insert_allow_deny_iff hkey).mp (insert_allow_deny_iff hkey).mp
  rcases haccepted with ⟨cap, hcap, hcheck⟩ | ⟨hgroup, hallowed⟩
  · exact .inl ⟨cap, hcap, hmono.enlarge _ _ _ _ _ _ hkey hsub hcheck⟩
  · refine .inr ⟨?_, ?_⟩
    · rintro ⟨key', hentry, hmember⟩
      exact hgroup ⟨key', (insert_allow_deny_iff hkey).mp hentry, hmember⟩
    · obtain ⟨key', granted, hentry, hprefix, hmember, cap, hcap, hgrants⟩ := hallowed
      obtain ⟨granted', hentry', hsub'⟩ := insert_allow_allow hkey hsub hentry
      exact ⟨key', granted', hentry', hprefix, hmember, cap, hcap,
        CapabilityEntry.grants_mono hsub' hgrants⟩

/-- Without denies, what `check_cap` and the caller's groups grant accumulates. -/
theorem checkWith_no_deny (hdeny : ∀ key : String, acl[key]? ≠ some .deny) (cap : String) :
    checkWith core caller answer acl [cap] = .ok () ↔
      core.checkCap acl caller cap = true ∨
        ∃ key capSet, acl[key]? = some (.allow capSet) ∧ Text.startsWith key groupPrefix = true ∧
          ResolvedMember core caller answer key ∧ (cap ∈ capSet ∨ "*" ∈ capSet) := by
  have houtright : ¬ DeniedOutright core caller acl := not_or.mpr ⟨hdeny _, hdeny _⟩
  have hgroup : ¬ DeniedByGroup core caller answer acl := fun ⟨key, hentry, _⟩ => hdeny key hentry
  rw [checkWith_ok_iff, and_iff_right houtright, and_iff_right hgroup]
  simp only [GrantedOutright, AllowedByGroup, List.mem_singleton, exists_eq_left,
    CapabilityEntry.grants_allow_iff]

/-- **Laws of the ACL evaluator.** With a `check_cap` that is monotone, for every map, caller, list
of capabilities and resolver: the order in which the entries are visited does not matter; the
capabilities are alternatives; a deny, written or written over an entry, only refuses; a larger
`Allow` set only accepts; and without denies, the groups' capabilities accumulate. -/
theorem evaluator_laws (hmono : core.Monotone) :
    (∀ order : List (String × CapabilityEntry), order.Perm acl.toList →
      (checkVisiting core caller answer order acl caps = .ok () ↔
        checkWith core caller answer acl caps = .ok ())) ∧
    (checkWith core caller answer acl caps = .ok () ↔
      ∃ cap ∈ caps, checkWith core caller answer acl [cap] = .ok ()) ∧
    (∀ key, checkWith core caller answer (acl.insert key .deny) caps = .ok () →
      checkWith core caller answer acl caps = .ok ()) ∧
    (∀ key capSet capSet', acl[key]? = some (.allow capSet) → (∀ c ∈ capSet, c ∈ capSet') →
      checkWith core caller answer acl caps = .ok () →
        checkWith core caller answer (acl.insert key (.allow capSet')) caps = .ok ()) ∧
    ((∀ key : String, acl[key]? ≠ some .deny) → ∀ cap,
      (checkWith core caller answer acl [cap] = .ok () ↔
        core.checkCap acl caller cap = true ∨
          ∃ key capSet, acl[key]? = some (.allow capSet) ∧
            Text.startsWith key groupPrefix = true ∧ ResolvedMember core caller answer key ∧
            (cap ∈ capSet ∨ "*" ∈ capSet))) :=
  ⟨fun _ horder => (checkVisiting_ok_iff horder).trans checkWith_ok_iff.symm,
    checkWith_ok_iff_exists,
    fun _ h => checkWith_insert_deny hmono h,
    fun _ _ _ hkey hsub h => checkWith_insert_allow hmono hkey hsub h,
    fun hdeny cap => checkWith_no_deny hdeny cap⟩

end Laws

/-- Readers read, writers write. -/
def readersAndWriters : AclMap :=
  (∅ : AclMap).insert "+#readers" (.fromCaps [":read"]) |>.insert "+#writers" (.fromCaps [":write"])

/-- Alice is in every group. -/
def aliceEverywhere (_ : String) : Except Error (List String) := .ok ["did:ma:alice"]

theorem readersAndWriters_no_deny (key : String) :
    readersAndWriters[key]? ≠ some .deny := by
  unfold readersAndWriters CapabilityEntry.fromCaps
  rw [Std.ExtTreeMap.getElem?_insert, Std.ExtTreeMap.getElem?_insert]
  split
  · simp
  · split <;> simp

/-- Who is in both groups may write, in either order of the entries. -/
theorem evaluator_laws_groups :
    checkWith tableCore "did:ma:alice" aliceEverywhere readersAndWriters [":write"] = .ok () ∧
    checkVisiting tableCore "did:ma:alice" aliceEverywhere readersAndWriters.toList.reverse
      readersAndWriters [":write"] = .ok () := by
  obtain ⟨horder, -, -, -, hgroups⟩ := @evaluator_laws tableCore readersAndWriters "did:ma:alice"
    [":write"] aliceEverywhere tableCore_lawful.monotone
  have hmember : ResolvedMember tableCore "did:ma:alice" aliceEverywhere "+#writers" :=
    ⟨["did:ma:alice"], rfl, "did:ma:alice", List.mem_cons_self, rfl⟩
  have hentry : readersAndWriters["+#writers"]? =
      some (.allow (Std.ExtTreeSet.ofList [":write"] compare)) := by decide +kernel
  have haccepted := (hgroups readersAndWriters_no_deny ":write").mpr
    (.inr ⟨"+#writers", _, hentry, by decide, hmember, .inl (by decide +kernel)⟩)
  exact ⟨haccepted, (horder _ (List.reverse_perm _)).mpr haccepted⟩

end MaRuntime
