import MaRuntime.FiniteEnv

/-!
# Denies, groups and groups that cannot be resolved

`check_full` decides in three stages: the denies of the caller and of `*`, then what `check_cap`
grants, then the groups, the denying ones first. A resolver tells who is in a group; of a group that
it cannot resolve nobody is a member.

* `denied_accepted_iff`: who is denied, by himself, by `*` or by a group, is accepted exactly if
  only groups deny him and `check_cap` grants a capability; `group_deny_bypassed`: that happens.
* `unresolved_accepted_iff`: who is accepted while groups cannot be resolved is accepted with their
  answers too, unless one of these groups denies him; `unresolved_deny_opens`: that happens.
-/

namespace MaRuntime

/-! ## Denies -/

section Denies

variable {core : MaCore} {caller : String} {answer : String → Except Error (List String)}

/-- What `check_cap` grants is in the caller's own entry, or else in that of `*`. -/
theorem grantedOutright_iff (hlaw : core.Lawful) {acl : AclMap} {caps : List String} :
    GrantedOutright core caller acl caps ↔
      ∃ capSet cap, core.entryFor acl caller = some (.allow capSet) ∧ cap ∈ caps ∧
        (CapabilityEntry.allow capSet).grants cap = true := by
  constructor
  · rintro ⟨cap, hcap, hcheck⟩
    rw [hlaw, Option.any_eq_true] at hcheck
    obtain ⟨entry, hentry, hgrants⟩ := hcheck
    cases entry with
    | deny => exact absurd hgrants (by simp [CapabilityEntry.grants])
    | allow capSet => exact ⟨capSet, cap, hentry, hcap, hgrants⟩
  · rintro ⟨capSet, cap, hentry, hcap, hgrants⟩
    refine ⟨cap, hcap, ?_⟩
    rw [hlaw, hentry]
    exact hgrants

/-- **Whom a deny refuses.** Who is denied, by his own entry, by that of `*` or by that of a group
he is in, is accepted exactly if only groups deny him, and his own entry, or else that of `*`,
allows him a capability: whatever other groups allow. -/
theorem denied_accepted_iff (hlaw : core.Lawful) {acl : AclMap} {caps : List String}
    (hdenied : DeniedOutright core caller acl ∨ DeniedByGroup core caller answer acl) :
    checkWith core caller answer acl caps = .ok () ↔
      ¬ DeniedOutright core caller acl ∧
        ∃ capSet cap, core.entryFor acl caller = some (.allow capSet) ∧ cap ∈ caps ∧
          (CapabilityEntry.allow capSet).grants cap = true := by
  rw [checkWith_ok_iff, ← grantedOutright_iff hlaw]
  constructor
  · rintro ⟨houtright, hgranted | ⟨hgroup, -⟩⟩
    · exact ⟨houtright, hgranted⟩
    · exact absurd (hdenied.resolve_left houtright) hgroup
  · rintro ⟨houtright, hgranted⟩
    exact ⟨houtright, .inl hgranted⟩

/-- A deny of `*` refuses a member of a group that allows everything. -/
example : checkWith tableCore "did:ma:alice" (fun _ => .ok ["did:ma:alice"])
    ((∅ : AclMap).insert "*" .deny |>.insert "+#friends" (.fromCaps ["*"])) [":read"] ≠ .ok () := by
  decide +kernel

end Denies

/-! ## Groups that cannot be resolved -/

section Unresolved

variable {core : MaCore} {caller : String} {answer answer' : String → Except Error (List String)}

/-- The resolver of the second run answers like the first, but for groups it fails on. -/
def FailsSometimes (answer answer' : String → Except Error (List String)) : Prop :=
  ∀ key, answer' key = answer key ∨ ∃ e, answer' key = .error e

/-- Members that are still resolved were members. -/
theorem FailsSometimes.resolvedMember (h : FailsSometimes answer answer') {key : String}
    (hmember : ResolvedMember core caller answer' key) : ResolvedMember core caller answer key := by
  obtain ⟨members, hmembers, hp⟩ := hmember
  rcases h key with hsame | ⟨e, herr⟩
  · exact ⟨members, hsame.symm.trans hmembers, hp⟩
  · exact absurd (herr.symm.trans hmembers) nofun

theorem FailsSometimes.allowedByGroup (h : FailsSometimes answer answer') {acl : AclMap}
    {caps : List String} (hallowed : AllowedByGroup core caller answer' acl caps) :
    AllowedByGroup core caller answer acl caps := by
  obtain ⟨key, capSet, hentry, hgroup, hmember, hcap⟩ := hallowed
  exact ⟨key, capSet, hentry, hgroup, h.resolvedMember hmember, hcap⟩

/-- A group denies the caller, but cannot be resolved. -/
def UnresolvedDeny (core : MaCore) (caller : String)
    (answer answer' : String → Except Error (List String)) (acl : AclMap) : Prop :=
  ∃ key, (∃ e, answer' key = .error e) ∧ acl[key]? = some .deny ∧
    Text.startsWith key groupPrefix = true ∧ ResolvedMember core caller answer key

theorem FailsSometimes.deniedByGroup_iff (h : FailsSometimes answer answer') {acl : AclMap} :
    DeniedByGroup core caller answer acl ↔
      DeniedByGroup core caller answer' acl ∨ UnresolvedDeny core caller answer answer' acl := by
  constructor
  · rintro ⟨key, hentry, hgroup, hmember⟩
    rcases h key with hsame | herr
    · refine .inl ⟨key, hentry, hgroup, ?_⟩
      obtain ⟨members, hmembers, hp⟩ := hmember
      exact ⟨members, hsame.trans hmembers, hp⟩
    · exact .inr ⟨key, herr, hentry, hgroup, hmember⟩
  · rintro (⟨key, hentry, hgroup, hmember⟩ | ⟨key, -, hentry, hgroup, hmember⟩)
    · exact ⟨key, hentry, hgroup, h.resolvedMember hmember⟩
    · exact ⟨key, hentry, hgroup, hmember⟩

/-- **Who is accepted while groups cannot be resolved is accepted with their answers exactly if** he
is granted a capability outright, or none of these groups denies him. -/
theorem unresolved_accepted_iff (h : FailsSometimes answer answer') {acl : AclMap}
    {caps : List String} (hok : checkWith core caller answer' acl caps = .ok ()) :
    checkWith core caller answer acl caps = .ok () ↔
      GrantedOutright core caller acl caps ∨ ¬ UnresolvedDeny core caller answer answer' acl := by
  obtain ⟨houtright, hcase⟩ := checkWith_ok_iff.mp hok
  rw [checkWith_ok_iff, h.deniedByGroup_iff]
  constructor
  · rintro ⟨-, hgranted | ⟨hdenied, -⟩⟩
    · exact .inl hgranted
    · exact .inr fun hunresolved => hdenied (.inr hunresolved)
  · rintro (hgranted | hunresolved)
    · exact ⟨houtright, .inl hgranted⟩
    · refine ⟨houtright, hcase.imp_right fun ⟨hdenied, hallowed⟩ => ⟨?_, h.allowedByGroup hallowed⟩⟩
      exact not_or.mpr ⟨hdenied, hunresolved⟩

end Unresolved

/-! ## Friends and enemies -/

/-- Friends may read, and enemies are denied. -/
def friendsAndEnemies : AclMap :=
  (∅ : AclMap).insert "+#enemies" .deny |>.insert "+#friends" (.fromCaps [":read"])

/-- Anyone may read, but enemies are denied. -/
def allButEnemies : AclMap :=
  (∅ : AclMap).insert "+#enemies" .deny |>.insert "*" (.fromCaps [":read"])

/-- Alice is a friend and an enemy. -/
def everyGroup (_ : String) : Except Error (List String) := .ok ["did:ma:alice"]

/-- The enemies cannot be asked. -/
def enemiesDown (key : String) : Except Error (List String) :=
  if key = "+#enemies" then .error ["group actor +#enemies not found in registry"]
  else .ok ["did:ma:alice"]

/-- Alice is a friend, and Bob the only enemy. -/
def bobOnly (key : String) : Except Error (List String) :=
  if key = "+#enemies" then .ok ["did:ma:bob"] else .ok ["did:ma:alice"]

theorem everyGroup_enemies {acl : AclMap} (h : acl["+#enemies"]? = some .deny) :
    DeniedByGroup tableCore "did:ma:alice" everyGroup acl :=
  ⟨"+#enemies", h, by decide, ["did:ma:alice"], rfl, "did:ma:alice", List.mem_cons_self, rfl⟩

/-- An enemy is denied though a friend. -/
theorem denied_accepted_iff_friend :
    checkWith tableCore "did:ma:alice" everyGroup friendsAndEnemies [":read"] ≠ .ok () := by
  have hentry : friendsAndEnemies["+#enemies"]? = some .deny := by decide +kernel
  have hnone : tableCore.entryFor friendsAndEnemies "did:ma:alice" = none := by decide +kernel
  intro h
  obtain ⟨-, capSet, cap, hallow, -⟩ := (@denied_accepted_iff tableCore "did:ma:alice" everyGroup
    tableCore_lawful friendsAndEnemies [":read"] (.inr (everyGroup_enemies hentry))).mp h
  exact absurd (hnone.symm.trans hallow) nofun

/-- **An enemy is accepted** where anyone is: the groups are not asked. -/
theorem group_deny_bypassed :
    DeniedByGroup tableCore "did:ma:alice" everyGroup allButEnemies ∧
      checkWith tableCore "did:ma:alice" everyGroup allButEnemies [":read"] = .ok () :=
  ⟨everyGroup_enemies (by decide +kernel), by decide +kernel⟩

theorem failsSometimes_enemiesDown {answer : String → Except Error (List String)}
    (h : ∀ key, key ≠ "+#enemies" → answer key = .ok ["did:ma:alice"]) :
    FailsSometimes answer enemiesDown := by
  intro key
  by_cases hkey : key = "+#enemies"
  · exact .inr ⟨_, if_pos hkey⟩
  · exact .inl ((if_neg hkey).trans (h key hkey).symm)

/-- A friend is accepted whether or not the enemies can be asked, as Bob is the only one. -/
theorem unresolved_accepted_iff_bob :
    checkWith tableCore "did:ma:alice" bobOnly friendsAndEnemies [":read"] = .ok () := by
  have hfails : FailsSometimes bobOnly enemiesDown :=
    failsSometimes_enemiesDown fun _ hkey => if_neg hkey
  have hok : checkWith tableCore "did:ma:alice" enemiesDown friendsAndEnemies
      [":read"] = .ok () := by
    decide +kernel
  refine (@unresolved_accepted_iff tableCore "did:ma:alice" bobOnly enemiesDown hfails
    friendsAndEnemies [":read"] hok).mpr (.inr ?_)
  rintro ⟨key, ⟨e, herr⟩, -, -, members, hmembers, p, hp, hsame⟩
  by_cases hkey : key = "+#enemies"
  · obtain rfl := Except.ok.inj ((if_pos hkey).symm.trans hmembers)
    obtain rfl := List.mem_singleton.mp hp
    exact absurd hsame (by decide +kernel)
  · exact absurd ((if_neg hkey).symm.trans herr) nofun

/-- **An enemy is accepted as a friend** while the enemies cannot be asked. -/
theorem unresolved_deny_opens :
    FailsSometimes everyGroup enemiesDown ∧
      checkWith tableCore "did:ma:alice" enemiesDown friendsAndEnemies [":read"] = .ok () ∧
      checkWith tableCore "did:ma:alice" everyGroup friendsAndEnemies [":read"] ≠ .ok () :=
  ⟨failsSometimes_enemiesDown fun _ _ => rfl, by decide +kernel, by decide +kernel⟩

end MaRuntime
