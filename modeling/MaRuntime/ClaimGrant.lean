import Mathlib.Algebra.Order.BigOperators.Group.List
import Mathlib.Data.List.TakeWhile
import MaRuntime.AclLaws
import MaRuntime.Startup

/-!
# What a claim grants to others

`POST /claim` writes `["*"]` under the claimed string, whatever the string is. To the evaluator some
keys do not stand for a principal: `*` speaks for all who have no entry, `#` for the entities of the
runtime itself, and `+group` for the members of a group.

* `MaCore.Normalizing`: what is taken of `normalize_principal`.
* `lookup_claimed`: what `check_cap` finds after the claim.
* `Spares`: nobody but the claimant gains from the claim.
* **`claim_spares_iff`**: nobody else's verdict changes, iff the claim spares them.
* `claim_wildcard_opens`: a claim of `*` lets everyone in.
-/

namespace MaRuntime

/-- **What is taken of `normalize_principal`**: a normalised principal stays as it is, and there are
more principals outside the runtime than any list has. -/
structure MaCore.Normalizing (core : MaCore) : Prop where
  idem : ∀ p, core.normalizePrincipal (core.normalizePrincipal p) = core.normalizePrincipal p
  endless : ∀ l : List String, ∃ p, Text.startsWith p "#" = false ∧ core.normalizePrincipal p ∉ l

/-- Looking the keys up, `check_cap` comes to `key`: the ACL has none of those before it. -/
def ComesTo (acl : AclMap) (l : List String) (key : String) : Prop :=
  l.find? (fun k => decide (k = key) || acl[k]?.isSome) = some key

instance (acl : AclMap) (l : List String) (key : String) : Decidable (ComesTo acl l key) :=
  inferInstanceAs (Decidable (_ = _))

/-- Another group with a deny has the principal. -/
def DeniedByOther (core : MaCore) (p : String) (answer : String → Except Error (List String))
    (acl : AclMap) (owner : String) : Prop :=
  ∃ key ≠ owner, acl[key]? = some .deny ∧ Text.startsWith key groupPrefix = true ∧
    ResolvedMember core p answer key

/-- The principal has all capabilities, outright or by a group, unless it is denied outright. -/
def HasAll (core : MaCore) (p : String) (answer : String → Except Error (List String))
    (acl : AclMap) : Prop :=
  GrantedOutright core p acl ["*"] ∨
    ¬ DeniedByGroup core p answer acl ∧ AllowedByGroup core p answer acl ["*"]

/-- **The claim gives nobody else anything**: it is of `*` only where `*` has all capabilities; of
`#` only if each other entity that `#` would speak for is denied anyway or has all capabilities
already; and of a group only if so is each other member. -/
structure Spares (core : MaCore) (keys : String → List String)
    (answer : String → Except Error (List String)) (acl : AclMap) (owner : String) : Prop where
  wildcard : owner = "*" → ∃ caps, acl["*"]? = some (.allow caps) ∧ "*" ∈ caps
  entities : owner = "#" → ∀ p, core.normalizePrincipal p ≠ core.normalizePrincipal owner →
    ComesTo acl (keys p) owner → DeniedOutright core p acl ∨ HasAll core p answer acl
  members : Text.startsWith owner groupPrefix = true → ∀ p, ResolvedMember core p answer owner →
    core.normalizePrincipal p ≠ core.normalizePrincipal owner →
      (DeniedOutright core p acl ∨ DeniedByOther core p answer acl owner) ∨
      HasAll core p answer acl

/-- The root ACL after a claim. -/
def claimedAcl (acl : AclMap) (owner : String) : AclMap := acl.insert owner (.fromCaps ["*"])

section Entries

variable {acl : AclMap} {owner key : String}

theorem claimedAcl_self : (claimedAcl acl owner)[owner]? = some (.fromCaps ["*"]) :=
  Std.ExtTreeMap.getElem?_insert_self

theorem claimedAcl_other (h : key ≠ owner) : (claimedAcl acl owner)[key]? = acl[key]? := by
  unfold claimedAcl
  exact getElem?_insert_of_ne h

theorem claimedAcl_deny (h : (claimedAcl acl owner)[key]? = some .deny) :
    key ≠ owner ∧ acl[key]? = some .deny := by
  have hne : key ≠ owner := by
    rintro rfl
    rw [claimedAcl_self] at h
    exact absurd h (by simp [CapabilityEntry.fromCaps])
  exact ⟨hne, claimedAcl_other hne ▸ h⟩

/-- The claimed entry grants everything. -/
theorem fromCaps_all_grants (cap : String) : (CapabilityEntry.fromCaps ["*"]).grants cap = true :=
  CapabilityEntry.grants_allow_iff.mpr (.inr (by simp))

/-- `*` is no group. -/
theorem wildcard_not_group : Text.startsWith "*" groupPrefix ≠ true := by decide

theorem comesTo_self (l : List String) : ComesTo acl (key :: l) key :=
  List.find?_cons_of_pos (by simp)

theorem not_comesTo_of_some {k : String} {entry : CapabilityEntry} (l : List String) (hk : k ≠ key)
    (hentry : acl[k]? = some entry) : ¬ ComesTo acl (k :: l) key := by
  unfold ComesTo
  rw [List.find?_cons_of_pos (by rw [hentry]; simp)]
  exact fun h => hk (Option.some.inj h)

theorem comesTo_cons_none {k : String} {l : List String} (hk : k ≠ key) (hentry : acl[k]? = none) :
    ComesTo acl (k :: l) key ↔ ComesTo acl l key := by
  unfold ComesTo
  rw [List.find?_cons_of_neg (by rw [hentry]; simp [hk])]

/-- The lookup comes only to keys that are looked up. -/
theorem ComesTo.mem {l : List String} (h : ComesTo acl l key) : key ∈ l :=
  List.mem_of_find?_eq_some h

/-- **What is looked up after the claim**: the claimed entry if the lookup comes to it, else what
was looked up before. -/
theorem lookup_claimed (l : List String) :
    (l.findSome? fun key => (claimedAcl acl owner)[key]?) =
      if ComesTo acl l owner then some (.fromCaps ["*"])
      else l.findSome? fun key => acl[key]? := by
  induction l with
  | nil => rw [if_neg fun h => absurd h.mem List.not_mem_nil]; rfl
  | cons k l ih =>
    by_cases hk : k = owner
    · subst hk
      rw [List.findSome?_cons, claimedAcl_self, if_pos (comesTo_self l)]
    · rw [List.findSome?_cons, List.findSome?_cons, claimedAcl_other hk]
      cases hentry : acl[k]? with
      | some entry => rw [if_neg (not_comesTo_of_some l hk hentry)]
      | none =>
        simp only [comesTo_cons_none hk hentry]
        exact ih

/-- Where the lookup comes to a key that the ACL has, it finds that entry. -/
theorem lookup_comesTo {entry : CapabilityEntry} (hentry : acl[key]? = some entry) :
    ∀ l : List String, ComesTo acl l key → (l.findSome? fun k => acl[k]?) = some entry
  | [], h => absurd h.mem List.not_mem_nil
  | k :: l, h => by
    by_cases hk : k = key
    · rw [List.findSome?_cons, hk, hentry]
    · cases hother : acl[k]? with
      | some other => exact absurd h (not_comesTo_of_some l hk hother)
      | none =>
        rw [List.findSome?_cons, hother]
        exact lookup_comesTo hentry l ((comesTo_cons_none hk hother).mp h)

end Entries

section Others

variable {core : MaCore} {keys : String → List String}
  {answer : String → Except Error (List String)} {acl : AclMap} {p owner : String}
  {caps : List String}

/-- The entry of another principal is not under the claimed key. -/
theorem MaCore.Normalizing.own_ne (hnorm : core.Normalizing)
    (hother : core.normalizePrincipal p ≠ core.normalizePrincipal owner) :
    core.normalizePrincipal p ≠ owner := by
  intro h
  rw [← h, hnorm.idem] at hother
  exact hother rfl

/-- Two ACLs that agree on each stage give the same verdict. -/
theorem verdict_congr {acl' : AclMap}
    (hdenied : DeniedOutright core p acl' ↔ DeniedOutright core p acl)
    (hgranted : GrantedOutright core p acl' caps ↔ GrantedOutright core p acl caps)
    (hgroup : DeniedByGroup core p answer acl' ↔ DeniedByGroup core p answer acl)
    (hallowed : AllowedByGroup core p answer acl' caps ↔ AllowedByGroup core p answer acl caps) :
    checkWith core p answer acl' caps = .ok () ↔ checkWith core p answer acl caps = .ok () := by
  rw [checkWith_ok_iff, checkWith_ok_iff, hdenied, hgranted, hgroup, hallowed]

/-- Whoever is not in a claimed group is denied by the same groups as before. -/
theorem deniedByGroup_claimed
    (hout : ¬ (Text.startsWith owner groupPrefix = true ∧ ResolvedMember core p answer owner)) :
    DeniedByGroup core p answer (claimedAcl acl owner) ↔ DeniedByGroup core p answer acl := by
  constructor
  · rintro ⟨key, hentry, hgroup, hmember⟩
    exact ⟨key, (claimedAcl_deny hentry).2, hgroup, hmember⟩
  · rintro ⟨key, hentry, hgroup, hmember⟩
    have hkey : key ≠ owner := by
      rintro rfl
      exact hout ⟨hgroup, hmember⟩
    exact ⟨key, (claimedAcl_other hkey).trans hentry, hgroup, hmember⟩

/-- Whoever is not in a claimed group is allowed by the same groups as before. -/
theorem allowedByGroup_claimed
    (hout : ¬ (Text.startsWith owner groupPrefix = true ∧ ResolvedMember core p answer owner)) :
    AllowedByGroup core p answer (claimedAcl acl owner) caps ↔
      AllowedByGroup core p answer acl caps := by
  have hkey {key : String} (hgroup : Text.startsWith key groupPrefix = true)
      (hmember : ResolvedMember core p answer key) : key ≠ owner := by
    rintro rfl
    exact hout ⟨hgroup, hmember⟩
  constructor
  · rintro ⟨key, capSet, hentry, hgroup, hmember, hcap⟩
    rw [claimedAcl_other (hkey hgroup hmember)] at hentry
    exact ⟨key, capSet, hentry, hgroup, hmember, hcap⟩
  · rintro ⟨key, capSet, hentry, hgroup, hmember, hcap⟩
    rw [← claimedAcl_other (hkey hgroup hmember)] at hentry
    exact ⟨key, capSet, hentry, hgroup, hmember, hcap⟩

/-- A claim of anything but `*` leaves the denies of others. -/
theorem deniedOutright_claimed (hown : core.normalizePrincipal p ≠ owner) (hwild : owner ≠ "*") :
    DeniedOutright core p (claimedAcl acl owner) ↔ DeniedOutright core p acl := by
  rw [DeniedOutright, DeniedOutright, claimedAcl_other hown, claimedAcl_other hwild.symm]

/-- What is granted is in the entry that is looked up. -/
theorem MaCore.LooksUp.granted_iff (hlook : core.LooksUp keys) :
    GrantedOutright core p acl caps ↔
      ∃ cap ∈ caps, ((keys p).findSome? fun key => acl[key]?).any (·.grants cap) = true := by
  unfold GrantedOutright
  simp only [hlook.decides]

/-- `check_cap` looks up no other keys. -/
theorem MaCore.LooksUp.mem_keys (hlook : core.LooksUp keys) {key : String} (hkey : key ∈ keys p) :
    key = core.normalizePrincipal p ∨ key = "#" ∨ key = "*" := by
  by_cases hentity : Text.startsWith p "#" = true
  · exact hlook.entity p hentity key hkey
  · rw [hlook.remote p (Bool.eq_false_of_not_eq_true hentity)] at hkey
    rcases List.mem_cons.mp hkey with hown | hwild
    · exact .inl hown
    · exact .inr (.inr (List.mem_singleton.mp hwild))

/-- A claim under a key that the lookup does not come to leaves what is granted. -/
theorem grantedOutright_claimed (hlook : core.LooksUp keys)
    (hout : ¬ ComesTo acl (keys p) owner) :
    GrantedOutright core p (claimedAcl acl owner) caps ↔ GrantedOutright core p acl caps := by
  rw [hlook.granted_iff, hlook.granted_iff, lookup_claimed, if_neg hout]

/-- A claim under one that it comes to grants everything. -/
theorem grantedOutright_comesTo (hlook : core.LooksUp keys)
    (hcomes : ComesTo acl (keys p) owner) (hcaps : caps ≠ []) :
    GrantedOutright core p (claimedAcl acl owner) caps := by
  obtain ⟨cap, hcap⟩ := List.exists_mem_of_ne_nil caps hcaps
  rw [hlook.granted_iff, lookup_claimed, if_pos hcomes]
  exact ⟨cap, hcap, fromCaps_all_grants cap⟩

/-! ## Spared -/

/-- What grants `*` grants anything. -/
theorem GrantedOutright.of_all (hlook : core.LooksUp keys)
    (hall : GrantedOutright core p acl ["*"]) (hcaps : caps ≠ []) :
    GrantedOutright core p acl caps := by
  obtain ⟨cap, hcap⟩ := List.exists_mem_of_ne_nil caps hcaps
  obtain ⟨all, hmem, hany⟩ := hlook.granted_iff.mp hall
  obtain rfl := List.mem_singleton.mp hmem
  obtain ⟨entry, hentry, hgrants⟩ := (Option.any_eq_true _ _).mp hany
  exact hlook.granted_iff.mpr
    ⟨cap, hcap,
      (Option.any_eq_true _ _).mpr ⟨entry, hentry, CapabilityEntry.grants_of_all hgrants cap⟩⟩

theorem AllowedByGroup.of_all (hall : AllowedByGroup core p answer acl ["*"]) (hcaps : caps ≠ []) :
    AllowedByGroup core p answer acl caps := by
  obtain ⟨cap, hcap⟩ := List.exists_mem_of_ne_nil caps hcaps
  obtain ⟨key, capSet, hentry, hgroup, hmember, all, hmem, hgrants⟩ := hall
  obtain rfl := List.mem_singleton.mp hmem
  exact ⟨key, capSet, hentry, hgroup, hmember, cap, hcap, CapabilityEntry.grants_of_all hgrants cap⟩

/-- A claim takes no group's allowance away. -/
theorem AllowedByGroup.claimed (h : AllowedByGroup core p answer acl caps) :
    AllowedByGroup core p answer (claimedAcl acl owner) caps := by
  obtain ⟨key, capSet, hentry, hgroup, hmember, cap, hcap, hgrants⟩ := h
  by_cases hkey : key = owner
  · subst hkey
    exact ⟨key, _, claimedAcl_self, hgroup, hmember, cap, hcap, fromCaps_all_grants cap⟩
  · exact ⟨key, capSet, (claimedAcl_other hkey).trans hentry, hgroup, hmember, cap, hcap, hgrants⟩

/-- A claim makes no group deny. -/
theorem DeniedByGroup.of_claimed (h : DeniedByGroup core p answer (claimedAcl acl owner)) :
    DeniedByGroup core p answer acl := by
  obtain ⟨key, hentry, h⟩ := h
  exact ⟨key, (claimedAcl_deny hentry).2, h⟩

/-- A member of a claimed group is allowed whatever he asks for. -/
theorem allowedByGroup_member (hgroup : Text.startsWith owner groupPrefix = true)
    (hmember : ResolvedMember core p answer owner) (hcaps : caps ≠ []) :
    AllowedByGroup core p answer (claimedAcl acl owner) caps := by
  obtain ⟨cap, hcap⟩ := List.exists_mem_of_ne_nil caps hcaps
  exact ⟨owner, _, claimedAcl_self, hgroup, hmember, cap, hcap, fromCaps_all_grants cap⟩

/-- Nobody is accepted for nothing. -/
theorem checkWith_nil : ¬ checkWith core p answer acl [] = .ok () := by
  intro h
  obtain ⟨cap, hcap, -⟩ := checkWith_ok_iff_exists.mp h
  exact absurd hcap List.not_mem_nil

/-- Where `*` has all capabilities already, a claim of `*` changes nothing. -/
theorem spared_wildcard (hlook : core.LooksUp keys) (hown : core.normalizePrincipal p ≠ "*")
    {all : Std.ExtTreeSet String compare} (hentry : acl["*"]? = some (.allow all))
    (hall : "*" ∈ all) :
    checkWith core p answer (claimedAcl acl "*") caps = .ok () ↔
      checkWith core p answer acl caps = .ok () := by
  have hout : ¬ (Text.startsWith "*" groupPrefix = true ∧ ResolvedMember core p answer "*") :=
    fun h => wildcard_not_group h.1
  refine verdict_congr ?_ ?_ (deniedByGroup_claimed hout) (allowedByGroup_claimed hout)
  · rw [DeniedOutright, DeniedOutright, claimedAcl_other hown, claimedAcl_self, hentry]
    simp [CapabilityEntry.fromCaps]
  · by_cases hcomes : ComesTo acl (keys p) "*"
    · have hgrants (cap : String) : (CapabilityEntry.allow all).grants cap = true :=
        CapabilityEntry.grants_allow_iff.mpr (.inr hall)
      rw [hlook.granted_iff, hlook.granted_iff, lookup_claimed, if_pos hcomes,
        lookup_comesTo hentry _ hcomes]
      simp only [Option.any_some, fromCaps_all_grants, hgrants]
    · exact grantedOutright_claimed hlook hcomes

/-- A claim changes nothing for whom it leaves denied. -/
theorem spared_denied (hown : core.normalizePrincipal p ≠ owner) (hwild : owner ≠ "*")
    (hdenied : DeniedOutright core p acl) :
    checkWith core p answer (claimedAcl acl owner) caps = .ok () ↔
      checkWith core p answer acl caps = .ok () := by
  rw [checkWith_ok_iff, checkWith_ok_iff, deniedOutright_claimed hown hwild]
  exact iff_of_false (fun h => h.1 hdenied) fun h => h.1 hdenied

/-- A claim changes nothing for who has all capabilities already. -/
theorem spared_hasAll (hlook : core.LooksUp keys) (hown : core.normalizePrincipal p ≠ owner)
    (hwild : owner ≠ "*") (hall : HasAll core p answer acl) :
    checkWith core p answer (claimedAcl acl owner) caps = .ok () ↔
      checkWith core p answer acl caps = .ok () := by
  by_cases hcaps : caps = []
  · subst hcaps
    exact iff_of_false checkWith_nil checkWith_nil
  rw [checkWith_ok_iff, checkWith_ok_iff, deniedOutright_claimed hown hwild]
  refine and_congr_right fun _ => ?_
  rcases hall with hgranted | ⟨hno, hallowed⟩
  · have hbefore := hgranted.of_all hlook hcaps
    refine iff_of_true (.inl ?_) (.inl hbefore)
    by_cases hcomes : ComesTo acl (keys p) owner
    · exact grantedOutright_comesTo hlook hcomes hcaps
    · exact (grantedOutright_claimed hlook hcomes).mpr hbefore
  · have hbefore := hallowed.of_all hcaps
    exact iff_of_true (.inr ⟨fun h => hno h.of_claimed, hbefore.claimed⟩) (.inr ⟨hno, hbefore⟩)

/-- A group is no key of `check_cap`. -/
theorem group_not_comesTo (hlook : core.LooksUp keys) (hown : core.normalizePrincipal p ≠ owner)
    (hgroup : Text.startsWith owner groupPrefix = true) : ¬ ComesTo acl (keys p) owner := by
  intro hcomes
  rcases hlook.mem_keys hcomes.mem with rfl | rfl | rfl
  · exact hown rfl
  · exact absurd hgroup (by decide)
  · exact absurd hgroup (by decide)

/-- A claim of a group changes nothing for a member who is denied anyway, or has all. -/
theorem spared_member (hlook : core.LooksUp keys) (hown : core.normalizePrincipal p ≠ owner)
    (hgroup : Text.startsWith owner groupPrefix = true)
    (hsettled : (DeniedOutright core p acl ∨ DeniedByOther core p answer acl owner) ∨
      HasAll core p answer acl) :
    checkWith core p answer (claimedAcl acl owner) caps = .ok () ↔
      checkWith core p answer acl caps = .ok () := by
  have hwild : owner ≠ "*" := by
    rintro rfl
    exact wildcard_not_group hgroup
  rcases hsettled with (hdenied | ⟨key, hkey, hentry, h⟩) | hall
  · exact spared_denied hown hwild hdenied
  · have hbefore : DeniedByGroup core p answer acl := ⟨key, hentry, h⟩
    have hafter : DeniedByGroup core p answer (claimedAcl acl owner) :=
      ⟨key, (claimedAcl_other hkey).trans hentry, h⟩
    rw [checkWith_ok_iff, checkWith_ok_iff, deniedOutright_claimed hown hwild,
      grantedOutright_claimed hlook (group_not_comesTo hlook hown hgroup),
      or_iff_left fun h => h.1 hafter, or_iff_left fun h => h.1 hbefore]
  · exact spared_hasAll hlook hown hwild hall

/-! ## Not spared -/

/-- Somebody outside of whom the ACL and its groups know nothing. -/
theorem exists_stranger (hnorm : core.Normalizing) (acl : AclMap) :
    ∃ p, Text.startsWith p "#" = false ∧
      core.normalizePrincipal p ≠ core.normalizePrincipal "*" ∧
      acl[core.normalizePrincipal p]? = none ∧
      ∀ key entry, acl[key]? = some entry → ¬ ResolvedMember core p answer key := by
  let members (key : String) : List String :=
    ((answer key).toOption.getD []).map core.normalizePrincipal
  obtain ⟨p, hremote, hp⟩ := hnorm.endless
    (core.normalizePrincipal "*" :: acl.keys ++ acl.keys.flatMap members)
  simp only [List.cons_append, List.mem_cons, List.mem_append, not_or] at hp
  obtain ⟨hwild, hkeys, hmembers⟩ := hp
  refine ⟨p, hremote, hwild, ?_, ?_⟩
  · rw [Std.ExtTreeMap.mem_keys, Std.ExtTreeMap.mem_iff_isSome_getElem?] at hkeys
    simpa using hkeys
  · rintro key entry hentry ⟨resolved, hresolved, q, hq, hsame⟩
    refine hmembers (List.mem_flatMap.mpr ⟨key, ?_, ?_⟩)
    · rw [Std.ExtTreeMap.mem_keys, Std.ExtTreeMap.mem_iff_isSome_getElem?, hentry]
      rfl
    · rw [← hsame]
      refine List.mem_map_of_mem ?_
      rw [hresolved]
      exact hq

/-- Who gains nothing from an entry that speaks for him is denied outright, or has all already. -/
theorem settled_of_comesTo (hlook : core.LooksUp keys) (hown : core.normalizePrincipal p ≠ owner)
    (hwild : owner ≠ "*") (hcomes : ComesTo acl (keys p) owner)
    (hsame : checkWith core p answer (claimedAcl acl owner) ["*"] = .ok () ↔
      checkWith core p answer acl ["*"] = .ok ()) :
    DeniedOutright core p acl ∨ HasAll core p answer acl := by
  refine or_iff_not_imp_left.mpr fun hfree => ?_
  have hafter : checkWith core p answer (claimedAcl acl owner) ["*"] = .ok () :=
    checkWith_ok_iff.mpr ⟨(deniedOutright_claimed hown hwild).not.mpr hfree,
      .inl (grantedOutright_comesTo hlook hcomes (by simp))⟩
  exact (checkWith_ok_iff.mp (hsame.mp hafter)).2

/-- **Nobody but the claimant gains from a claim, iff it spares the others.** -/
theorem spares_iff (hlook : core.LooksUp keys) (hnorm : core.Normalizing) :
    (∀ p caps, core.normalizePrincipal p ≠ core.normalizePrincipal owner →
      (checkWith core p answer (claimedAcl acl owner) caps = .ok () ↔
        checkWith core p answer acl caps = .ok ())) ↔ Spares core keys answer acl owner := by
  constructor
  · intro hsame
    refine ⟨?_, ?_, ?_⟩
    · rintro rfl
      -- A stranger has no entry but that of `*`.
      obtain ⟨p, hremote, hother, hnone, hnowhere⟩ := @exists_stranger core answer hnorm acl
      have hkeys := hlook.remote p hremote
      have hcomes : ComesTo acl (keys p) "*" := by
        rw [hkeys, comesTo_cons_none (hnorm.own_ne hother) hnone]
        exact comesTo_self []
      have hafter : checkWith core p answer (claimedAcl acl "*") ["*"] = .ok () := by
        refine checkWith_ok_iff.mpr
          ⟨?_, .inl (grantedOutright_comesTo hlook hcomes (by simp))⟩
        rw [DeniedOutright, claimedAcl_other (hnorm.own_ne hother), hnone, claimedAcl_self]
        simp [CapabilityEntry.fromCaps]
      obtain ⟨-, hgranted | ⟨-, key, capSet, hentry, -, hmember, -⟩⟩ :=
        checkWith_ok_iff.mp ((hsame p ["*"] hother).mp hafter)
      · obtain ⟨cap, hcap, hany⟩ := hlook.granted_iff.mp hgranted
        obtain rfl := List.mem_singleton.mp hcap
        obtain ⟨entry, hentry, hgrants⟩ := (Option.any_eq_true _ _).mp hany
        have hwild : acl["*"]? = some entry := by simpa [hkeys, hnone] using hentry
        cases entry with
        | deny => exact absurd hgrants (by simp [CapabilityEntry.grants])
        | allow capSet =>
          exact ⟨capSet, hwild, (CapabilityEntry.grants_allow_iff.mp hgrants).elim id id⟩
      · exact absurd hmember (hnowhere key _ hentry)
    · rintro rfl p hother hcomes
      exact settled_of_comesTo hlook (hnorm.own_ne hother) (by decide) hcomes (hsame p ["*"] hother)
    · intro hgroup p hmember hother
      have hown := hnorm.own_ne hother
      have hwild : owner ≠ "*" := by
        rintro rfl
        exact wildcard_not_group hgroup
      refine or_iff_not_imp_left.mpr fun hfree => ?_
      rw [not_or] at hfree
      have hafter : checkWith core p answer (claimedAcl acl owner) ["*"] = .ok () := by
        refine checkWith_ok_iff.mpr ⟨?_, .inr ⟨?_, allowedByGroup_member hgroup hmember (by simp)⟩⟩
        · rw [deniedOutright_claimed hown hwild]
          exact hfree.1
        · rintro ⟨key, hentry, h⟩
          exact hfree.2 ⟨key, (claimedAcl_deny hentry).1, (claimedAcl_deny hentry).2, h⟩
      exact (checkWith_ok_iff.mp ((hsame p ["*"] hother).mp hafter)).2
  · rintro hspares p caps hother
    have hown := hnorm.own_ne hother
    by_cases hwild : owner = "*"
    · subst hwild
      obtain ⟨all, hentry, hall⟩ := hspares.wildcard rfl
      exact spared_wildcard hlook hown hentry hall
    by_cases hin : Text.startsWith owner groupPrefix = true ∧ ResolvedMember core p answer owner
    · exact spared_member hlook hown hin.1 (hspares.members hin.1 p hin.2 hother)
    by_cases hcomes : ComesTo acl (keys p) owner
    · have hentity : owner = "#" :=
        (hlook.mem_keys hcomes.mem).elim (fun h => absurd h.symm hown) (·.resolve_right hwild)
      rcases hspares.entities hentity p hother hcomes with hdenied | hall
      · exact spared_denied hown hwild hdenied
      · exact spared_hasAll hlook hown hwild hall
    · exact verdict_congr (deniedOutright_claimed hown hwild)
        (grantedOutright_claimed hlook hcomes) (deniedByGroup_claimed hin)
        (allowedByGroup_claimed hin)

end Others

/-- **When a claim affects only the claimant.** After an accepted claim nobody else's verdict on the
root ACL has changed, whatever the capabilities, iff the claim spares the others: it is of `*` only
where `*` has all capabilities; of `#` only if each other entity that `#` would speak for is denied
anyway or has all capabilities already; and of a group only if so is each other member. -/
theorem claim_spares_iff {env : Env} {keys : String → List String} (hlook : env.core.LooksUp keys)
    (hnorm : env.core.Normalizing) (answer : String → Except Error (List String)) {w w' : World}
    {owner : String} {owners : List String}
    (hclaim : handleClaim env owner [] w = (.ok (.claimed owners), w')) :
    (∀ p caps, env.core.normalizePrincipal p ≠ env.core.normalizePrincipal owner →
      (checkWith env.core p answer w'.rt.rootAcl caps = .ok () ↔
        checkWith env.core p answer w.rt.rootAcl caps = .ok ())) ↔
      Spares env.core keys answer w.rt.rootAcl owner := by
  obtain ⟨r, hok, heffect⟩ := handleClaim_effect env owner w
  rw [hclaim] at hok heffect
  obtain rfl := Lib.Outcome.ok.inj hok
  have hacl : w'.rt.rootAcl = claimedAcl w.rt.rootAcl owner := by
    generalize w'.rt = rt' at heffect
    cases heffect
    rfl
  rw [hacl]
  exact spares_iff hlook hnorm

/-! ## A claim of everybody -/

/-- The keys that are looked up for a caller. -/
def localKeys (caller : String) : List String :=
  if Text.startsWith caller "#" then [tableCore.normalizePrincipal caller, "#", "*"]
  else [tableCore.normalizePrincipal caller, "*"]

/-- `tableCore` with the entry `#`. -/
def localCore : MaCore where
  normalizePrincipal := tableCore.normalizePrincipal
  checkCap acl caller cap := ((localKeys caller).findSome? fun key => acl[key]?).any (·.grants cap)

theorem localCore_looksUp : localCore.LooksUp localKeys where
  decides _ _ _ := rfl
  remote caller h := by
    unfold localKeys
    rw [h]
    rfl
  entity caller h key hkey := by
    unfold localKeys at hkey
    rw [if_pos h] at hkey
    show key = tableCore.normalizePrincipal caller ∨ _
    simpa using hkey

theorem tableCore_idem (p : String) :
    tableCore.normalizePrincipal (tableCore.normalizePrincipal p) =
      tableCore.normalizePrincipal p := by
  show (if Text.startsWith (tableCore.normalizePrincipal p) "did:" then _ else _) = _
  by_cases hdid : Text.startsWith p "did:" = true
  · cases hsplit : p.toList.dropWhile (· ≠ '#') with
    | nil =>
      have hwhole : Text.splitOnce p '#' = none := by rw [Text.splitOnce, hsplit]
      have hnorm : tableCore.normalizePrincipal p = p := by simp [tableCore, hdid, hwhole]
      rw [hnorm]
      exact hnorm
    | cons c rest =>
      have hparts : Text.splitOnce p '#' =
          some (String.ofList (p.toList.takeWhile (· ≠ '#')), String.ofList rest) := by
        rw [Text.splitOnce, hsplit]
      have hnorm : tableCore.normalizePrincipal p =
          String.ofList (p.toList.takeWhile (· ≠ '#')) := by
        simp [tableCore, hdid, hparts]
      have hnone : Text.splitOnce (String.ofList (p.toList.takeWhile (· ≠ '#'))) '#' = none := by
        have hnil : (p.toList.takeWhile (· ≠ '#')).dropWhile (· ≠ '#') = [] :=
          List.dropWhile_eq_nil_iff.mpr fun c hc => by
            have hc := List.mem_takeWhile_imp hc
            exact hc
        rw [Text.splitOnce, String.toList_ofList, hnil]
      rw [hnorm, hnone]
      simp
  · have hnorm : tableCore.normalizePrincipal p = p := by simp [tableCore, hdid]
    rw [hnorm]
    exact hnorm

theorem localCore_normalizing : localCore.Normalizing where
  idem := tableCore_idem
  endless l := by
    let n := (l.map String.length).sum + 1
    have hnorm : localCore.normalizePrincipal (String.ofList (List.replicate n 'a')) =
        String.ofList (List.replicate n 'a') := by
      simp [localCore, tableCore, Text.startsWith, n, List.replicate_succ]
    refine ⟨String.ofList (List.replicate n 'a'), ?_, fun hmem => ?_⟩
    · simp [Text.startsWith, n, List.replicate_succ, List.isPrefixOf]
    rw [hnorm] at hmem
    have hle := List.single_le_sum (fun _ _ => Nat.zero_le _) _
      (List.mem_map_of_mem (f := String.length) hmem)
    rw [String.length_ofList, List.length_replicate] at hle
    omega

/-- A resolver that knows no members, as at the gates of the root ACL. -/
def noMembers (_ : String) : Except Error (List String) := .ok []

/-- The daemon's surroundings. -/
def claimEnv : Env := { ({} : Tables).env with core := localCore }

/-- The daemon after startup, unclaimed. -/
def unclaimedDaemon : World := started claimEnv none []

set_option maxRecDepth 100000

/-- A claim of a DID leaves a stranger out. -/
theorem claim_spares_stranger :
    checkWith localCore "did:ma:eve" noMembers
      (handleClaim claimEnv "did:ma:alice" [] unclaimedDaemon).2.rt.rootAcl ["rpc"] ≠
      .ok () := by
  have hspares : Spares localCore localKeys noMembers unclaimedDaemon.rt.rootAcl "did:ma:alice" :=
    ⟨fun h => absurd h (by decide), fun h => absurd h (by decide), fun h => absurd h (by decide)⟩
  have hclaim : handleClaim claimEnv "did:ma:alice" [] unclaimedDaemon =
      (.ok (.claimed ["did:ma:alice"]),
        (handleClaim claimEnv "did:ma:alice" [] unclaimedDaemon).2) :=
    Prod.ext (by decide +kernel) rfl
  have hsame := (@claim_spares_iff claimEnv localKeys localCore_looksUp localCore_normalizing
    noMembers _ _ _ _ hclaim).mpr hspares "did:ma:eve" ["rpc"] (by decide)
  exact fun h => absurd (hsame.mp h) (by decide +kernel)

/-- **A claim of `*` lets everyone in**: a stranger who was refused is accepted for anything. -/
theorem claim_wildcard_opens :
    (handleClaim claimEnv "*" [] unclaimedDaemon).1 = .ok (.claimed ["*"]) ∧
    localCore.normalizePrincipal "did:ma:eve" ≠ localCore.normalizePrincipal "*" ∧
    checkWith localCore "did:ma:eve" noMembers unclaimedDaemon.rt.rootAcl ["crud"] ≠ .ok () ∧
    checkWith localCore "did:ma:eve" noMembers
      (handleClaim claimEnv "*" [] unclaimedDaemon).2.rt.rootAcl ["crud"] = .ok () := by
  refine ⟨by decide +kernel, by decide, by decide +kernel, by decide +kernel⟩

/-- A claim of `#` lets every entity of the runtime in. -/
example : checkWith localCore "#leaf" noMembers (claimedAcl ∅ "#") ["crud"] = .ok () ∧
    checkWith localCore "#leaf" noMembers ∅ ["crud"] ≠ .ok () := by
  decide +kernel

end MaRuntime
