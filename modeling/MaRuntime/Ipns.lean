import MaRuntime.World

/-!
# Publishing under IPNS names (`src/ipfs.rs`)

The runtime has two names in Kubo: that of its DID document, and `runtime_ipns` for the root
manifest. Each needs its key in Kubo under an alias, which is imported on first use. The functions
are processes over what Kubo keeps; they hold no lock.

* `NameService` is Kubo's keys and names: what the endpoints change when they answer, and what they
  may have changed when they fail. A timeout drops a function at one of its calls, so to its caller
  that call failed.
* `ensure_spec`, `publish_spec`, `resolve_spec`: what the functions do to the keys and the names.
-/

namespace MaRuntime

open Lib (Proc Outcome)

/-! ## What Kubo answers -/

/-- An entry of `key/list`. The field names come in two spellings; an absent field is empty. -/
structure KeyListEntry where
  name : String := ""
  nameLower : String := ""
  id : String := ""
  idLower : String := ""
  deriving DecidableEq, Repr

/-- The answer of `key/import`. -/
structure KeyImportResponse where
  idUpper : String := ""
  idLower : String := ""
  deriving DecidableEq, Repr

/-- The answer of `name/publish`. -/
structure NamePublishResponse where
  valueUpper : String := ""
  valueLower : String := ""
  deriving DecidableEq, Repr

/-- The answer of `name/resolve`. -/
structure NameResolveResponse where
  pathUpper : String := ""
  pathLower : String := ""
  deriving DecidableEq, Repr

/-- The first spelling that is not blank, trimmed. -/
def firstTrimmed (upper lower : String) : String :=
  if Text.trim upper = "" then Text.trim lower else Text.trim upper

/-- The name and the id of an entry that has both. -/
def KeyListEntry.pair (k : KeyListEntry) : Option (String × String) :=
  let name := firstTrimmed k.name k.nameLower
  let id := firstTrimmed k.id k.idLower
  if name = "" ∨ id = "" then none else some (name, id)

/-- The id of an imported key. -/
def KeyImportResponse.id (r : KeyImportResponse) : String := firstTrimmed r.idUpper r.idLower

/-- The value that was published. -/
def NamePublishResponse.value (r : NamePublishResponse) : String :=
  if r.valueUpper = "" then r.valueLower else r.valueUpper

/-- The path a name resolved to. -/
def NameResolveResponse.path (r : NameResolveResponse) : String :=
  if r.pathUpper = "" then r.pathLower else r.pathUpper

/-! ## Kubo's keys and names -/

/-- The keys and names that Kubo keeps in `σ`, behind numbered calls that can fail. A call that
fails may still have been carried out. -/
structure NameService (σ : Type) where
  keys : σ → List KeyListEntry
  /-- The path published under an IPNS id. -/
  record : σ → String → Option String
  /-- The IPNS id of a private key. -/
  idOf : Bytes → String
  keyList : Nat → σ → Except Error (List KeyListEntry)
  keyImport : Nat → σ → String → Bytes → Except Error KeyImportResponse × σ
  /-- `name/publish` of a path, with the alias of a key and a lifetime. -/
  namePublish : Nat → σ → String → String → String → Except Error NamePublishResponse × σ
  nameResolve : Nat → σ → String → Except Error NameResolveResponse
  keyList_ok : ∀ {n s l}, keyList n s = .ok l → l = keys s
  /-- An alias names one key. -/
  keys_unique : ∀ {s name id id'}, (name, id) ∈ (keys s).filterMap KeyListEntry.pair →
    (name, id') ∈ (keys s).filterMap KeyListEntry.pair → id = id'
  keyImport_record : ∀ n s name key, record (keyImport n s name key).2 = record s
  /-- An import adds the key under an alias that was free, or adds nothing. -/
  keyImport_keys : ∀ n s name key, keys (keyImport n s name key).2 = keys s ∨
    ((∀ id, (name, id) ∉ (keys s).filterMap KeyListEntry.pair) ∧
      ∀ p, p ∈ (keys (keyImport n s name key).2).filterMap KeyListEntry.pair ↔
        p ∈ (keys s).filterMap KeyListEntry.pair ∨ p = (name, idOf key))
  keyImport_ok : ∀ {n s name key r}, (keyImport n s name key).1 = .ok r →
    r.id = idOf key ∧
      (name, idOf key) ∈ (keys (keyImport n s name key).2).filterMap KeyListEntry.pair
  namePublish_keys : ∀ n s path name lifetime,
    keys (namePublish n s path name lifetime).2 = keys s
  /-- Only the record of the key changes, and only to the path. -/
  namePublish_record : ∀ n s path name lifetime id,
    record (namePublish n s path name lifetime).2 id = record s id ∨
      ((name, id) ∈ (keys s).filterMap KeyListEntry.pair ∧
        record (namePublish n s path name lifetime).2 id = some path)
  namePublish_ok : ∀ {n s path name lifetime r}, (namePublish n s path name lifetime).1 = .ok r →
    ∀ {id}, (name, id) ∈ (keys s).filterMap KeyListEntry.pair →
      record (namePublish n s path name lifetime).2 id = some path
  /-- A name that holds an IPFS path resolves to it. -/
  nameResolve_ok : ∀ {n s id r}, nameResolve n s ("/ipns/" ++ id) = .ok r →
    ∃ path, record s id = some path ∧ (Text.startsWith path "/ipfs/" = true → r.path = path)

/-- What is outside the repository when a name is published: Kubo, and the key material. -/
structure Naming (σ : Type) extends NameService σ where
  /-- `MA_IPNS_ALIAS_HASH_PREFIX`. -/
  aliasHashStart : String
  /-- `blake3::hash(…).to_hex()`. -/
  blake3Hex : String → String
  /-- `ipns_from_secret`. -/
  ipnsFromSecret : Bytes → Except Error String
  /-- The protobuf encoding of an ed25519 key. -/
  protobufKey : Bytes → Except Error Bytes
  /-- `IpfsDidPublisher::new`, and `wait_until_ready`. -/
  ready : Nat → Except Error Unit
  /-- The id of a DID document. -/
  documentId : Bytes → Except Error String
  /-- The IPNS identity of a DID. -/
  didIpns : String → Except Error String
  /-- `dag/put` of encoded CBOR. -/
  dagPutCbor : Nat → Bytes → Except Error Cid

/-- The keys as `list_keys` gives them. -/
def NameService.pairs {σ : Type} (N : NameService σ) (s : σ) : List (String × String) :=
  (N.keys s).filterMap KeyListEntry.pair

/-- Kubo, and how many calls were made. -/
structure NameIo (σ : Type) where
  calls : Nat := 0
  kubo : σ

/-- A function over Kubo's names. -/
abbrev NameM (σ : Type) := Proc Empty (NameIo σ) Error

section Functions

variable {σ : Type} {α : Type} (N : Naming σ)

/-- One call. -/
def nameCall (call : Nat → σ → Except Error α × σ) : NameM σ α := fun _ s =>
  match call s.calls s.kubo with
  | (.ok a, kubo) => (.ok a, { calls := s.calls + 1, kubo })
  | (.error e, kubo) => (.err e, { calls := s.calls + 1, kubo })

/-- One call that changes nothing Kubo keeps here. -/
def nameQuery (call : Nat → σ → Except Error α) : NameM σ α :=
  nameCall fun n s => (call n s, s)

/-- `list_keys`. -/
def listKeys : NameM σ (List (String × String)) := do
  let keys ← nameQuery N.keyList
  pure (keys.filterMap KeyListEntry.pair)

/-- `import_key`. -/
def importKey (keyName : String) (keyBytes : Bytes) : NameM σ String := do
  let parsed ← nameCall fun n s => N.keyImport n s keyName keyBytes
  if parsed.id = "" then Proc.fail ["missing id in key/import response"] else pure parsed.id

/-- The key as Kubo takes it. -/
def importable (ipnsSecretKey : Bytes) : Except Error Bytes :=
  if ipnsSecretKey.length = 32 then N.protobufKey ipnsSecretKey
  else .error ["ipns_secret_key must be 32 bytes"]

/-- `ensure_kubo_ipns_key`. -/
def ensureKuboIpnsKey (keyName expectedIpnsId : String) (ipnsSecretKey : Bytes) :
    NameM σ Unit := do
  let existing := (← listKeys N).find? fun p => p.1 = keyName
  match existing with
  | some (_, id) =>
    if Text.trim id ≠ expectedIpnsId then
      Proc.fail [s!"existing key '{keyName}' has IPNS id '{id}' but expected '{expectedIpnsId}'"]
    else pure ()
  | none => do
    let protobufKey ← Proc.ofExcept (importable N ipnsSecretKey)
    let importedId ← importKey N keyName protobufKey
    if Text.trim importedId ≠ expectedIpnsId then
      Proc.fail [s!"imported key IPNS id '{importedId}' does not match expected " ++
        s!"'{expectedIpnsId}'"]
    else pure ()

/-- The path that is published for a CID. -/
def publishedPath (cid : Cid) : String :=
  "/ipfs/" ++ Text.trimStartMatchesStr (Text.trimStartMatches cid '/') "ipfs/"

/-- `name_publish`. -/
def namePublish (keyName : String) (cid : Cid) (publishLifetimeHours : UInt64) :
    NameM σ String := do
  let parsed ← nameCall fun n s =>
    N.namePublish n s (publishedPath cid) keyName s!"{publishLifetimeHours}h"
  if parsed.value = "" then Proc.fail ["missing value in name/publish response"]
  else pure parsed.value

/-- `resolve_ipns_path`. -/
def resolveIpnsPath (keyId : String) : NameM σ (Option Cid) := do
  let parsed ← nameQuery fun n s => N.nameResolve n s ("/ipns/" ++ keyId)
  if parsed.path = "" then pure none
  else
    let trimmed := Text.trim parsed.path
    let cid := (Text.stripPrefix trimmed "/ipfs/").getD trimmed
    pure (if cid = "" then none else some cid)

/-- `resolve_runtime_root_cid_by_ipns_id`. -/
def resolveRuntimeRootCidByIpnsId (ipnsId : String) : NameM σ (Option Cid) := do
  match (← listKeys N).find? fun p => p.2 = ipnsId with
  | none => pure none
  | some (_, keyId) => resolveIpnsPath N keyId

/-- The alias of a key in Kubo. -/
def keyAlias (ipnsId : String) : String :=
  N.aliasHashStart ++ String.ofList ((N.blake3Hex ipnsId).toList.take 16)

/-- `publish_runtime_root_cid`. -/
def publishRuntimeRootCid (runtimeIpnsKey : Bytes) (rootCid : Cid)
    (publishLifetimeHours : UInt64) : NameM σ String := do
  let runtimeIpnsId ← (Proc.ofExcept (N.ipnsFromSecret runtimeIpnsKey)).mapErr
    ("failed to derive runtime IPNS id" :: ·)
  ensureKuboIpnsKey N (keyAlias N runtimeIpnsId) runtimeIpnsId runtimeIpnsKey
  namePublish N (keyAlias N runtimeIpnsId) rootCid publishLifetimeHours

/-- `do_publish_own_document`. -/
def doPublishOwnDocument (docCbor ipnsSecretKey : Bytes) (publishLifetimeHours : UInt64) :
    NameM σ Unit := do
  nameQuery fun n _ => N.ready n
  let document ← (Proc.ofExcept (N.documentId docCbor)).mapErr
    ("invalid own DID document dag-cbor" :: ·)
  let ipns ← (Proc.ofExcept (N.didIpns document)).mapErr (s!"invalid own DID '{document}'" :: ·)
  ensureKuboIpnsKey N (keyAlias N ipns) ipns ipnsSecretKey
  let cid ← nameQuery fun n _ => N.dagPutCbor n docCbor
  let _ ← namePublish N (keyAlias N ipns) cid publishLifetimeHours
  pure ()

end Functions

/-! ## Rules for a call -/

section Calls

variable {σ : Type} {α β : Type} {g : Lib.Guards Empty} {s : NameIo σ}
  {Q : Outcome Error β → NameIo σ → Prop}

/-- Kubo after one more call. -/
def NameIo.next (s : NameIo σ) (kubo : σ) : NameIo σ := { calls := s.calls + 1, kubo }

@[simp] theorem NameIo.next_kubo (s : NameIo σ) (kubo : σ) : (s.next kubo).kubo = kubo := rfl

theorem nameCall_bind {call : Nat → σ → Except Error α × σ} {f : α → NameM σ β}
    (herr : ∀ e kubo, call s.calls s.kubo = (.error e, kubo) → Q (.err e) (s.next kubo))
    (hok : ∀ a kubo, call s.calls s.kubo = (.ok a, kubo) → (f a).Sat g (s.next kubo) Q) :
    (nameCall call >>= f).Sat g s Q := by
  apply Proc.sat_bind
  unfold Proc.Sat nameCall
  rcases hcall : call s.calls s.kubo with ⟨r, kubo⟩
  cases r with
  | ok a => exact hok a kubo hcall
  | error e => exact herr e kubo hcall

theorem nameQuery_bind {call : Nat → σ → Except Error α} {f : α → NameM σ β}
    (herr : ∀ e, call s.calls s.kubo = .error e → Q (.err e) (s.next s.kubo))
    (hok : ∀ a, call s.calls s.kubo = .ok a → (f a).Sat g (s.next s.kubo) Q) :
    (nameQuery call >>= f).Sat g s Q := by
  refine nameCall_bind (fun e kubo h => ?_) fun a kubo h => ?_
  · obtain ⟨hcall, rfl⟩ := Prod.mk.inj h
    exact herr e hcall
  · obtain ⟨hcall, rfl⟩ := Prod.mk.inj h
    exact hok a hcall

theorem ofExcept_bind {x : Except Error α} {f : α → NameM σ β}
    (herr : ∀ e, x = .error e → Q (.err e) s) (hok : ∀ a, x = .ok a → (f a).Sat g s Q) :
    (Proc.ofExcept x >>= f : NameM σ β).Sat g s Q := by
  cases x with
  | ok a => exact Proc.sat_bind_of_ok rfl (hok a rfl)
  | error e => exact Proc.sat_bind_of_err rfl (herr e rfl)

theorem mapErr_ofExcept_bind {c : Error → Error} {x : Except Error α} {f : α → NameM σ β}
    (herr : ∀ e, x = .error e → Q (.err (c e)) s) (hok : ∀ a, x = .ok a → (f a).Sat g s Q) :
    ((Proc.ofExcept x).mapErr c >>= f : NameM σ β).Sat g s Q := by
  cases x with
  | ok a => exact Proc.sat_bind_of_ok rfl (hok a rfl)
  | error e => exact Proc.sat_bind_of_err rfl (herr e rfl)

end Calls

/-! ## What the functions do -/

section Specs

variable {σ : Type} {N : Naming σ} {g : Lib.Guards Empty} {s : NameIo σ}

/-- No name changed, and no key but one under the alias, where that was free. -/
structure KeysGrow (N : Naming σ) (keyName : String) (s s' : σ) : Prop where
  record : N.record s' = N.record s
  kept : ∀ p ∈ N.pairs s, p ∈ N.pairs s'
  added : ∀ p ∈ N.pairs s', p ∈ N.pairs s ∨ p.1 = keyName ∧ ∀ id, (keyName, id) ∉ N.pairs s

theorem KeysGrow.refl (N : Naming σ) (keyName : String) (s : σ) : KeysGrow N keyName s s :=
  ⟨rfl, fun _ hp => hp, fun _ hp => .inl hp⟩

/-- No name changed but those in `ids`, no key was lost, and none added but under their aliases. -/
structure Touches (N : Naming σ) (ids : String → Prop) (s s' : σ) : Prop where
  record : ∀ id, ¬ ids id → N.record s' id = N.record s id
  kept : ∀ p ∈ N.pairs s, p ∈ N.pairs s'
  added : ∀ p ∈ N.pairs s', p ∈ N.pairs s ∨ ∃ id, ids id ∧ p.1 = keyAlias N id

theorem Touches.refl (N : Naming σ) (ids : String → Prop) (s : σ) : Touches N ids s s :=
  ⟨fun _ _ => rfl, fun _ hp => hp, fun _ hp => .inl hp⟩

theorem Touches.trans {ids : String → Prop} {s s1 s2 : σ} (h : Touches N ids s s1)
    (h' : Touches N ids s1 s2) : Touches N ids s s2 := by
  refine ⟨fun id hid => (h'.record id hid).trans (h.record id hid),
    fun p hp => h'.kept p (h.kept p hp), fun p hp => ?_⟩
  rcases h'.added p hp with hp | hnew
  · exact h.added p hp
  · exact .inr hnew

theorem Touches.mono {ids ids' : String → Prop} {s s' : σ} (h : Touches N ids s s')
    (hids : ∀ id, ids id → ids' id) : Touches N ids' s s' :=
  ⟨fun id hid => h.record id fun h' => hid (hids id h'), h.kept, fun p hp =>
    (h.added p hp).imp_right fun ⟨id, hid, hp⟩ => ⟨id, hids id hid, hp⟩⟩

/-- Making sure of the key of `id` touches nothing else. -/
theorem KeysGrow.touches {id : String} {s s' : σ} (h : KeysGrow N (keyAlias N id) s s') :
    Touches N (· = id) s s' :=
  ⟨fun id' _ => congrFun h.record id', h.kept, fun p hp =>
    (h.added p hp).imp_right fun hnew => ⟨id, rfl, hnew.1⟩⟩

/-- Kubo has the key of a name, and the name holds the path. -/
structure Shows (N : Naming σ) (id path : String) (s : σ) : Prop where
  key : ∃ keyName, (keyName, id) ∈ N.pairs s
  record : N.record s id = some path

theorem listKeys_sat : (listKeys N).Sat g s fun o s' =>
    s'.kubo = s.kubo ∧ o ≠ .stuck ∧ ∀ l, o = .ok l → l = N.pairs s.kubo := by
  refine nameQuery_bind (fun e _ => ⟨rfl, nofun, nofun⟩) fun l hl => ⟨rfl, nofun, fun l' h => ?_⟩
  obtain rfl : l.filterMap KeyListEntry.pair = l' := Outcome.ok.inj h
  rw [N.keyList_ok hl]
  rfl

theorem trim_firstTrimmed (upper lower : String) :
    Text.trim (firstTrimmed upper lower) = firstTrimmed upper lower := by
  unfold firstTrimmed
  split
  · exact Text.trim_trim lower
  · exact Text.trim_trim upper

theorem pair_trimmed {k : KeyListEntry} {name id : String} (h : k.pair = some (name, id)) :
    Text.trim id = id := by
  unfold KeyListEntry.pair at h
  dsimp only at h
  by_cases hblank : firstTrimmed k.name k.nameLower = "" ∨ firstTrimmed k.id k.idLower = ""
  · rw [if_pos hblank] at h
    exact absurd h nofun
  · rw [if_neg hblank] at h
    obtain ⟨-, rfl⟩ := Prod.mk.inj (Option.some.inj h)
    exact trim_firstTrimmed _ _

theorem pairs_trimmed {s : σ} {name id : String} (h : (name, id) ∈ N.pairs s) :
    Text.trim id = id := by
  obtain ⟨k, -, hk⟩ := List.mem_filterMap.mp h
  exact pair_trimmed hk

theorem importKey_sat {keyName : String} {key : Bytes}
    (hfree : ∀ id, (keyName, id) ∉ N.pairs s.kubo) :
    (importKey N keyName key).Sat g s fun o s' =>
      KeysGrow N keyName s.kubo s'.kubo ∧ o ≠ .stuck ∧
        ∀ id, o = .ok id → Text.trim id = id ∧ (keyName, id) ∈ N.pairs s'.kubo := by
  have hgrow (kubo : σ) (r : Except Error KeyImportResponse)
      (h : N.keyImport s.calls s.kubo keyName key = (r, kubo)) :
      KeysGrow N keyName s.kubo kubo := by
    have hrecord := N.keyImport_record s.calls s.kubo keyName key
    have hkeys := N.keyImport_keys s.calls s.kubo keyName key
    rw [h] at hrecord hkeys
    rcases hkeys with hsame | ⟨-, hmem⟩
    · have hpairs : N.pairs kubo = N.pairs s.kubo := by
        unfold NameService.pairs
        rw [hsame]
      refine ⟨hrecord, fun p hp => ?_, fun p hp => .inl ?_⟩
      · rwa [hpairs]
      · rwa [hpairs] at hp
    · refine ⟨hrecord, fun p hp => (hmem p).mpr (.inl hp), fun p hp => ?_⟩
      rcases (hmem p).mp hp with hold | rfl
      · exact .inl hold
      · exact .inr ⟨rfl, hfree⟩
  refine nameCall_bind (fun e kubo h => ⟨hgrow _ _ h, nofun, nofun⟩) fun r kubo h => ?_
  by_cases hid : r.id = ""
  · rw [if_pos hid]
    exact ⟨hgrow _ _ h, nofun, nofun⟩
  · rw [if_neg hid]
    refine ⟨hgrow _ _ h, nofun, fun id hok => ?_⟩
    obtain rfl : r.id = id := Outcome.ok.inj hok
    have himported := N.keyImport_ok
      (show (N.keyImport s.calls s.kubo keyName key).1 = .ok r by rw [h])
    rw [h, ← himported.1] at himported
    exact ⟨pairs_trimmed himported.2, himported.2⟩

/-- **The key is under its alias, or there is an error**: no other key is touched, an alias that is
taken is left alone, and no name changes. -/
theorem ensure_spec {keyName expected : String} {key : Bytes} :
    (ensureKuboIpnsKey N keyName expected key).Sat g s fun o s' =>
      KeysGrow N keyName s.kubo s'.kubo ∧ o ≠ .stuck ∧
        (o = .ok () → (keyName, expected) ∈ N.pairs s'.kubo) := by
  refine Proc.sat_bind (listKeys_sat.mono fun o s1 hlist => ?_)
  obtain ⟨hkubo, hne, hpairs⟩ := hlist
  have hsame : KeysGrow N keyName s.kubo s1.kubo := hkubo ▸ KeysGrow.refl N keyName s.kubo
  cases o with
  | stuck => exact absurd rfl hne
  | err e => exact ⟨hsame, nofun, nofun⟩
  | ok l =>
    obtain rfl := hpairs l rfl
    dsimp only
    cases hfind : (N.pairs s.kubo).find? fun p => p.1 = keyName with
    | some p =>
      obtain ⟨name, id⟩ := p
      have hmem := List.mem_of_find?_eq_some hfind
      have hname : name = keyName := by simpa using List.find?_some hfind
      subst hname
      dsimp only
      by_cases hid : id = expected
      · rw [pairs_trimmed hmem, if_neg (not_not.mpr hid)]
        exact ⟨hsame, nofun, fun _ => hid ▸ hkubo ▸ hmem⟩
      · rw [pairs_trimmed hmem, if_pos hid]
        exact ⟨hsame, nofun, nofun⟩
    | none =>
      have hfree : ∀ id, (keyName, id) ∉ N.pairs s1.kubo := by
        intro id hmem
        rw [hkubo] at hmem
        exact absurd (decide_eq_true rfl) (List.find?_eq_none.mp hfind _ hmem)
      dsimp only
      refine ofExcept_bind (fun e _ => ⟨hsame, nofun, nofun⟩) fun raw _ => ?_
      refine Proc.sat_bind ((importKey_sat hfree).mono fun o s2 himport => ?_)
      obtain ⟨hgrow, hne, hid⟩ := himport
      rw [hkubo] at hgrow
      cases o with
      | stuck => exact absurd rfl hne
      | err e => exact ⟨hgrow, nofun, nofun⟩
      | ok imported =>
        obtain ⟨htrim, hmem⟩ := hid imported rfl
        dsimp only
        by_cases hexpected : imported = expected
        · rw [htrim, if_neg (not_not.mpr hexpected)]
          exact ⟨hgrow, nofun, fun _ => hexpected ▸ hmem⟩
        · rw [htrim, if_pos hexpected]
          exact ⟨hgrow, nofun, nofun⟩

/-- A publish under the alias of a key that Kubo has. -/
theorem namePublish_sat {id : String} (cid : Cid) (hours : UInt64) (s : NameIo σ)
    (hkey : (keyAlias N id, id) ∈ N.pairs s.kubo) :
    (namePublish N (keyAlias N id) cid hours).Sat g s fun o s' =>
      Touches N (· = id) s.kubo s'.kubo ∧
        (N.record s'.kubo id = N.record s.kubo id ∨
          N.record s'.kubo id = some (publishedPath cid)) ∧
        o ≠ .stuck ∧ ∀ value, o = .ok value → Shows N id (publishedPath cid) s'.kubo := by
  have hpairs (kubo : σ) (r : Except Error NamePublishResponse)
      (h : N.namePublish s.calls s.kubo (publishedPath cid) (keyAlias N id) s!"{hours}h" =
        (r, kubo)) : N.pairs kubo = N.pairs s.kubo := by
    have hkeys := N.namePublish_keys s.calls s.kubo (publishedPath cid) (keyAlias N id)
      s!"{hours}h"
    rw [h] at hkeys
    unfold NameService.pairs
    rw [hkeys]
  have hmoves (kubo : σ) (r : Except Error NamePublishResponse)
      (h : N.namePublish s.calls s.kubo (publishedPath cid) (keyAlias N id) s!"{hours}h" =
        (r, kubo)) :
      Touches N (· = id) s.kubo kubo ∧ (N.record kubo id = N.record s.kubo id ∨
        N.record kubo id = some (publishedPath cid)) := by
    have hrecord := N.namePublish_record s.calls s.kubo (publishedPath cid) (keyAlias N id)
      s!"{hours}h"
    rw [h] at hrecord
    refine ⟨⟨fun id' hid => ?_, fun p hp => hpairs _ _ h ▸ hp, fun p hp => .inl ?_⟩,
      (hrecord id).imp_right And.right⟩
    · rcases hrecord id' with hsame | ⟨hkey', -⟩
      · exact hsame
      · exact absurd (N.keys_unique hkey' hkey) hid
    · rwa [hpairs _ _ h] at hp
  refine nameCall_bind (fun e kubo h => ?_) fun r kubo h => ?_
  · obtain ⟨htouches, hself⟩ := hmoves _ _ h
    exact ⟨htouches, hself, nofun, nofun⟩
  · obtain ⟨htouches, hself⟩ := hmoves _ _ h
    have hdone := N.namePublish_ok (show (N.namePublish s.calls s.kubo (publishedPath cid)
      (keyAlias N id) s!"{hours}h").1 = .ok r by rw [h]) hkey
    rw [h] at hdone
    split
    · exact ⟨htouches, hself, nofun, nofun⟩
    · exact ⟨htouches, hself, nofun, fun _ _ => ⟨⟨_, htouches.kept _ hkey⟩, hdone⟩⟩

/-- **Publishing the root**: of the names only the runtime's changes, and only to the path of the
root. -/
theorem publish_spec {key : Bytes} {id : String} (root : Cid) (hours : UInt64)
    (hid : N.ipnsFromSecret key = .ok id) :
    (publishRuntimeRootCid N key root hours).Sat g s fun o s' =>
      Touches N (· = id) s.kubo s'.kubo ∧
        (N.record s'.kubo id = N.record s.kubo id ∨
          N.record s'.kubo id = some (publishedPath root)) ∧
        o ≠ .stuck ∧ ∀ value, o = .ok value → Shows N id (publishedPath root) s'.kubo := by
  refine mapErr_ofExcept_bind (fun e h => absurd (hid.symm.trans h) nofun) fun id' h => ?_
  obtain rfl : id = id' := Except.ok.inj (hid.symm.trans h)
  refine Proc.sat_bind (ensure_spec.mono fun o s1 hensure => ?_)
  obtain ⟨hgrow, hstuck, hkey⟩ := hensure
  have hrecord := congrFun hgrow.record id
  cases o with
  | stuck => exact absurd rfl hstuck
  | err e => exact ⟨hgrow.touches, .inl hrecord, nofun, nofun⟩
  | ok u =>
    refine (namePublish_sat root hours s1 (hkey rfl)).mono fun o s2 hpublish => ?_
    obtain ⟨htouches, hself, hrest⟩ := hpublish
    rw [hrecord] at hself
    exact ⟨hgrow.touches.trans htouches, hself, hrest⟩

/-- **Publishing the DID document** touches no name but that of its DID. -/
theorem publishDocument_spec {doc : Bytes} {id : String} (key : Bytes) (hours : UInt64)
    (hown : ∀ document ipns, N.documentId doc = .ok document → N.didIpns document = .ok ipns →
      ipns = id) :
    (doPublishOwnDocument N doc key hours).Sat g s fun o s' =>
      Touches N (· = id) s.kubo s'.kubo ∧ o ≠ .stuck := by
  have hsame := Touches.refl N (· = id) s.kubo
  refine nameQuery_bind (fun e _ => ⟨hsame, nofun⟩) fun u _ => ?_
  refine mapErr_ofExcept_bind (fun e _ => ⟨hsame, nofun⟩) fun document hdocument => ?_
  refine mapErr_ofExcept_bind (fun e _ => ⟨hsame, nofun⟩) fun ipns hipns => ?_
  obtain rfl : ipns = id := hown document ipns hdocument hipns
  refine Proc.sat_bind (ensure_spec.mono fun o s1 hensure => ?_)
  obtain ⟨hgrow, hstuck, hkey⟩ := hensure
  have hkeyed : Touches N (· = ipns) s.kubo s1.kubo := hgrow.touches
  cases o with
  | stuck => exact absurd rfl hstuck
  | err e => exact ⟨hkeyed, nofun⟩
  | ok u =>
    refine nameQuery_bind (fun e _ => ⟨hkeyed, nofun⟩) fun cid _ => ?_
    refine Proc.sat_bind ((namePublish_sat cid hours (s1.next s1.kubo) (hkey rfl)).mono
      fun o s2 hpublish => ?_)
    obtain ⟨htouches, -, hstuck, -⟩ := hpublish
    cases o with
    | stuck => exact absurd rfl hstuck
    | err e => exact ⟨hkeyed.trans htouches, nofun⟩
    | ok value => exact ⟨hkeyed.trans htouches, nofun⟩

/-! ## The way back -/

/-- A text as Kubo writes CIDs. -/
def IsCidText (cid : Cid) : Prop :=
  cid ≠ "" ∧ ∀ c ∈ cid.toList, c ≠ '/' ∧ Text.isWhitespace c = false

theorem IsCidText.published {cid : Cid} (h : IsCidText cid) :
    publishedPath cid = "/ipfs/" ++ cid := by
  obtain ⟨hne, hchars⟩ := h
  have hslash : Text.trimStartMatches cid '/' = cid := by
    have hdrop : cid.toList.dropWhile (fun c => decide (c = '/')) = cid.toList := by
      rw [List.dropWhile_eq_self_iff]
      intro hpos
      simp [(hchars _ (List.getElem_mem hpos)).1]
    unfold Text.trimStartMatches
    rw [hdrop, String.ofList_toList]
  have hipfs : "ipfs/".toList.isPrefixOf cid.toList = false := by
    rw [Bool.eq_false_iff]
    intro hstart
    have hmem : '/' ∈ cid.toList := (List.isPrefixOf_iff_prefix.mp hstart).subset (by decide)
    exact (hchars '/' hmem).1 rfl
  unfold publishedPath Text.trimStartMatchesStr
  rw [hslash]
  cases hlen : cid.toList.length with
  | zero => rw [Text.dropMatches, String.ofList_toList]
  | succ k =>
    rw [Text.dropMatches, hipfs]
    simp

/-- **What was published is what a name resolves to**, where Kubo has the key. -/
theorem resolve_spec {id : String} {root : Cid} (hroot : IsCidText root)
    (hshows : Shows N id (publishedPath root) s.kubo) :
    (resolveRuntimeRootCidByIpnsId N id).Sat g s fun o s' =>
      s'.kubo = s.kubo ∧ o ≠ .stuck ∧ ∀ r, o = .ok r → r = some root := by
  obtain ⟨⟨keyName, hkey⟩, hrecord⟩ := hshows
  refine Proc.sat_bind (listKeys_sat.mono fun o s1 hlist => ?_)
  obtain ⟨hkubo, hne, hpairs⟩ := hlist
  cases o with
  | stuck => exact absurd rfl hne
  | err e => exact ⟨hkubo, nofun, nofun⟩
  | ok l =>
    obtain rfl := hpairs l rfl
    dsimp only
    cases hfind : (N.pairs s.kubo).find? fun p => p.2 = id with
    | none => exact absurd (decide_eq_true rfl) (List.find?_eq_none.mp hfind _ hkey)
    | some p =>
      have hp : p.2 = id := by simpa using List.find?_some hfind
      obtain ⟨name', keyId⟩ := p
      obtain rfl : keyId = id := hp
      dsimp only
      refine nameQuery_bind (fun e _ => ⟨hkubo, nofun, nofun⟩) fun answer hanswer => ?_
      obtain ⟨path, hpath, hsame⟩ := N.nameResolve_ok hanswer
      rw [hkubo, hrecord] at hpath
      obtain rfl : publishedPath root = path := Option.some.inj hpath
      rw [hroot.published] at hsame
      have hshown := hsame (Text.startsWith_iff.mpr ⟨root.toList, String.toList_append⟩)
      have hstart : ∀ c ∈ "/ipfs/".toList, Text.isWhitespace c = false := by
        intro c hc
        have hc : c = '/' ∨ c = 'i' ∨ c = 'p' ∨ c = 'f' ∨ c = 's' ∨ c = '/' := by simpa using hc
        rcases hc with rfl | rfl | rfl | rfl | rfl | rfl <;> decide
      have hclean : Text.trim ("/ipfs/" ++ root) = "/ipfs/" ++ root := by
        refine Text.trim_of_clean fun c hc => ?_
        rw [String.toList_append, List.mem_append] at hc
        rcases hc with hc | hc
        · exact hstart c hc
        · exact (hroot.2 c hc).2
      have hsome : answer.path ≠ "" := by
        rw [hshown]
        intro hnil
        exact absurd (congrArg String.toList hnil) (by simp [String.toList_append])
      rw [if_neg hsome, hshown, hclean]
      dsimp only
      rw [Text.stripPrefix_append]
      refine ⟨hkubo, nofun, fun r hr => ?_⟩
      rw [← Outcome.ok.inj hr, Option.getD_some, if_neg hroot.1]

end Specs

/-! ## Kubo over a table -/

/-- Keys by alias, and the paths under their ids. -/
structure NameTable where
  keys : StrMap String := ∅
  records : StrMap String := ∅

/-- A name or id that `list_keys` shows as it is. -/
def shownAsIs (s : String) : Bool := Text.trim s = s && s ≠ ""

/-- The keys, as `key/list` answers. -/
def NameTable.entries (t : NameTable) : List KeyListEntry :=
  (t.keys.toList.filter fun p => shownAsIs p.1 && shownAsIs p.2).map fun p =>
    { name := p.1, id := p.2 }

theorem pair_entry {name id : String} (h : (shownAsIs name && shownAsIs id) = true) :
    KeyListEntry.pair { name := name, id := id } = some (name, id) := by
  obtain ⟨hname, hid⟩ := Bool.and_eq_true_iff.mp h
  simp only [shownAsIs, Bool.and_eq_true, decide_eq_true_eq, ne_eq] at hname hid
  have hfirst {s : String} (hs : Text.trim s = s ∧ ¬ s = "") : firstTrimmed s "" = s := by
    unfold firstTrimmed
    rw [hs.1, if_neg hs.2]
  unfold KeyListEntry.pair
  dsimp only
  rw [hfirst hname, hfirst hid, if_neg (not_or.mpr ⟨hname.2, hid.2⟩)]

theorem NameTable.mem_pairs {t : NameTable} {name id : String} :
    (name, id) ∈ t.entries.filterMap KeyListEntry.pair ↔
      t.keys[name]? = some id ∧ (shownAsIs name && shownAsIs id) = true := by
  unfold NameTable.entries
  rw [List.filterMap_map, List.mem_filterMap]
  constructor
  · rintro ⟨⟨name', id'⟩, hp, hpair⟩
    obtain ⟨hmem, hshown⟩ := List.mem_filter.mp hp
    rw [Function.comp_apply, pair_entry hshown] at hpair
    cases Option.some.inj hpair
    rw [Std.ExtTreeMap.mem_toList_iff_getElem?_eq_some] at hmem
    exact ⟨hmem, hshown⟩
  · rintro ⟨hget, hshown⟩
    refine ⟨(name, id), List.mem_filter.mpr ⟨?_, hshown⟩, ?_⟩
    · exact Std.ExtTreeMap.mem_toList_iff_getElem?_eq_some.mpr hget
    · rw [Function.comp_apply, pair_entry hshown]

/-- A Kubo over a table. The `n`-th call is not answered where `lost n`. -/
def tableNames (idOf : Bytes → String) (lost : Nat → Bool) : NameService NameTable where
  keys := NameTable.entries
  record t id := t.records[id]?
  idOf := idOf
  keyList n t := if lost n then .error ["timed out"] else .ok t.entries
  keyImport n t name key :=
    if lost n then (.error ["timed out"], t)
    else if t.keys[name]?.isNone && shownAsIs name && shownAsIs (idOf key) then
      (.ok { idUpper := idOf key }, { t with keys := t.keys.insert name (idOf key) })
    else (.error ["key with name already exists"], t)
  namePublish n t path name _ :=
    match t.keys[name]? with
    | some id =>
      if !lost n && (shownAsIs name && shownAsIs id) then
        (.ok { valueUpper := path }, { t with records := t.records.insert id path })
      else (.error ["timed out"], t)
    | none => (.error ["no key by the given name was found"], t)
  nameResolve n t arg :=
    match (Text.stripPrefix arg "/ipns/").bind fun id => t.records[id]? with
    | some path => if lost n then .error ["timed out"] else .ok { pathUpper := path }
    | none => .error ["could not resolve name"]
  keyList_ok := by
    intro n t l h
    split at h
    · exact absurd h nofun
    · exact (Except.ok.inj h).symm
  keys_unique := by
    intro t name id id' h h'
    have hget := (NameTable.mem_pairs.mp h).1
    rw [(NameTable.mem_pairs.mp h').1] at hget
    exact (Option.some.inj hget).symm
  keyImport_record := by
    intro n t name key
    funext id
    split
    · rfl
    · split <;> rfl
  keyImport_keys := by
    intro n t name key
    split
    · exact .inl rfl
    · split
      · rename_i hfree
        simp only [Bool.and_eq_true, Option.isNone_iff_eq_none] at hfree
        obtain ⟨⟨hnone, hname⟩, hid⟩ := hfree
        refine .inr ⟨fun id hmem => ?_, fun ⟨name', id'⟩ => ?_⟩
        · rw [NameTable.mem_pairs, hnone] at hmem
          exact absurd hmem.1 nofun
        · rw [NameTable.mem_pairs, NameTable.mem_pairs]
          dsimp only
          by_cases heq : name' = name
          · subst heq
            rw [Std.ExtTreeMap.getElem?_insert_self, hnone]
            simp only [Option.some.injEq, reduceCtorEq, false_and, Prod.mk.injEq, true_and,
              false_or]
            exact ⟨fun h => h.1.symm, fun h => ⟨h.symm, by simp [h, hname, hid]⟩⟩
          · rw [getElem?_insert_of_ne heq]
            simp [heq]
      · exact .inl rfl
  keyImport_ok := by
    intro n t name key r h
    split at h
    · exact absurd h nofun
    · rename_i hanswered
      rw [if_neg hanswered]
      split at h
      · rename_i hfree
        rw [if_pos hfree]
        simp only [Bool.and_eq_true] at hfree
        obtain ⟨⟨-, hname⟩, hid⟩ := hfree
        obtain rfl := (Except.ok.inj h).symm
        refine ⟨?_, NameTable.mem_pairs.mpr ⟨Std.ExtTreeMap.getElem?_insert_self, ?_⟩⟩
        · simp only [shownAsIs, Bool.and_eq_true, decide_eq_true_eq, ne_eq] at hid
          unfold KeyImportResponse.id firstTrimmed
          rw [hid.1, if_neg hid.2]
        · rw [hname, hid]
          rfl
      · exact absurd h nofun
  namePublish_keys := by
    intro n t path name lifetime
    split
    · split <;> rfl
    · rfl
  namePublish_record := by
    intro n t path name lifetime id
    split
    · rename_i id' hget
      split
      · rename_i hshown
        by_cases heq : id = id'
        · subst heq
          refine .inr ⟨NameTable.mem_pairs.mpr ⟨hget, (Bool.and_eq_true_iff.mp hshown).2⟩, ?_⟩
          exact Std.ExtTreeMap.getElem?_insert_self
        · exact .inl (getElem?_insert_of_ne heq)
      · exact .inl rfl
    · exact .inl rfl
  namePublish_ok := by
    intro n t path name lifetime r h id hkey
    obtain ⟨hget, -⟩ := NameTable.mem_pairs.mp hkey
    rw [hget] at h ⊢
    dsimp only at h ⊢
    split at h
    · rename_i hanswered
      rw [if_pos hanswered]
      exact Std.ExtTreeMap.getElem?_insert_self
    · exact absurd h nofun
  nameResolve_ok := by
    intro n t id r h
    rw [Text.stripPrefix_append, Option.bind_some] at h
    split at h
    · rename_i path hpath
      split at h
      · exact absurd h nofun
      · refine ⟨path, hpath, fun hstart => ?_⟩
        obtain rfl := (Except.ok.inj h).symm
        unfold NameResolveResponse.path
        split
        · rename_i hnil
          rw [show path = "" from hnil] at hstart
          exact absurd hstart (by decide)
        · rfl
    · exact absurd h nofun

end MaRuntime
