import MaRuntime.Plugins.Hosted
import MaRuntime.Rpc

/-!
# Groups of set actors

An ACL entry `+#f` stands for the members of the set actor `f`. The entity gate asks the actor for
one caller with `:contains` and reads the answer off the output of its export. But the set plugin
answers through `ma_reply`, like every shipped plugin, and returns no output. So the answer goes to
nobody, and a group has no members.

* `play_contains`: the plugin knows the answer and replies it; `queryActorGroup_empty`: the host
  reads none.
* `checkFull_asks`: the check over a resolver that acts is the check over its answers;
  `checkFull_silent`: groups that resolve to nobody admit nobody; `checkFull_actorsDown`: where no
  group actor is there, there are no groups.
* `group_agrees_iff`: the gate agrees with the set exactly about those who are no members, while no
  borrow is left in the set.
* `member_denied`: a member is denied.
-/

namespace MaRuntime

open Lib (Cbor Proc)
open Plugins (Locals Session Hosts HoldsSession Guest)

/-! ## The question and its answer -/

section Query

variable {env : Env} {keeps : Bool} {wasm : Bytes}
  {sessionIn : Bytes → Option (Session (List String))} {s : Session (List String)}

theorem contains_carries {codec : Lib.CborCodec} {msg : LocalMessage} {caller : String}
    (hcontent : msg.content = codec.encode (.array [.text ":contains", .text caller])) :
    Plugins.Carries codec (codec.encode (CastInput.toCbor { msg })) { msg } ":contains"
      [.text caller] where
  decodes := by rw [codec.decode_encode, Option.bind_some, Plugins.castInputOfCbor_toCbor]
  parses := by
    unfold Plugins.parseVerb
    rw [hcontent, codec.decode_encode]

/-- **The plugin replies whether the caller is a member**, and returns no output. -/
theorem contains_run {codec : Lib.CborCodec} {msg : LocalMessage} {caller : String}
    (hfree : s.borrowed = false)
    (hcontent : msg.content = codec.encode (.array [.text ":contains", .text caller])) :
    Plugins.Set.handleCall codec (codec.encode (CastInput.toCbor { msg })) s.guards
        { locals := s.locals } =
      (.ok [],
        { locals := s.locals
          calls := [(.maReply, codec.encode (ReplyRequest.toCbor
            { msg, contentType := "application/cbor"
              content := Plugins.cborOk codec (.bool (s.locals.state.contains caller)) }))] }) :=
  Plugins.handleCallWith_answered (contains_carries hcontent) hfree rfl

/-- The set plugin is registered under `f` with its imports linked, in the session `s`. -/
def SetActor (wasm : Bytes) (sessionIn : Bytes → Option (Session (List String))) (f : String)
    (s : Session (List String)) (w : World) : Prop :=
  ∃ ep i, w.rt.entityRegistry[f]? = some ep ∧ ep.backend = .extism i ∧
    HoldsSession wasm sessionIn (w.rt.cells i) s ∧ .maReply ∈ (w.rt.cells i).hostFns

/-- In the daemon the reply becomes an envelope, and the output stays empty. -/
theorem playExport_contains (hosts : Hosts env (Plugins.Set.program env.codec) keeps wasm sessionIn)
    {cell : PluginCell} {msg : LocalMessage} {caller : String} (hfree : s.borrowed = false)
    (hcell : HoldsSession wasm sessionIn cell s) (hlinked : .maReply ∈ cell.hostFns)
    (hcontent : msg.content = env.codec.encode (.array [.text ":contains", .text caller])) (n : Nat)
    (io : Io) :
    ∃ memory io', playExport env n "handle_call" (env.codec.encode (CastInput.toCbor { msg })) cell
        io = (.ok [], { cell with plugin := { cell.plugin with memory } }, io') ∧
      sessionIn memory = some s := by
  have hrun := contains_run hfree hcontent
  obtain ⟨rfl, hmemory⟩ := hcell
  obtain ⟨io', hanswered⟩ : ∃ io', Lib.Interaction.answered (hostFn env)
      (Plugins.Set.handleCall env.codec (env.codec.encode (CastInput.toCbor { msg })) s.guards
        { locals := s.locals }).2.calls (cell, io) = some (cell, io') := by
    rw [hrun]
    simp [Lib.Interaction.answered, hostFn, hlinked, env.codec.decode_encode]
  obtain ⟨result, memory, hplay, htold, hsession⟩ :=
    Plugins.playExport_performs (hosts.handleCall (n := n) hmemory) hanswered
  have htold : Plugins.Told (Plugins.Set.handleCall env.codec
    (env.codec.encode (CastInput.toCbor { msg })) s.guards { locals := s.locals }).1 result := htold
  rw [hrun] at htold
  obtain rfl : result = .ok [] := htold
  refine ⟨memory, io', hplay, hsession.trans ?_⟩
  show some (s.call keeps (Plugins.Set.handleCall env.codec _)) = some s
  unfold Session.call
  rw [hrun]

/-- The call of the actor leaves it as it was. -/
theorem handleCall_contains (hosts : Hosts env (Plugins.Set.program env.codec) keeps wasm sessionIn)
    {w : World} {ep : EntityPlugin} {i : Nat} {msg : LocalMessage} {caller : String}
    {g : Lib.Guards Lock} (hbackend : ep.backend = .extism i) (hfree : s.borrowed = false)
    (hcell : HoldsSession wasm sessionIn (w.rt.cells i) s)
    (hlinked : .maReply ∈ (w.rt.cells i).hostFns)
    (hcontent : msg.content = env.codec.encode (.array [.text ":contains", .text caller])) :
    ∃ result w', handleCall env ep { msg } g w = (.ok result, w') ∧ result.output = [] ∧
      w'.rt.entityRegistry = w.rt.entityRegistry ∧
      HoldsSession wasm sessionIn (w'.rt.cells i) s ∧ .maReply ∈ (w'.rt.cells i).hostFns := by
  obtain ⟨memory, io', hplay, hsession⟩ := playExport_contains hosts hfree hcell hlinked hcontent
    w.io.calls { w.io with calls := w.io.calls + 1 }
  unfold handleCall dispatchTo
  simp only [hbackend]
  rw [Proc.bind_of_ok (callExport_run env ep i _ _ w hplay)]
  refine ⟨_, _, rfl, rfl, rfl, ⟨?_, ?_⟩, ?_⟩
  · simpa using hcell.1
  · simpa using hsession
  · simpa using hlinked

/-- **A call of an actor that a write left borrowed traps.** -/
theorem handleCall_borrowed (hosts : Hosts env (Plugins.Set.program env.codec) keeps wasm sessionIn)
    {w : World} {ep : EntityPlugin} {i : Nat} {msg : LocalMessage} {caller : String}
    {g : Lib.Guards Lock} (hbackend : ep.backend = .extism i) (hborrowed : s.borrowed = true)
    (hcell : HoldsSession wasm sessionIn (w.rt.cells i) s)
    (hcontent : msg.content = env.codec.encode (.array [.text ":contains", .text caller])) :
    ∃ e w', handleCall env ep { msg } g w = (.err e, w') := by
  have hrun : Plugins.Set.handleCall env.codec (env.codec.encode (CastInput.toCbor { msg }))
      s.guards { locals := s.locals } = (.stuck, { locals := s.locals }) :=
    Plugins.handleCallWith_borrowed (contains_carries hcontent) hborrowed
  obtain ⟨hwasm, hmemory⟩ := hcell
  subst hwasm
  have hanswered : Lib.Interaction.answered (hostFn env)
      (Plugins.Set.handleCall env.codec (env.codec.encode (CastInput.toCbor { msg })) s.guards
        { locals := s.locals }).2.calls (w.rt.cells i, { w.io with calls := w.io.calls + 1 }) =
      some (w.rt.cells i, { w.io with calls := w.io.calls + 1 }) := by
    rw [hrun]
    rfl
  obtain ⟨result, memory, hplay, htold, -⟩ :=
    Plugins.playExport_performs (hosts.handleCall (n := w.io.calls) hmemory) hanswered
  have htold : Plugins.Told (Plugins.Set.handleCall env.codec
    (env.codec.encode (CastInput.toCbor { msg })) s.guards { locals := s.locals }).1 result := htold
  rw [hrun] at htold
  obtain ⟨trap, rfl⟩ : ∃ trap, result = .error trap := htold
  unfold handleCall dispatchTo
  simp only [hbackend]
  rw [Proc.bind_of_err (callExport_run env ep i _ _ w hplay)]
  exact ⟨_, _, rfl⟩

/-- **The host reads no answer**: whoever the caller is, the group has no members. -/
theorem queryActorGroup_empty (caller : String)
    (hosts : Hosts env (Plugins.Set.program env.codec) keeps wasm sessionIn) {f : String}
    {w : World} {g : Lib.Guards Lock} (hfree : s.borrowed = false)
    (hg : g.excludes .entityRegistry .read = false) (h : SetActor wasm sessionIn f s w) :
    ∃ w', queryActorGroup env ("+#" ++ f) caller g w = (.ok [], w') ∧
      SetActor wasm sessionIn f s w' := by
  obtain ⟨ep, i, hep, hbackend, hcell, hlinked⟩ := h
  have hcontent : (containsMessage env f caller w.io.calls).content =
      env.codec.encode (.array [.text ":contains", .text caller]) := rfl
  obtain ⟨result, w2, hcall, houtput, hregistry, hcell2, hlinked2⟩ :=
    @handleCall_contains _ _ _ _ _ hosts (w.afterCalls 1) ep i _ caller g hbackend hfree hcell
      hlinked hcontent
  refine ⟨w2, ?_, ep, i, hregistry ▸ hep, hbackend, hcell2, hlinked2⟩
  rw [queryActorGroup_run hg (Text.stripPrefix_append _ _) hep, Proc.bind_of_ok hcall]
  simp [containedIn, houtput, env.codec.decode_nil]

/-- **After a write that panicked the group is not resolved at all.** -/
theorem queryActorGroup_borrowed (caller : String)
    (hosts : Hosts env (Plugins.Set.program env.codec) keeps wasm sessionIn) {f : String}
    {w : World} {g : Lib.Guards Lock} (hborrowed : s.borrowed = true)
    (hg : g.excludes .entityRegistry .read = false) (h : SetActor wasm sessionIn f s w) :
    ∃ e w', queryActorGroup env ("+#" ++ f) caller g w = (.err e, w') := by
  obtain ⟨ep, i, hep, hbackend, hcell, -⟩ := h
  have hcontent : (containsMessage env f caller w.io.calls).content =
      env.codec.encode (.array [.text ":contains", .text caller]) := rfl
  obtain ⟨e, w2, hcall⟩ := @handleCall_borrowed _ _ _ _ _ hosts (w.afterCalls 1) ep i _ caller g
    hbackend hborrowed hcell hcontent
  refine ⟨e, w2, ?_⟩
  rw [queryActorGroup_run hg (Text.stripPrefix_append _ _) hep, Proc.bind_of_err hcall]

end Query

/-! ## A resolver that acts -/

section Asks

variable {L σ : Type} {core : MaCore} {caller : String}
  {resolveGroup : String → Proc L σ Error (Except Error (List String))}
  {answer : String → Except Error (List String)} {g : Lib.Guards L} {P : σ → Prop}

variable (core caller resolveGroup answer g P) in
/-- Resolving the group tells the same about the caller as the answer, and keeps `P`. -/
def Asks (key : String) : Prop :=
  ∀ s, P s → ∃ s', inGroup core caller resolveGroup key g s =
    (.ok (answersMember core caller answer key), s') ∧ P s'

theorem deniedGroup_asks : ∀ l : List (String × CapabilityEntry),
    (∀ e ∈ l, Text.startsWith e.1 groupPrefix = true →
      Asks core caller resolveGroup answer g P e.1) →
    ∀ s, P s → ∃ s', deniedGroup core caller resolveGroup l g s =
      (.ok (answersDenied core caller answer l), s') ∧ P s'
  | [], _, s, hs => ⟨s, rfl, hs⟩
  | (key, .allow _) :: l, hl, s, hs => by
    rw [deniedGroup, answersDenied_allow]
    exact deniedGroup_asks l (fun e he => hl e (List.mem_cons_of_mem _ he)) s hs
  | (key, .deny) :: l, hl, s, hs => by
    have ih := deniedGroup_asks l fun e he => hl e (List.mem_cons_of_mem _ he)
    rw [deniedGroup, answersDenied_deny]
    by_cases hgroup : Text.startsWith key groupPrefix = true
    · obtain ⟨s1, hin, hs1⟩ := hl _ List.mem_cons_self hgroup s hs
      rw [if_pos hgroup, Proc.bind_of_ok hin]
      by_cases hmember : answersMember core caller answer key = true
      · rw [if_pos hmember, if_pos ⟨hgroup, hmember⟩]
        exact ⟨s1, rfl, hs1⟩
      · rw [if_neg hmember, if_neg fun h => hmember h.2]
        exact ih s1 hs1
    · rw [if_neg hgroup, if_neg fun h => hgroup h.1]
      exact ih s hs

theorem allowedGroup_asks (caps : List String) : ∀ l : List (String × CapabilityEntry),
    (∀ e ∈ l, Text.startsWith e.1 groupPrefix = true →
      Asks core caller resolveGroup answer g P e.1) →
    ∀ s, P s → ∃ s', allowedGroup core caller resolveGroup caps l g s =
      (.ok (answersAllowed core caller answer caps l), s') ∧ P s'
  | [], _, s, hs => ⟨s, rfl, hs⟩
  | (key, .deny) :: l, hl, s, hs => by
    rw [allowedGroup, answersAllowed_deny]
    exact allowedGroup_asks caps l (fun e he => hl e (List.mem_cons_of_mem _ he)) s hs
  | (key, .allow capSet) :: l, hl, s, hs => by
    have ih := allowedGroup_asks caps l fun e he => hl e (List.mem_cons_of_mem _ he)
    rw [allowedGroup, answersAllowed_allow]
    by_cases hgroup : Text.startsWith key groupPrefix = true
    · obtain ⟨s1, hin, hs1⟩ := hl _ List.mem_cons_self hgroup s hs
      rw [if_pos hgroup, hgroup, Bool.true_and, Proc.bind_of_ok hin]
      dsimp only
      cases hfits : answersMember core caller answer key &&
        caps.any (CapabilityEntry.allow capSet).grants with
      | true => exact ⟨s1, rfl, hs1⟩
      | false => exact ih s1 hs1
    · rw [if_neg hgroup, Bool.eq_false_of_not_eq_true hgroup, Bool.false_and, Bool.false_and,
        Bool.false_or]
      exact ih s hs

/-- **The check over a resolver that acts is the check over its answers.** -/
theorem checkFull_asks {acl : AclMap} (caps : List String)
    (hgroups : ∀ key entry, acl[key]? = some entry → Text.startsWith key groupPrefix = true →
      Asks core caller resolveGroup answer g P key) {s : σ} (hs : P s) :
    ∃ s', checkFull core caller resolveGroup acl caps g s =
      (.ok (checkWith core caller answer acl caps), s') ∧ P s' := by
  have hl : ∀ e ∈ acl.toList, Text.startsWith e.1 groupPrefix = true →
      Asks core caller resolveGroup answer g P e.1 :=
    fun e he => hgroups e.1 e.2 (Std.ExtTreeMap.mem_toList_iff_getElem?_eq_some.mp he)
  obtain ⟨s1, hdenied, hs1⟩ := deniedGroup_asks acl.toList hl s hs
  obtain ⟨s2, hallowed, hs2⟩ := allowedGroup_asks caps acl.toList hl s1 hs1
  unfold checkWith checkFull
  split
  · exact ⟨s, rfl, hs⟩
  split
  · exact ⟨s, rfl, hs⟩
  split
  · exact ⟨s, rfl, hs⟩
  rw [Proc.bind_of_ok hdenied, Id.run_bind, run_deniedGroup]
  cases answersDenied core caller answer acl.toList with
  | some key => exact ⟨s1, rfl, hs1⟩
  | none =>
    refine ⟨s2, ?_, hs2⟩
    dsimp only
    rw [Proc.bind_of_ok hallowed, Id.run_bind, run_allowedGroup]
    cases answersAllowed core caller answer caps acl.toList with
    | true => rfl
    | false => rfl

end Asks

/-! ## The gate -/

section Gate

variable {env : Env} {caller : String} {g : Lib.Guards Lock} {P : World → Prop}

/-- The resolver of the entity gate. -/
def groupResolver (env : Env) (caller : String) (key : String) : M (Except Error (List String)) :=
  (queryActorGroup env key caller).attempt

/-- The group never resolves to the caller, and resolving it keeps `P`. -/
def Silent (env : Env) (caller : String) (g : Lib.Guards Lock) (P : World → Prop)
    (key : String) : Prop :=
  ∀ w, P w → ∃ w', inGroup env.core caller (groupResolver env caller) key g w = (.ok false, w') ∧
    P w'

/-- **A group is not resolved** if it names no actor of this runtime, or one that is not there. -/
theorem queryActorGroup_down {key : String} {w : World}
    (hg : g.excludes .entityRegistry .read = false)
    (h : ∀ f, Text.stripPrefix key "+#" = some f → w.rt.entityRegistry[f]? = none) :
    ∃ e, queryActorGroup env key caller g w = (.err e, w) := by
  unfold queryActorGroup
  cases hstrip : Text.stripPrefix key "+#" with
  | none => exact ⟨_, rfl⟩
  | some f =>
    have hread : (reading .entityRegistry (getRt fun rt => rt.entityRegistry[f]?) : M _) g w =
        (.ok none, w) := by
      unfold reading
      rw [Proc.holding_run hg]
      exact congrArg (fun o => (Lib.Outcome.ok o, w)) (h f hstrip)
    dsimp only
    rw [Proc.bind_of_ok hread]
    exact ⟨_, rfl⟩

/-- Such a group resolves to nobody. -/
theorem inGroup_down {key : String} {w : World} (hg : g.excludes .entityRegistry .read = false)
    (h : ∀ f, Text.stripPrefix key "+#" = some f → w.rt.entityRegistry[f]? = none) :
    inGroup env.core caller (groupResolver env caller) key g w = (.ok false, w) := by
  obtain ⟨e, hquery⟩ := @queryActorGroup_down env caller g key w hg h
  unfold inGroup groupResolver
  rw [Proc.bind_of_ok (Proc.attempt_of_err hquery)]
  rfl

theorem silent_setActor {keeps : Bool} {wasm : Bytes}
    {sessionIn : Bytes → Option (Session (List String))} {f : String} {s : Session (List String)}
    (hosts : Hosts env (Plugins.Set.program env.codec) keeps wasm sessionIn)
    (hfree : s.borrowed = false) (hg : g.excludes .entityRegistry .read = false) :
    Silent env caller g (SetActor wasm sessionIn f s) ("+#" ++ f) := by
  intro w hw
  obtain ⟨w', hquery, hw'⟩ := queryActorGroup_empty caller hosts hfree hg hw
  refine ⟨w', ?_, hw'⟩
  unfold inGroup groupResolver
  rw [Proc.bind_of_ok (Proc.attempt_of_ok hquery)]
  rfl

/-- **Silent groups admit nobody** of whom none of the keys that are looked up has an entry. -/
theorem checkFull_silent {keys : String → List String} (hlook : env.core.LooksUp keys)
    {acl : AclMap} (hnone : ∀ key ∈ keys caller, acl[key]? = none)
    (hgroups : ∀ key entry, acl[key]? = some entry → Text.startsWith key groupPrefix = true →
      Silent env caller g P key) (caps : List String) (w : World) (hw : P w) :
    ∃ e w', checkFull env.core caller (groupResolver env caller) acl caps g w =
      (.ok (.error e), w') := by
  obtain ⟨w', hcheck, -⟩ := @checkFull_asks _ _ env.core caller (groupResolver env caller)
    (fun _ => .ok []) g P acl caps hgroups w hw
  have hcheck : checkFull env.core caller (groupResolver env caller) acl caps g w =
      (.ok (checkFullNoGroups env.core acl caller caps), w') := hcheck
  cases hverdict : checkFullNoGroups env.core acl caller caps with
  | error e => exact ⟨e, w', by rw [hcheck, hverdict]⟩
  | ok _ =>
    obtain ⟨-, -, cap, -, hcap⟩ := checkFullNoGroups_ok_iff.mp hverdict
    rw [hlook.decides, List.findSome?_eq_none_iff.mpr hnone] at hcap
    exact absurd hcap (by simp)

/-- **While no group actor is there, the gate decides as if the ACL had no groups**, and so without
the denies of the groups. -/
theorem checkFull_actorsDown {acl : AclMap} {w : World} (caps : List String)
    (hg : g.excludes .entityRegistry .read = false)
    (hdown : ∀ key entry f, acl[key]? = some entry → Text.stripPrefix key "+#" = some f →
      w.rt.entityRegistry[f]? = none) :
    checkFull env.core caller (groupResolver env caller) acl caps g w =
      (.ok (checkFullNoGroups env.core acl caller caps), w) := by
  obtain ⟨w', hcheck, rfl⟩ := @checkFull_asks _ _ env.core caller (groupResolver env caller)
    (fun _ => .ok []) g (· = w) acl caps
    (fun key entry hentry _ s hs =>
      ⟨s, inGroup_down hg fun f hf => hs ▸ hdown key entry f hentry hf, hs⟩) w rfl
  exact hcheck

end Gate

/-! ## Agreement -/

/-- The group resolves to the caller exactly if he is a member, and an entry for the group lets him
call the verb exactly if he is one. -/
structure GroupAgrees (env : Env) (f caller verb : String) (acl : AclMap) (g : Lib.Guards Lock)
    (w : World) (members : List String) : Prop where
  query : ∃ l w', queryActorGroup env ("+#" ++ f) caller g w = (.ok l, w') ∧
    (caller ∈ l ↔ caller ∈ members) ∧ (caller ∉ members → l = [])
  gate : (∃ w', checkFull env.core caller (groupResolver env caller) acl [verb, "*"] g w =
    (.ok (.ok ()), w')) ↔ caller ∈ members

/-- The entry for the group allows the verb, and no other entry applies to the caller: neither his
own, nor that of `*`, nor for an entity of the runtime that of `#`, nor that of another group. -/
structure OnlyGroup (env : Env) (f caller verb : String) (acl : AclMap) (g : Lib.Guards Lock)
    (P : World → Prop) : Prop where
  entry : acl["+#" ++ f]? = some (.fromCaps [verb])
  direct : acl[env.core.normalizePrincipal caller]? = none
  entities : Text.startsWith caller "#" = true → acl["#"]? = none
  wildcard : acl["*"]? = none
  others : ∀ key entry, key ≠ "+#" ++ f → acl[key]? = some entry →
    Text.startsWith key groupPrefix = true → Silent env caller g P key

/-- No key that is looked up for the caller has an entry. -/
theorem OnlyGroup.none {env : Env} {f caller verb : String} {acl : AclMap} {g : Lib.Guards Lock}
    {P : World → Prop} {keys : String → List String} (h : OnlyGroup env f caller verb acl g P)
    (hlook : env.core.LooksUp keys) : ∀ key ∈ keys caller, acl[key]? = none := by
  intro key hkey
  by_cases hentity : Text.startsWith caller "#" = true
  · rcases hlook.entity caller hentity key hkey with rfl | rfl | rfl
    · exact h.direct
    · exact h.entities hentity
    · exact h.wildcard
  · rw [hlook.remote caller (Bool.eq_false_of_not_eq_true hentity)] at hkey
    rcases List.mem_cons.mp hkey with rfl | hwild
    · exact h.direct
    · rw [List.mem_singleton.mp hwild]
      exact h.wildcard

/-- **The gate agrees with the set about a caller exactly if he is no member**, and no write that
panicked has left the set borrowed. -/
theorem group_agrees_iff {env : Env} {keys : String → List String} (hlook : env.core.LooksUp keys)
    {keeps : Bool} {wasm : Bytes} {sessionIn : Bytes → Option (Session (List String))}
    (hosts : Hosts env (Plugins.Set.program env.codec) keeps wasm sessionIn)
    {f caller verb : String} {s : Session (List String)} {w : World}
    (hset : SetActor wasm sessionIn f s w) {acl : AclMap}
    (honly : OnlyGroup env f caller verb acl [(.rootAcl, .read)] (SetActor wasm sessionIn f s)) :
    GroupAgrees env f caller verb acl [(.rootAcl, .read)] w s.locals.state ↔
      s.borrowed = false ∧ caller ∉ s.locals.state := by
  cases hfree : s.borrowed with
  | true =>
    obtain ⟨e, w1, hquery⟩ := queryActorGroup_borrowed caller hosts
      (g := [(.rootAcl, .read)]) hfree rfl hset
    refine iff_of_false (fun h => ?_) (by simp)
    obtain ⟨l, w', hl, -⟩ := h.query
    exact absurd (hl.symm.trans hquery) (by simp)
  | false =>
    obtain ⟨w1, hquery, -⟩ := queryActorGroup_empty caller hosts
      (g := [(.rootAcl, .read)]) hfree rfl hset
    obtain ⟨e, w2, hcheck⟩ := checkFull_silent hlook (honly.none hlook)
      (fun key entry hkey hgroup => by
        by_cases h : key = "+#" ++ f
        · rw [h]
          exact silent_setActor (g := [(.rootAcl, .read)]) hosts hfree rfl
        · exact honly.others key entry h hkey hgroup) [verb, "*"] w hset
    have hdenied : ¬ ∃ w', checkFull env.core caller (groupResolver env caller) acl [verb, "*"]
        [(.rootAcl, .read)] w = (.ok (.ok ()), w') := by
      rintro ⟨w', h⟩
      rw [hcheck] at h
      simp at h
    refine ⟨fun h => ⟨rfl, fun hmember => hdenied (h.gate.mpr hmember)⟩, fun ⟨_, hout⟩ => ⟨?_, ?_⟩⟩
    · exact ⟨[], w1, hquery, iff_of_false (by simp) hout, fun _ => rfl⟩
    · exact iff_of_false hdenied hout

/-! ## Friends -/

/-- A set whose only member is Alice. -/
def friendsNode : EntityNode :=
  { kind := "/ma/set/0.0.1", behaviour := some ⟨"bafysetwasm"⟩, acl := "open"
    state := some ⟨"bafyfriends"⟩ }

/-- Kubo with the set, its module and its state. -/
def friendsTables : Tables where
  manifests :=
    [("bafyroot",
      { kinds := KindTree.insertProtocol {} "/ma/set/0.0.1" ⟨"bafysetkind"⟩
        entities := (∅ : StrMap IpldLink).insert "friends" ⟨"bafyfriendsnode"⟩
        acls := (∅ : StrMap IpldLink).insert "open" ⟨"bafyopenacl"⟩ })]
  entities := [("bafyfriendsnode", friendsNode)]
  kinds := [("bafysetkind", Plugins.setKind)]
  acls := [("bafyopenacl", (∅ : AclMap).insert "*" (.fromCaps ["*"]))]
  blobs := [("bafysetwasm", [1]),
    ("bafyfriends", Lib.rfcCodec.encode (.array [.text "did:ma:alice"]))]

/-- The daemon with the set loaded. -/
def friendsStart : World := started (Plugins.setEnv friendsTables) (some "bafyroot") []

/-- The cells of the loaded set. -/
def aliceOnly : Locals (List String) :=
  { state := ["did:ma:alice"], selfDid := "did:ma:runtime#friends", parent := none }

/-- The friends may read. -/
def readersAcl : AclMap := (∅ : AclMap).insert "+#friends" (.fromCaps [":read"])

set_option maxRecDepth 100000

theorem friends_setActor :
    SetActor [1] Plugins.readMemory "friends" { locals := aliceOnly } friendsStart :=
  ⟨{ fragment := "friends", kind := .stateful, acl := "open", parent := none
     backend := .extism 0 }, 0, by decide +kernel, rfl, by unfold HoldsSession; decide +kernel,
    by decide +kernel⟩

theorem friends_onlyGroup {caller : String} {P : World → Prop} (h : caller ≠ "+#friends")
    (hcaller : tableCore.normalizePrincipal caller = caller) :
    OnlyGroup (Plugins.setEnv friendsTables) "friends" caller ":read" readersAcl
      [(.rootAcl, .read)] P where
  entry := by simp [readersAcl]
  direct := by
    show readersAcl[tableCore.normalizePrincipal caller]? = none
    rw [hcaller]
    simp [readersAcl, Ne.symm h]
  entities _ := by simp [readersAcl]
  wildcard := by simp [readersAcl]
  others key entry hkey hentry _ := by
    simp only [readersAcl, Std.ExtTreeMap.getElem?_insert] at hentry
    split at hentry
    · rename_i hsame
      exact absurd (Std.LawfulEqCmp.eq_of_compare hsame).symm hkey
    · simp at hentry

/-- The gate and the set agree that Bob is no friend. -/
theorem group_agrees_iff_stranger :
    GroupAgrees (Plugins.setEnv friendsTables) "friends" "did:ma:bob" ":read" readersAcl
      [(.rootAcl, .read)] friendsStart ["did:ma:alice"] :=
  (group_agrees_iff tableCore_looksUp (Plugins.setEnv_hosts friendsTables [1]) friends_setActor
    (friends_onlyGroup (by decide) (by decide))).mpr ⟨rfl, by decide⟩

/-- **A member is denied**: Alice is in the set, and the group resolves to nobody. -/
theorem member_denied :
    SetActor [1] Plugins.readMemory "friends" { locals := aliceOnly } friendsStart ∧
      "did:ma:alice" ∈ aliceOnly.state ∧
      (queryActorGroup (Plugins.setEnv friendsTables) "+#friends" "did:ma:alice"
        [(.rootAcl, .read)] friendsStart).1 = .ok [] ∧
      ¬ GroupAgrees (Plugins.setEnv friendsTables) "friends" "did:ma:alice" ":read" readersAcl
        [(.rootAcl, .read)] friendsStart aliceOnly.state := by
  have hquery : (queryActorGroup (Plugins.setEnv friendsTables) "+#friends" "did:ma:alice"
      [(.rootAcl, .read)] friendsStart).1 = .ok [] := by decide +kernel
  refine ⟨friends_setActor, by decide, hquery, fun h => ?_⟩
  obtain ⟨l, w', hl, hmembers, -⟩ := h.query
  have hempty := (congrArg Prod.fst hl).symm.trans hquery
  obtain rfl := Lib.Outcome.ok.inj hempty
  exact absurd (hmembers.mpr (by decide)) (by simp)

end MaRuntime
