import MaRuntime.AclCache
import MaRuntime.Ipns
import MaRuntime.Lib.Threads
import MaRuntime.ManifestHistory

/-!
# The republishing task (`src/main.rs`)

Beside the event loop a task publishes the root: it looks at `stats.root_cid` at every tick, writes
a DID document that links the root and points the `runtime_ipns` name at it. Shutdown points the
name at the last root, and the next start resolves it. The task and the event loop interleave, also
while a tick is on its way, and with the shutdown.

* `Node` is the daemon with the task and Kubo's names, `NodeStep` one move of any of them.
* `name_history`: the name only ever shows roots that the runtime had.
* `settled_run`: while no tick is cut in half, a tick that finds nothing to do leaves the name at
  the current root. `stale_name` is a run with one that was.
* `restart_resumes`: the next start goes on from the last root, or from that of a tick which the
  shutdown overtook.
* `names_untouched`: no other name is ever changed, but those that senders have published, and no
  key.

The event loop publishes documents too: those of senders, with their keys. That it leaves the
runtime's names (`Publishing.OthersAsk`) is a hypothesis of what is said of these.
-/

namespace MaRuntime

open Lib (Proc Outcome Run)

/-! ## The task -/

/-- What the task works with, and what is outside the repository. -/
structure Publishing (σ : Type) where
  naming : Naming σ
  /-- The extra key `runtime_ipns` of the secret bundle. -/
  runtimeIpnsKey : Bytes
  runtimeIpnsId : String
  runtimeIpnsId_eq : naming.ipnsFromSecret runtimeIpnsKey = .ok runtimeIpnsId
  /-- `Cid::try_from` accepts it. -/
  isCid : Cid → Bool
  isCid_text : ∀ {cid}, isCid cid = true → IsCidText cid
  /-- The IPNS identity of the runtime's own DID. -/
  ownIpnsId : String
  /-- The two names have keys of their own. -/
  names_differ : runtimeIpnsId ≠ ownIpnsId
  /-- The DID document that links a root, encoded, and the key of its name. Each time the secret
  bundle is loaded anew. -/
  ownDocument : Nat → Cid → Except Error (Bytes × Bytes)
  ownDocument_id : ∀ {n root doc key document ipns}, ownDocument n root = .ok (doc, key) →
    naming.documentId doc = .ok document → naming.didIpns document = .ok ipns → ipns = ownIpnsId
  /-- `did_publish_cache_warm_secs`. -/
  cacheWarmSecs : UInt64
  /-- `did_document_publishing_lifetime_hours`. -/
  lifetimeHours : UInt64

/-- Where a tick is. -/
inductive PublishPhase where
  | idle
  /-- The DID document for this root is to be published. -/
  | document (root : Cid) (docCbor ipnsKey : Bytes)
  /-- The name is to be pointed at this root. -/
  | name (root : Cid) (didOk : Bool)
  /-- Both publishes are done. -/
  | confirm (root : Cid) (published : Bool)
  deriving DecidableEq, Repr

/-- The root a tick carries. -/
def PublishPhase.carried : PublishPhase → Option Cid
  | .idle => none
  | .document root _ _ => some root
  | .name root _ => some root
  | .confirm root _ => some root

/-- The locals of the task. Times are seconds of the monotonic clock. -/
structure PublishTask where
  lastPublishedCid : Option Cid := none
  lastPublishedAt : Nat
  phase : PublishPhase := .idle
  deriving DecidableEq, Repr

/-- The task at its start: the cache counts as cold, where the clock goes back that far. -/
def PublishTask.start (cacheWarmSecs : UInt64) (now : Nat) : PublishTask where
  lastPublishedAt := if cacheWarmSecs.toNat ≤ now then now - cacheWarmSecs.toNat else now

/-- The daemon, its publishing task and Kubo's names. -/
structure Node (σ : Type) where
  world : World
  names : NameIo σ
  task : PublishTask
  /-- The event loop has ended. -/
  down : Bool := false

/-- The call went through. -/
def Succeeded {α : Type} : Outcome Error α → Bool
  | .ok _ => true
  | _ => false

section Moves

variable {σ : Type} (P : Publishing σ)

/-- `cid_changed` or `cache_warm_elapsed`. -/
def PublishTask.due (task : PublishTask) (root : Cid) (now : Nat) : Bool :=
  task.lastPublishedCid ≠ some root || P.cacheWarmSecs.toNat ≤ now - task.lastPublishedAt

/-- A tick, up to the document: most ticks end here. -/
def Node.tick (n : Node σ) (now : Nat) : Node σ :=
  match n.world.rt.stats.rootCid with
  | none => n
  | some root =>
    if n.task.due P root now && P.isCid root then
      match P.ownDocument n.names.calls root with
      | .ok (doc, key) =>
        { n with
          names := { n.names with calls := n.names.calls + 1 }
          task := { n.task with phase := .document root doc key } }
      | .error _ => { n with names := { n.names with calls := n.names.calls + 1 } }
    else n

/-- The tick publishes the document. -/
def Node.publishDocument (n : Node σ) (root : Cid) (doc key : Bytes) : Node σ :=
  let (o, names) := doPublishOwnDocument P.naming doc key P.lifetimeHours [] n.names
  { n with names, task := { n.task with phase := .name root (Succeeded o) } }

/-- What publishing a root under the runtime's name does. -/
def publishRoot (names : NameIo σ) (root : Cid) : Outcome Error String × NameIo σ :=
  publishRuntimeRootCid P.naming P.runtimeIpnsKey root P.lifetimeHours [] names

/-- The tick points the name at the root. -/
def Node.publishName (n : Node σ) (root : Cid) (didOk : Bool) : Node σ :=
  let (o, names) := publishRoot P n.names root
  { n with names, task := { n.task with phase := .confirm root (didOk && Succeeded o) } }

/-- The tick ends. -/
def Node.confirm (n : Node σ) (root : Cid) (published : Bool) (now : Nat) : Node σ :=
  { n with
    task :=
      if published then { lastPublishedCid := some root, lastPublishedAt := now, phase := .idle }
      else { n.task with phase := .idle } }

/-- Shutdown: the final save, and the name. -/
def Node.shutdown (env : Env) (n : Node σ) : Node σ :=
  let world := (MaRuntime.shutdown env [] n.world).2
  match n.world.rt.stats.rootCid with
  | none => { n with world, down := true }
  | some rc =>
    let latest := world.rt.stats.rootCid.getD rc
    { n with world, names := (publishRoot P n.names latest).2, down := true }

/-- What happens next. -/
inductive NodeEvent where
  | work (t : Turn)
  | announce
  | tick
  | document
  | name
  | confirm
  | shutdown

/-- The name of the runtime and that of its DID. -/
def Publishing.Own (id : String) : Prop := id = P.runtimeIpnsId ∨ id = P.ownIpnsId

/-- A sender asks for this name: it is that of the document to be published. -/
def Publishing.Asked (env : Env) (e : NodeEvent) (id : String) : Prop :=
  ∃ message documentBytes document, e = .work (.ipfs message) ∧
    env.validateIpfsRequest message = .ok (.didDocumentPublish documentBytes) ∧
    P.naming.documentId documentBytes = .ok document ∧ P.naming.didIpns document = .ok id

/-- No sender asks for a name of the runtime. -/
def Publishing.OthersAsk (env : Env) (e : NodeEvent) : Prop := ∀ id, P.Asked env e id → ¬ P.Own id

/-- One move. Each of the two publishes is one, at the moment its `name/publish` reaches Kubo; the
calls before it only make sure of a key. The document that is announced at startup is published
by a task of its own. What `publish_document` of `ma_core` does for a sender touches no name but
that of the document. -/
inductive NodeStep (env : Env) : Node σ → NodeEvent → Node σ → Prop where
  | work {n : Node σ} {t : Turn} {w : World} {names : NameIo σ} (hup : n.down = false)
      (h : Step env n.world t w)
      (hnames : Touches P.naming (P.Asked env (.work t)) n.names.kubo names.kubo) :
      NodeStep env n (.work t) { n with world := w, names }
  | announce {n : Node σ} {doc key : Bytes}
      (hown : ∀ document ipns, P.naming.documentId doc = .ok document →
        P.naming.didIpns document = .ok ipns → ipns = P.ownIpnsId) :
      NodeStep env n .announce
        { n with names := (doPublishOwnDocument P.naming doc key P.lifetimeHours [] n.names).2 }
  | tick {n : Node σ} {now : Nat} (hphase : n.task.phase = .idle) :
      NodeStep env n .tick (n.tick P now)
  | document {n : Node σ} {root : Cid} {doc key : Bytes}
      (hphase : n.task.phase = .document root doc key) :
      NodeStep env n .document (n.publishDocument P root doc key)
  | name {n : Node σ} {root : Cid} {didOk : Bool} (hphase : n.task.phase = .name root didOk) :
      NodeStep env n .name (n.publishName P root didOk)
  | confirm {n : Node σ} {root : Cid} {published : Bool} {now : Nat}
      (hphase : n.task.phase = .confirm root published) :
      NodeStep env n .confirm (n.confirm root published now)
  | shutdown {n : Node σ} (hup : n.down = false) : NodeStep env n .shutdown (n.shutdown P env)

/-- Startup: the root of the command line, else what the runtime's name resolves to. -/
def startRoot (cliRoot : Option Cid) : NameM σ (Option Cid) :=
  match cliRoot with
  | some root => pure (some root)
  | none => resolveRuntimeRootCidByIpnsId P.naming P.runtimeIpnsId

end Moves

/-! ## What a move does -/

section Steps

variable {σ : Type} {env : Env} {P : Publishing σ} {n n' : Node σ} {e : NodeEvent}

/-- What the runtime's name holds. -/
def Node.shown (P : Publishing σ) (n : Node σ) : Option String :=
  P.naming.record n.names.kubo P.runtimeIpnsId

/-- A document of the runtime's own DID. -/
def Publishing.OwnDocument (P : Publishing σ) (docCbor : Bytes) : Prop :=
  ∀ document ipns, P.naming.documentId docCbor = .ok document →
    P.naming.didIpns document = .ok ipns → ipns = P.ownIpnsId

/-- What a tick carries was checked when it began. -/
structure PublishPhase.Sound (P : Publishing σ) (phase : PublishPhase) : Prop where
  carried : ∀ root, phase.carried = some root → P.isCid root = true
  document : ∀ root doc key, phase = .document root doc key → P.OwnDocument doc

theorem PublishPhase.sound_idle : PublishPhase.idle.Sound P := ⟨nofun, nofun⟩

theorem publishRoot_spec (names : NameIo σ) (root : Cid) :
    Touches P.naming P.Own names.kubo (publishRoot P names root).2.kubo ∧
      (P.naming.record (publishRoot P names root).2.kubo P.runtimeIpnsId =
          P.naming.record names.kubo P.runtimeIpnsId ∨
        P.naming.record (publishRoot P names root).2.kubo P.runtimeIpnsId =
          some (publishedPath root)) ∧
      (Succeeded (publishRoot P names root).1 = true →
        Shows P.naming P.runtimeIpnsId (publishedPath root)
          (publishRoot P names root).2.kubo) := by
  have hspec : (publishRuntimeRootCid P.naming P.runtimeIpnsKey root P.lifetimeHours).Sat [] names
      _ := publish_spec root P.lifetimeHours P.runtimeIpnsId_eq
  obtain ⟨htouches, hrecord, -, hshows⟩ := hspec
  refine ⟨htouches.mono fun id hid => .inl hid, hrecord, fun hok => ?_⟩
  unfold publishRoot at hok ⊢
  cases ho : (publishRuntimeRootCid P.naming P.runtimeIpnsKey root P.lifetimeHours [] names).1 with
  | ok value => exact hshows value ho
  | err e => rw [ho] at hok; exact absurd hok nofun
  | stuck => rw [ho] at hok; exact absurd hok nofun

theorem publishOwn_spec (names : NameIo σ) {doc : Bytes} (key : Bytes) (hown : P.OwnDocument doc) :
    Touches P.naming P.Own names.kubo
        (doPublishOwnDocument P.naming doc key P.lifetimeHours [] names).2.kubo ∧
      P.naming.record (doPublishOwnDocument P.naming doc key P.lifetimeHours [] names).2.kubo
        P.runtimeIpnsId = P.naming.record names.kubo P.runtimeIpnsId := by
  have hspec : (doPublishOwnDocument P.naming doc key P.lifetimeHours).Sat [] names _ :=
    publishDocument_spec key P.lifetimeHours hown
  exact ⟨hspec.1.mono fun id hid => .inr hid, hspec.1.record _ P.names_differ⟩

/-- What a tick begins with. -/
theorem Node.tick_cases (n : Node σ) (now : Nat) :
    (n.tick P now).world = n.world ∧ (n.tick P now).down = n.down ∧
      (n.tick P now).names.kubo = n.names.kubo ∧
      ((n.tick P now).task = n.task ∨
        ∃ root doc key, n.world.rt.stats.rootCid = some root ∧ P.isCid root = true ∧
          P.OwnDocument doc ∧
          (n.tick P now).task = { n.task with phase := .document root doc key }) := by
  unfold Node.tick
  cases hroot : n.world.rt.stats.rootCid with
  | none => exact ⟨rfl, rfl, rfl, .inl rfl⟩
  | some root =>
    dsimp only
    by_cases hdue : (n.task.due P root now && P.isCid root) = true
    · rw [if_pos hdue]
      cases hdoc : P.ownDocument n.names.calls root with
      | error e => exact ⟨rfl, rfl, rfl, .inl rfl⟩
      | ok made =>
        obtain ⟨doc, key⟩ := made
        refine ⟨rfl, rfl, rfl, .inr ⟨root, doc, key, rfl, ?_, ?_, rfl⟩⟩
        · exact (Bool.and_eq_true_iff.mp hdue).2
        · intro document ipns hdocument hipns
          exact P.ownDocument_id hdoc hdocument hipns
    · rw [if_neg hdue]
      exact ⟨rfl, rfl, rfl, .inl rfl⟩

/-- **What a move does**: to Kubo's names, to the name of the runtime, to the tick on its way and to
the root. -/
structure Moved (P : Publishing σ) (env : Env) (n : Node σ) (e : NodeEvent) (n' : Node σ) :
    Prop where
  touches : Touches P.naming (fun id => P.Own id ∨ P.Asked env e id) n.names.kubo n'.names.kubo
  shown : P.OthersAsk env e → n'.shown P = n.shown P ∨
    ∃ root, n'.shown P = some (publishedPath root) ∧
      (n.task.phase.carried = some root ∨ n'.world.rt.stats.rootCid = some root)
  carried : ∀ root, n'.task.phase.carried = some root →
    n.task.phase.carried = some root ∨ n.world.rt.stats.rootCid = some root
  sound : n.task.phase.Sound P → n'.task.phase.Sound P
  down : n.down = true → n'.down = true ∧ n'.world = n.world

theorem step_moved (h : NodeStep P env n e n') (hsound : n.task.phase.Sound P) :
    Moved P env n e n' := by
  have own {s s' : σ} (h : Touches P.naming P.Own s s') :
      Touches P.naming (fun id => P.Own id ∨ P.Asked env e id) s s' := h.mono fun _ => .inl
  cases h with
  | work hup _ hnames =>
    refine ⟨hnames.mono fun _ => .inr, fun hothers => .inl ?_, fun _ => .inl, id, fun hdown => ?_⟩
    · exact hnames.record _ fun hasked => hothers _ hasked (.inl rfl)
    · rw [hup] at hdown
      exact absurd hdown nofun
  | @announce doc key hown =>
    obtain ⟨htouches, hrecord⟩ := publishOwn_spec n.names key hown
    exact ⟨own htouches, fun _ => .inl hrecord, fun _ => .inl, id, fun hdown => ⟨hdown, rfl⟩⟩
  | @tick now hphase =>
    obtain ⟨hworld, hdown, hkubo, htask⟩ := n.tick_cases (P := P) now
    have hshown : (n.tick P now).shown P = n.shown P := by
      unfold Node.shown
      rw [hkubo]
    refine ⟨hkubo ▸ .refl _ _ _, fun _ => .inl hshown, fun root hcarried => ?_, fun _ => ?_,
      fun hd => ⟨hdown.trans hd, hworld⟩⟩
    · rcases htask with hsame | ⟨root', doc, key, hroot, -, -, hnew⟩
      · rw [hsame] at hcarried
        exact .inl hcarried
      · rw [hnew] at hcarried
        exact .inr (hroot.trans hcarried)
    · rcases htask with hsame | ⟨root', doc, key, -, hcid, hown, hnew⟩
      · rw [hsame]
        exact hsound
      · rw [hnew]
        refine ⟨fun root hroot => Option.some.inj hroot ▸ hcid, fun root doc' key' heq => ?_⟩
        obtain ⟨-, rfl, -⟩ := PublishPhase.document.inj heq
        exact hown
  | @document root doc key hphase =>
    obtain ⟨htouches, hrecord⟩ := publishOwn_spec n.names key
      (hsound.document root doc key hphase)
    refine ⟨own htouches, fun _ => .inl hrecord, fun r hr => .inl ?_,
      fun _ => ⟨fun r hr => ?_, nofun⟩, fun hdown => ⟨hdown, rfl⟩⟩
    · rw [hphase]
      exact hr
    · exact hsound.carried r (by rw [hphase]; exact hr)
  | @name root didOk hphase =>
    obtain ⟨htouches, hrecord, -⟩ := publishRoot_spec (P := P) n.names root
    refine ⟨own htouches,
      fun _ => hrecord.imp_right fun hnew => ⟨root, hnew, .inl (by rw [hphase]; rfl)⟩,
      fun r hr => .inl ?_, fun _ => ⟨fun r hr => ?_, nofun⟩, fun hdown => ⟨hdown, rfl⟩⟩
    · rw [hphase]
      exact hr
    · exact hsound.carried r (by rw [hphase]; exact hr)
  | @confirm root published now hphase =>
    have hidle : (n.confirm root published now).task.phase = .idle := by
      unfold Node.confirm
      cases published <;> rfl
    refine ⟨.refl _ _ _, fun _ => .inl rfl, fun r hr => ?_, fun _ => ?_,
      fun hdown => ⟨hdown, rfl⟩⟩
    · rw [hidle] at hr
      exact absurd hr nofun
    · rw [hidle]
      exact PublishPhase.sound_idle
  | shutdown hup =>
    have hdown (hd : n.down = true) {p : Prop} : p := by
      rw [hup] at hd
      exact absurd hd nofun
    unfold Node.shutdown
    cases hroot : n.world.rt.stats.rootCid with
    | none => exact ⟨.refl _ _ _, fun _ => .inl rfl, fun _ => .inl, id, fun hd => hdown hd⟩
    | some rc =>
      dsimp only
      obtain ⟨htouches, hrecord, -⟩ := publishRoot_spec (P := P) n.names
        ((MaRuntime.shutdown env [] n.world).2.rt.stats.rootCid.getD rc)
      refine ⟨own htouches, fun _ => hrecord.imp_right fun hnew => ⟨_, hnew, .inr ?_⟩,
        fun _ => .inl, id, fun hd => hdown hd⟩
      dsimp only
      rcases @shutdown_root env n.world with ⟨_, newRoot, _, -, -, -, hnew⟩ | ⟨-, hsame⟩
      · rw [hnew]
        rfl
      · rw [show (MaRuntime.shutdown env [] n.world).2.rt.stats.rootCid = _ from hsame, hroot]
        rfl

end Steps

/-! ## A daemon over tables -/

/-- The task's next move. -/
def Node.next {σ : Type} (P : Publishing σ) (n : Node σ) (now : Nat) : Node σ :=
  match n.task.phase with
  | .idle => n.tick P now
  | .document root doc key => n.publishDocument P root doc key
  | .name root didOk => n.publishName P root didOk
  | .confirm root published => n.confirm root published now

/-- What it is called. -/
def PublishPhase.event : PublishPhase → NodeEvent
  | .idle => .tick
  | .document _ _ _ => .document
  | .name _ _ => .name
  | .confirm _ _ => .confirm

theorem Node.next_step {σ : Type} {P : Publishing σ} {env : Env} (n : Node σ) (now : Nat) :
    NodeStep P env n n.task.phase.event (n.next P now) := by
  unfold Node.next
  cases hphase : n.task.phase with
  | idle => exact .tick hphase
  | document root doc key => exact .document hphase
  | name root didOk => exact .name hphase
  | confirm root published => exact .confirm hphase

/-- The key of the runtime, and any other. -/
def tableIdOf (key : Bytes) : String := if key = List.replicate 32 1 then "k51runtime" else "k51own"

/-- CIDs over tables: lower-case letters and digits. -/
def isTableCid (cid : Cid) : Bool :=
  cid ≠ "" && cid.toList.all fun c =>
    (97 ≤ c.toNat && c.toNat ≤ 122) || (48 ≤ c.toNat && c.toNat ≤ 57)

theorem isTableCid_text {cid : Cid} (h : isTableCid cid = true) : IsCidText cid := by
  obtain ⟨hne, hall⟩ := Bool.and_eq_true_iff.mp h
  refine ⟨by simpa using hne, fun c hc => ?_⟩
  have hrange := List.all_eq_true.mp hall c hc
  simp only [Bool.or_eq_true, Bool.and_eq_true, decide_eq_true_eq] at hrange
  constructor
  · rintro rfl
    have hslash : '/'.toNat = 47 := rfl
    omega
  · unfold Text.isWhitespace
    simp only [Bool.or_eq_false_iff, Bool.and_eq_false_iff, decide_eq_false_iff_not,
      List.contains_eq_mem, List.mem_cons, List.not_mem_nil, or_false]
    omega

/-- The task over tables. -/
def tablePublishing (lost : Nat → Bool) : Publishing NameTable where
  naming :=
    { tableNames tableIdOf lost with
      aliasHashStart := "ma-"
      blake3Hex := fun s => s ++ "0123456789abcdef"
      ipnsFromSecret := fun key => .ok (tableIdOf key)
      protobufKey := .ok
      ready := fun n => if lost n then .error ["kubo RPC is not reachable"] else .ok ()
      documentId := fun _ => .ok "did:ma:k51own"
      didIpns := fun did => match Text.stripPrefix did "did:ma:" with
        | some ipns => .ok ipns
        | none => .error ["invalid DID"]
      dagPutCbor := fun n _ => if lost n then .error ["timed out"] else .ok "bafydocument" }
  runtimeIpnsKey := List.replicate 32 1
  runtimeIpnsId := "k51runtime"
  runtimeIpnsId_eq := rfl
  isCid := isTableCid
  isCid_text := isTableCid_text
  ownIpnsId := "k51own"
  names_differ := by decide
  ownDocument _ root := .ok (root.toUTF8.toList, List.replicate 32 2)
  ownDocument_id := by
    intro n root doc key document ipns _ hdocument hipns
    obtain rfl := Except.ok.inj hdocument
    exact (Except.ok.inj hipns).symm
  cacheWarmSecs := 86400
  lifetimeHours := 8760

/-- The daemon with the guests' ACL as its task starts, before the names have keys. -/
def publishStart : Node NameTable where
  world := guestStart guestTables.env
  names := { kubo := {} }
  task := .start 86400 100000

/-- Moves of the task, at the times of the list. -/
def Node.nexts {σ : Type} (P : Publishing σ) (n : Node σ) (times : List Nat) : Node σ :=
  times.foldl (Node.next P) n

/-- What they are called. -/
def Node.events {σ : Type} (P : Publishing σ) : Node σ → List Nat → List NodeEvent
  | _, [] => []
  | n, now :: times => n.task.phase.event :: (n.next P now).events P times

theorem Node.nexts_run {σ : Type} {P : Publishing σ} {env : Env} :
    ∀ (n : Node σ) (times : List Nat), Run (NodeStep P env) n (n.events P times) (n.nexts P times)
  | n, [] => .nil n
  | n, now :: times => .cons (n.next_step now) ((n.next P now).nexts_run times)

/-- The first tick, from its start to its end. -/
def firstTick : List Nat := [100000, 100001, 100002, 100003]

/-! ## Over all interleavings -/

section Runs

variable {σ : Type} {env : Env} {P : Publishing σ} {n0 n n' n1 n2 : Node σ} {e : NodeEvent}
  {es rest : List NodeEvent}

/-- The names that the daemon publishes in a run: its two, and those that senders ask for. -/
def PublishedIn (P : Publishing σ) (env : Env) (es : List NodeEvent) (id : String) : Prop :=
  P.Own id ∨ ∃ e ∈ es, P.Asked env e id

/-- **No other name and no key is touched**, whatever the daemon does: names that it does not
publish hold what they held, every key stays under its alias, and new ones come only under the
aliases of the names it publishes. -/
theorem names_untouched (hstart : n0.task.phase = .idle) (hrun : Run (NodeStep P env) n0 es n) :
    Touches P.naming (PublishedIn P env es) n0.names.kubo n.names.kubo := by
  let I := fun es (n : Node σ) => n.task.phase.Sound P ∧
    Touches P.naming (PublishedIn P env es) n0.names.kubo n.names.kubo
  have hinit : I [] n0 := ⟨hstart ▸ PublishPhase.sound_idle, .refl _ _ _⟩
  have hstep {es : List NodeEvent} {n n' : Node σ} {e : NodeEvent} (h : I es n)
      (hstep : NodeStep P env n e n') : I (es ++ [e]) n' := by
    have hmoved := step_moved hstep h.1
    refine ⟨hmoved.sound h.1,
      (h.2.mono fun id hid => ?_).trans (hmoved.touches.mono fun id hid => ?_)⟩
    · exact hid.imp_right fun ⟨e, he, hasked⟩ => ⟨e, List.mem_append_left _ he, hasked⟩
    · exact hid.imp_right fun hasked => ⟨e, List.mem_append_right _ List.mem_cons_self, hasked⟩
  exact (Run.history hstep hrun hinit).2

set_option maxRecDepth 100000

theorem names_untouched_guests :
    Touches (tablePublishing fun _ => false).naming
      (PublishedIn (tablePublishing fun _ => false) guestTables.env
        (publishStart.events (tablePublishing fun _ => false) firstTick))
      publishStart.names.kubo
      (publishStart.nexts (tablePublishing fun _ => false) firstTick).names.kubo := by
  have hrun : Run (NodeStep (tablePublishing fun _ => false) guestTables.env) publishStart _ _ :=
    publishStart.nexts_run firstTick
  exact names_untouched rfl hrun

/-- The runtime had this root at some point of the run. -/
def HeldRoot (P : Publishing σ) (env : Env) (n0 : Node σ) (es : List NodeEvent) (root : Cid) :
    Prop :=
  Lib.Sometime (fun pre => ∃ n, Run (NodeStep P env) n0 pre n ∧
    n.world.rt.stats.rootCid = some root) es

/-- What the tick on its way and the name show are roots the runtime had. -/
structure Tracks (P : Publishing σ) (env : Env) (n0 : Node σ) (es : List NodeEvent) (n : Node σ) :
    Prop where
  run : Run (NodeStep P env) n0 es n
  sound : n.task.phase.Sound P
  carried : ∀ root, n.task.phase.carried = some root → HeldRoot P env n0 es root
  shown : n.shown P = n0.shown P ∨
    ∃ root, HeldRoot P env n0 es root ∧ n.shown P = some (publishedPath root)

theorem Tracks.step (h : Tracks P env n0 es n) (hstep : NodeStep P env n e n')
    (hothers : P.OthersAsk env e) : Tracks P env n0 (es ++ [e]) n' := by
  have hmoved := step_moved hstep h.sound
  have hrun := h.run.append (.cons hstep (.nil n'))
  refine ⟨hrun, hmoved.sound h.sound, fun root hroot => ?_, ?_⟩
  · rcases hmoved.carried root hroot with hold | hnow
    · exact (h.carried root hold).concat e
    · exact (Lib.Sometime.now ⟨n, h.run, hnow⟩).concat e
  · rcases hmoved.shown hothers with hsame | ⟨root, hshown, hcarried | hnow⟩
    · rw [hsame]
      exact h.shown.imp_right fun ⟨root, hheld, hshown⟩ => ⟨root, hheld.concat e, hshown⟩
    · exact .inr ⟨root, (h.carried root hcarried).concat e, hshown⟩
    · exact .inr ⟨root, .now ⟨n', hrun, hnow⟩, hshown⟩

theorem tracks_run (hstart : n0.task.phase = .idle) (hrun : Run (NodeStep P env) n0 es n)
    (hothers : ∀ e ∈ es, P.OthersAsk env e) : Tracks P env n0 es n := by
  have hinit : Tracks P env n0 [] n0 :=
    ⟨.nil n0, hstart ▸ PublishPhase.sound_idle, by rw [hstart]; exact nofun, .inl rfl⟩
  exact Run.history (I := Tracks P env n0) (fun h hstep => h.step hstep.1 hstep.2)
    (hrun.restrict hothers) hinit

/-- **The name only ever shows roots that the runtime had**: in every interleaving it holds what it
held at the start, or the path of a root of a state on the way. -/
theorem name_history (hstart : n0.task.phase = .idle) (hrun : Run (NodeStep P env) n0 es n)
    (hothers : ∀ e ∈ es, P.OthersAsk env e) :
    n.shown P = n0.shown P ∨
      ∃ root, HeldRoot P env n0 es root ∧ n.shown P = some (publishedPath root) :=
  (tracks_run hstart hrun hothers).shown

/-- The first tick publishes the root. -/
theorem name_history_guests :
    (publishStart.nexts (tablePublishing fun _ => false) firstTick).shown
        (tablePublishing fun _ => false) = some "/ipfs/bafyroot" ∧
      ∃ root, HeldRoot (tablePublishing fun _ => false) guestTables.env publishStart
          (publishStart.events (tablePublishing fun _ => false) firstTick) root ∧
        publishedPath root = "/ipfs/bafyroot" := by
  have hshown : (publishStart.nexts (tablePublishing fun _ => false) firstTick).shown
      (tablePublishing fun _ => false) = some "/ipfs/bafyroot" := by decide +kernel
  have hrun : Run (NodeStep (tablePublishing fun _ => false) guestTables.env) publishStart _ _ :=
    publishStart.nexts_run firstTick
  refine ⟨hshown, ?_⟩
  have hothers : ∀ e ∈ publishStart.events (tablePublishing fun _ => false) firstTick,
      (tablePublishing fun _ => false).OthersAsk guestTables.env e := by
    rintro e - id ⟨message, documentBytes, document, -, hvalid, -⟩
    exact absurd hvalid nofun
  rcases name_history rfl hrun hothers with hsame | ⟨root, hheld, hroot⟩
  · rw [hshown] at hsame
    exact absurd hsame nofun
  · rw [hshown] at hroot
    exact ⟨root, hheld, (Option.some.inj hroot).symm⟩

/-! ## While the daemon is up -/

/-- A step of a daemon that stays up, and whose tick is not cut in half: the name is pointed at the
root of a tick whose document was published, or it stays. No sender asks for the runtime's names. -/
structure WholeStep (P : Publishing σ) (env : Env) (n : Node σ) (e : NodeEvent) (n' : Node σ) :
    Prop where
  step : NodeStep P env n e n'
  up : e ≠ .shutdown
  others : P.OthersAsk env e
  whole : e = .name → (∃ root, n'.task.phase = .confirm root true) ∨ n'.shown P = n.shown P

/-- The name shows what the task takes for published. -/
structure Settled (P : Publishing σ) (n : Node σ) : Prop where
  sound : n.task.phase.Sound P
  confirmed : ∀ root, n.task.phase = .confirm root true →
    Shows P.naming P.runtimeIpnsId (publishedPath root) n.names.kubo
  last : (∀ root, n.task.phase ≠ .confirm root true) → ∀ root,
    n.task.lastPublishedCid = some root →
      Shows P.naming P.runtimeIpnsId (publishedPath root) n.names.kubo

theorem Shows.of_touches {ids : String → Prop} {path : String} {s s' : σ}
    (h : Shows P.naming P.runtimeIpnsId path s) (htouches : Touches P.naming ids s s')
    (hrecord : P.naming.record s' P.runtimeIpnsId = P.naming.record s P.runtimeIpnsId) :
    Shows P.naming P.runtimeIpnsId path s' := by
  obtain ⟨keyName, hkey⟩ := h.key
  exact ⟨⟨keyName, htouches.kept _ hkey⟩, hrecord.trans h.record⟩

theorem Settled.step (h : Settled P n) (hstep : WholeStep P env n e n') : Settled P n' := by
  have hmoved := step_moved hstep.step h.sound
  have hkeep (hrecord : n'.shown P = n.shown P) {path : String}
      (hshows : Shows P.naming P.runtimeIpnsId path n.names.kubo) :
      Shows P.naming P.runtimeIpnsId path n'.names.kubo :=
    hshows.of_touches hmoved.touches hrecord
  have hsound := hmoved.sound h.sound
  obtain ⟨hnode, hup, hothers, hwhole⟩ := hstep
  cases hnode with
  | work _ _ hnames =>
    have hsame := hnames.record P.runtimeIpnsId fun hasked => hothers _ hasked (.inl rfl)
    exact ⟨hsound, fun root hroot => hkeep hsame (h.confirmed root hroot),
      fun hnot root hlast => hkeep hsame (h.last hnot root hlast)⟩
  | @announce doc key hown =>
    have hsame := (publishOwn_spec n.names key hown).2
    exact ⟨hsound, fun root hroot => hkeep hsame (h.confirmed root hroot),
      fun hnot root hlast => hkeep hsame (h.last hnot root hlast)⟩
  | @tick now hphase =>
    obtain ⟨-, -, hkubo, htask⟩ := n.tick_cases (P := P) now
    have hnot : ∀ root, n.task.phase ≠ .confirm root true := by
      intro root heq
      rw [hphase] at heq
      exact absurd heq nofun
    have hlast : (n.tick P now).task.lastPublishedCid = n.task.lastPublishedCid := by
      rcases htask with hsame | ⟨root, doc, key, -, -, -, hnew⟩
      · rw [hsame]
      · rw [hnew]
    refine ⟨hsound, fun root hroot => ?_, fun _ root hroot => ?_⟩
    · rcases htask with hsame | ⟨root', doc, key, -, -, -, hnew⟩
      · rw [hsame] at hroot
        exact absurd hroot (hnot root)
      · rw [hnew] at hroot
        exact absurd hroot nofun
    · rw [hlast] at hroot
      rw [hkubo]
      exact h.last hnot root hroot
  | @document root doc key hphase =>
    have hsame := (publishOwn_spec n.names key
      (h.sound.document root doc key hphase)).2
    refine ⟨hsound, fun root hroot => absurd hroot nofun, fun _ root' hlast => ?_⟩
    refine hkeep hsame (h.last (fun root heq => ?_) root' hlast)
    rw [hphase] at heq
    exact absurd heq nofun
  | @name root didOk hphase =>
    obtain ⟨-, -, hshows⟩ := publishRoot_spec (P := P) n.names root
    have hnot : ∀ root, n.task.phase ≠ .confirm root true := by
      intro root heq
      rw [hphase] at heq
      exact absurd heq nofun
    refine ⟨hsound, fun root' hroot => ?_, fun hfailed root' hlast => ?_⟩
    · obtain ⟨rfl, hboth⟩ := PublishPhase.confirm.inj hroot
      exact hshows (Bool.and_eq_true_iff.mp hboth).2
    · rcases hwhole rfl with ⟨root'', hdone⟩ | hsame
      · exact absurd hdone (hfailed root'')
      · exact hkeep hsame (h.last hnot root' hlast)
  | @confirm root published now hphase =>
    have hidle : (n.confirm root published now).task.phase = .idle := by
      unfold Node.confirm
      cases published <;> rfl
    refine ⟨hsound, fun root' hroot => ?_, fun _ root' hlast => ?_⟩
    · rw [hidle] at hroot
      exact absurd hroot nofun
    · cases published with
      | true =>
        obtain rfl : root = root' := Option.some.inj hlast
        exact h.confirmed root hphase
      | false =>
        refine h.last (fun root heq => ?_) root' hlast
        rw [hphase] at heq
        exact absurd heq nofun
  | shutdown _ => exact absurd rfl hup

/-- **A tick that finds nothing to do leaves the name at the current root**, in every interleaving
in which no tick was cut in half. -/
theorem settled_run {root : Cid} {now : Nat} (hstart : n0.task.phase = .idle)
    (hnew : n0.task.lastPublishedCid = none) (hrun : Run (WholeStep P env) n0 es n)
    (hidle : n.task.phase = .idle) (hroot : n.world.rt.stats.rootCid = some root)
    (hdone : n.task.due P root now = false) :
    n.tick P now = n ∧ Shows P.naming P.runtimeIpnsId (publishedPath root) n.names.kubo := by
  have hinit : Settled P n0 := by
    refine ⟨hstart ▸ PublishPhase.sound_idle, fun root h => ?_, fun _ root h => ?_⟩
    · rw [hstart] at h
      exact absurd h nofun
    · rw [hnew] at h
      exact absurd h nofun
  have hsettled : Settled P n := Run.invariant (fun h hstep => h.step hstep) hinit hrun
  constructor
  · unfold Node.tick
    rw [hroot]
    dsimp only
    rw [hdone, Bool.false_and, if_neg Bool.false_ne_true]
  · refine hsettled.last (fun root heq => ?_) root ?_
    · rw [hidle] at heq
      exact absurd heq nofun
    · unfold PublishTask.due at hdone
      simpa using (Bool.or_eq_false_iff.mp hdone).1

theorem settled_run_guests :
    Shows (tablePublishing fun _ => false).naming "k51runtime" "/ipfs/bafyroot"
      (publishStart.nexts (tablePublishing fun _ => false) firstTick).names.kubo := by
  have hwhole (n : Node NameTable) (phase : PublishPhase) (now : Nat)
      (hphase : n.task.phase = phase) (h : phase.event ≠ .name ∨ ∃ root,
        (n.next (tablePublishing fun _ => false) now).task.phase = .confirm root true) :
      WholeStep (tablePublishing fun _ => false) guestTables.env n phase.event
        (n.next (tablePublishing fun _ => false) now) := by
    subst hphase
    refine ⟨n.next_step now, ?_, ?_, fun hname => .inl (h.resolve_left fun hne => hne hname)⟩
    · cases n.task.phase <;> exact nofun
    · rintro id ⟨message, documentBytes, document, -, hvalid, -⟩
      exact absurd hvalid nofun
  have hrun := Run.cons (hwhole publishStart .idle 100000 rfl (.inl nofun))
    (.cons (hwhole _ (.document "bafyroot" "bafyroot".toUTF8.toList (List.replicate 32 2)) 100001
      (by decide +kernel) (.inl nofun))
    (.cons (hwhole _ (.name "bafyroot" true) 100002 (by decide +kernel)
      (.inr ⟨"bafyroot", by decide +kernel⟩))
    (.cons (hwhole _ (.confirm "bafyroot" true) 100003 (by decide +kernel) (.inl nofun))
    (.nil _))))
  have hroot : (publishStart.nexts (tablePublishing fun _ => false)
      firstTick).world.rt.stats.rootCid = some "bafyroot" := by decide +kernel
  have hdone : (publishStart.nexts (tablePublishing fun _ => false) firstTick).task.due
      (tablePublishing fun _ => false) "bafyroot" 100010 = false := by decide +kernel
  exact (settled_run rfl rfl hrun (by decide +kernel) hroot hdone).2

/-- The owner lets everyone in again. -/
def openGuests : Message := crudMessage "did:ma:alice" ":acls.guests" (.text "bafyopenacl")

/-- The node after a CRUD message. -/
def Node.after {σ : Type} (env : Env) (n : Node σ) (message : Message) : Node σ :=
  { n with world := ((Turn.crud message).run env [] n.world).2 }

/-- **A tick cut in half leaves a stale name**: the root goes to another and back, the tick between
points the name at the other but does not get the document out, and the next tick finds nothing to
do. -/
theorem stale_name :
    ∃ es n, Run (NodeStep (tablePublishing (· == 10)) guestTables.env) publishStart es n ∧
      n.task.phase = .idle ∧ n.world.rt.stats.rootCid = some "bafyroot" ∧
      n.task.due (tablePublishing (· == 10)) "bafyroot" 100020 = false ∧
      n.shown (tablePublishing (· == 10)) = some "/ipfs/bafyrestricted" := by
  let published := publishStart.nexts (tablePublishing (· == 10)) firstTick
  let halved := (published.after guestTables.env closeGuests).nexts (tablePublishing (· == 10))
    [100004, 100005, 100006, 100007]
  have hclose : NodeStep (tablePublishing (· == 10)) guestTables.env published (.work _)
      (published.after guestTables.env closeGuests) :=
    .work (by decide +kernel) (.turn (t := .crud closeGuests) (by decide +kernel)) (.refl _ _ _)
  have hopen : NodeStep (tablePublishing (· == 10)) guestTables.env halved (.work _)
      (halved.after guestTables.env openGuests) :=
    .work (by decide +kernel) (.turn (t := .crud openGuests) (by decide +kernel)) (.refl _ _ _)
  refine ⟨_, _, (publishStart.nexts_run firstTick).append (.cons hclose
    ((Node.nexts_run _ [100004, 100005, 100006, 100007]).append (.cons hopen (.nil _)))), ?_⟩
  exact ⟨by decide +kernel, by decide +kernel, by decide +kernel, by decide +kernel⟩

/-! ## Over a restart -/

/-- The daemon is down, and its name shows the last root, or that of the tick on its way. -/
structure Closing (P : Publishing σ) (root : Cid) (late : Option Cid) (n : Node σ) : Prop where
  down : n.down = true
  atRoot : n.world.rt.stats.rootCid = some root
  sound : n.task.phase.Sound P
  carried : ∀ r, n.task.phase.carried = some r → r = root ∨ late = some r
  shows : ∃ r, (r = root ∨ late = some r) ∧
    Shows P.naming P.runtimeIpnsId (publishedPath r) n.names.kubo

/-- A daemon that is down answers no sender. -/
theorem othersAsk_of_down (hstep : NodeStep P env n e n') (hdown : n.down = true) :
    P.OthersAsk env e := by
  rintro id ⟨message, documentBytes, document, rfl, -⟩
  cases hstep with
  | work hup _ _ =>
    rw [hup] at hdown
    exact absurd hdown nofun

theorem Closing.step {root : Cid} {late : Option Cid} (h : Closing P root late n)
    (hstep : NodeStep P env n e n') : Closing P root late n' := by
  have hmoved := step_moved hstep h.sound
  obtain ⟨hdown, hworld⟩ := hmoved.down h.down
  have hroot : n'.world.rt.stats.rootCid = some root := hworld ▸ h.atRoot
  refine ⟨hdown, hroot, hmoved.sound h.sound, fun r hr => ?_, ?_⟩
  · rcases hmoved.carried r hr with hold | hnow
    · exact h.carried r hold
    · exact .inl (Option.some.inj (hnow.symm.trans h.atRoot))
  · obtain ⟨r, hr, hshows⟩ := h.shows
    rcases hmoved.shown (othersAsk_of_down hstep h.down) with
      hsame | ⟨r', hshown, hcarried | hnow⟩
    · exact ⟨r, hr, hshows.of_touches hmoved.touches hsame⟩
    · obtain ⟨keyName, hkey⟩ := hshows.key
      exact ⟨r', h.carried r' hcarried, ⟨⟨keyName, hmoved.touches.kept _ hkey⟩, hshown⟩⟩
    · obtain ⟨keyName, hkey⟩ := hshows.key
      exact ⟨r', .inl (Option.some.inj (hnow.symm.trans hroot)),
        ⟨⟨keyName, hmoved.touches.kept _ hkey⟩, hshown⟩⟩

/-- **The next start goes on where the daemon stopped.** After a shutdown whose publish went through
and whatever the task still does, a start without a root on the command line never finds nothing: it
fails on a call to Kubo, or it starts from the last root, or from that of a tick which the shutdown
overtook. -/
theorem restart_resumes {root : Cid} {s : NameIo σ} (hstart : n0.task.phase = .idle)
    (hrun : Run (NodeStep P env) n0 es n) (hothers : ∀ e ∈ es, P.OthersAsk env e)
    (hdown : NodeStep P env n .shutdown n1) (hroot : n1.world.rt.stats.rootCid = some root)
    (hcid : IsCidText root)
    (hpublished : Succeeded (publishRoot P n.names root).1 = true)
    (hrest : Run (NodeStep P env) n1 rest n2) (hkubo : s.kubo = n2.names.kubo) :
    (startRoot P none).Sat [] s fun o _ => o ≠ .stuck ∧ ∀ r, o = .ok r →
      ∃ c, r = some c ∧ (c = root ∨ n.task.phase.carried = some c ∧ HeldRoot P env n0 es c) := by
  have htracks := tracks_run hstart hrun hothers
  have hclosing : Closing P root n.task.phase.carried n1 := by
    have hmoved := step_moved hdown htracks.sound
    have hphase : n1.task = n.task ∧ n1.down = true ∧
        n1.names = (publishRoot P n.names root).2 := by
      cases hdown with
      | shutdown hup =>
        unfold Node.shutdown at hroot ⊢
        cases hbefore : n.world.rt.stats.rootCid with
        | none =>
          rw [hbefore] at hroot
          rcases @shutdown_root env n.world with ⟨r, _, _, hr, -⟩ | ⟨-, hsame⟩
          · exact absurd (hbefore.symm.trans hr) nofun
          · have hnone := hroot.symm.trans (hsame.trans hbefore)
            exact absurd hnone nofun
        | some rc =>
          rw [hbefore] at hroot
          dsimp only at hroot ⊢
          rw [hroot]
          exact ⟨rfl, rfl, rfl⟩
    refine ⟨hphase.2.1, hroot, hmoved.sound htracks.sound, fun r hr => ?_, root, .inl rfl, ?_⟩
    · rw [hphase.1] at hr
      exact .inr hr
    · rw [hphase.2.2]
      exact (publishRoot_spec n.names root).2.2 hpublished
  have hend : Closing P root n.task.phase.carried n2 :=
    Run.invariant (fun h hstep => h.step hstep) hclosing hrest
  obtain ⟨c, hc, hshows⟩ := hend.shows
  have htext : IsCidText c := by
    rcases hc with rfl | hlate
    · exact hcid
    · exact P.isCid_text (htracks.sound.carried c hlate)
  refine (resolve_spec htext (hkubo ▸ hshows)).mono fun o s' ho => ⟨ho.2.1, fun r hr => ?_⟩
  refine ⟨c, ho.2.2 r hr, hc.imp_right fun hlate => ⟨hlate, htracks.carried c hlate⟩⟩

/-- The next start finds the root of the daemon that was shut down. -/
theorem restart_resumes_guests :
    (startRoot (tablePublishing fun _ => false) none []
      (publishStart.shutdown (tablePublishing fun _ => false) guestTables.env).names).1 =
        .ok (some "bafyroot") ∧
      ∃ c, some "bafyroot" = some c ∧ (c = "bafyroot" ∨ publishStart.task.phase.carried = some c ∧
        HeldRoot (tablePublishing fun _ => false) guestTables.env publishStart [] c) := by
  have hok : (startRoot (tablePublishing fun _ => false) none []
      (publishStart.shutdown (tablePublishing fun _ => false) guestTables.env).names).1 =
        .ok (some "bafyroot") := by decide +kernel
  have hdown : NodeStep (tablePublishing fun _ => false) guestTables.env publishStart .shutdown _ :=
    .shutdown rfl
  have hroot : (publishStart.shutdown (tablePublishing fun _ => false)
      guestTables.env).world.rt.stats.rootCid = some "bafyroot" := by decide +kernel
  have hresumes := restart_resumes rfl (.nil _) (by simp) hdown hroot
    (isTableCid_text (by decide +kernel)) (by decide +kernel) (.nil _) rfl
  exact ⟨hok, hresumes.2 _ hok⟩

end Runs

end MaRuntime
