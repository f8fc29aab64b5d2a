import MaRuntime.Lib.Forest
import MaRuntime.Lib.Run
import MaRuntime.Rpc
import MaRuntime.FiniteEnv

/-!
# The entity tree

An entity that a plugin asked for has that plugin as its parent, and plugins take away only what
they own and what has no children. The registry, read as a map from names to parents, is a forest,
and what a dispatch asks for are edits of a forest by the dispatched entity.

* `processResult_edits`: the two loops over the requests of a dispatch, as edits.
* **`dispatches_keep_forest`**: the registry stays a forest over every sequence of dispatches, and
  an entity disappears only by its own or its parent's request, and childless.
* `rpcTurn_registrySteps`: an RPC message is a sequence of such steps.
-/

namespace MaRuntime

open Lib (Cbor Edit IsForest Proc Run)
open Relation (ReflTransGen)

/-- The registered entities and their parents. -/
def parentsOf (registry : StrMap EntityPlugin) : Lib.Parents String :=
  fun name => registry[name]?.map (·.parent)

/-- Every entity is registered under its own name. -/
def Keyed (registry : StrMap EntityPlugin) : Prop :=
  ∀ (name : String) (ep : EntityPlugin), registry[name]? = some ep → ep.fragment = name

/-- A dispatch from a registered entity whose result is processed, with new names for what it
creates; or anything else that leaves the registry alone. -/
inductive RegistryStep (env : Env) :
    World → Option (EntityPlugin × DispatchResult) → World → Prop
  | dispatch {w : World} {entity : EntityPlugin} {result : DispatchResult}
      (hentity : w.rt.entityRegistry[entity.fragment]? = some entity)
      (hfresh : ∀ req ∈ result.createRequests, req.fragment ∉ w.rt.entityRegistry) :
      RegistryStep env w (some (entity, result)) (processResult env entity result rpcGuards w).2
  | rest {w w' : World} (hregistry : w'.rt.entityRegistry = w.rt.entityRegistry) :
      RegistryStep env w none w'

/-- `w2` is the state in which the request to delete `name` is looked at. -/
def AtDeletion (env : Env) (entity : EntityPlugin) (result : DispatchResult) (name : String)
    (w w2 : World) : Prop :=
  ∃ done rest, result.deleteRequests = done ++ name :: rest ∧
    processResult env entity { result with deleteRequests := done } rpcGuards w = (.ok (), w2)

/-! ## The registry as a forest -/

section Registry

variable {registry : StrMap EntityPlugin}

theorem parentsOf_eq_none {name : String} : parentsOf registry name = none ↔ name ∉ registry := by
  unfold parentsOf
  rw [Option.map_eq_none_iff, Std.ExtTreeMap.mem_iff_isSome_getElem?, Option.not_isSome_iff_eq_none]

theorem map_getElem?_insert {α β : Type} (t : StrMap α) (f : α → β) (name : String) (a : α) :
    (fun name' : String => (t.insert name a)[name']?.map f) =
      Function.update (fun name' => t[name']?.map f) name (some (f a)) := by
  funext name'
  by_cases hname : name' = name
  · subst hname
    rw [Function.update_self, Std.ExtTreeMap.getElem?_insert_self]
    rfl
  · rw [Function.update_of_ne hname, getElem?_insert_of_ne hname]

theorem map_getElem?_erase {α β : Type} (t : StrMap α) (f : α → β) (name : String) :
    (fun name' : String => (t.erase name)[name']?.map f) =
      Function.update (fun name' => t[name']?.map f) name none := by
  funext name'
  by_cases hname : name' = name
  · subst hname
    rw [Function.update_self, Std.ExtTreeMap.getElem?_erase_self]
    rfl
  · rw [Function.update_of_ne hname, getElem?_erase_of_ne hname]

theorem parentsOf_insert (name : String) (ep : EntityPlugin) :
    parentsOf (registry.insert name ep) =
      Function.update (parentsOf registry) name (some ep.parent) :=
  map_getElem?_insert registry (·.parent) name ep

theorem parentsOf_erase (name : String) :
    parentsOf (registry.erase name) = Function.update (parentsOf registry) name none :=
  map_getElem?_erase registry (·.parent) name

theorem values_eq_map (t : StrMap EntityPlugin) : t.values = t.toList.map Prod.snd := by
  have hfoldr : t.values = t.foldr (fun _ ep acc => ep :: acc) [] := by
    obtain ⟨⟨q⟩⟩ := t
    induction q using Quotient.ind
    rfl
  rw [hfoldr, Std.ExtTreeMap.foldr_eq_foldr_toList, List.map_eq_foldr]

theorem mem_values {ep : EntityPlugin} :
    ep ∈ registry.values ↔ ∃ name : String, registry[name]? = some ep := by
  rw [values_eq_map, List.mem_map]
  constructor
  · rintro ⟨⟨name, ep'⟩, hmem, rfl⟩
    exact ⟨name, Std.ExtTreeMap.mem_toList_iff_getElem?_eq_some.mp hmem⟩
  · rintro ⟨name, hname⟩
    exact ⟨(name, ep), Std.ExtTreeMap.mem_toList_iff_getElem?_eq_some.mpr hname, rfl⟩

/-- **When a deletion is granted.** -/
theorem mayDelete_iff {entity : EntityPlugin} {target : String} :
    mayDelete entity registry target = true ↔ ∃ ep, registry[target]? = some ep ∧
      (ep.parent = some entity.fragment ∨ target = entity.fragment) ∧
        ∀ (child : String) (ep' : EntityPlugin), registry[child]? = some ep' →
          ep'.parent ≠ some target := by
  unfold mayDelete
  cases htarget : registry[target]? with
  | none => simp
  | some ep =>
    have hleaf : registry.values.any (fun ep' => ep'.parent = some target) = false ↔
        ∀ (child : String) (ep' : EntityPlugin), registry[child]? = some ep' →
          ep'.parent ≠ some target := by
      rw [List.any_eq_false]
      constructor
      · intro h child ep' hchild
        simpa using h ep' (mem_values.mpr ⟨child, hchild⟩)
      · intro h ep' hmem
        obtain ⟨child, hchild⟩ := mem_values.mp hmem
        simpa using h child ep' hchild
    simp only [Bool.and_eq_true, Bool.or_eq_true, decide_eq_true_eq, Bool.not_eq_true', hleaf,
      Option.some.injEq, exists_eq_left']

theorem Keyed.insert (h : Keyed registry) {name : String} {ep : EntityPlugin}
    (hfragment : ep.fragment = name) : Keyed (registry.insert name ep) := by
  intro name' ep' hep'
  rw [Std.ExtTreeMap.getElem?_insert] at hep'
  split at hep'
  · rename_i heq
    obtain rfl := Std.LawfulEqCmp.compare_eq_iff_eq.mp heq
    obtain rfl := Option.some.inj hep'
    exact hfragment
  · exact h name' ep' hep'

theorem Keyed.erase (h : Keyed registry) (name : String) : Keyed (registry.erase name) := by
  intro name' ep' hep'
  rw [Std.ExtTreeMap.getElem?_erase] at hep'
  split at hep'
  · exact absurd hep' (by simp)
  · exact h name' ep' hep'

/-- A granted deletion prunes the tree. -/
theorem prune_of_mayDelete {entity : EntityPlugin} {target : String}
    (hmay : mayDelete entity registry target = true) :
    Edit entity.fragment (parentsOf registry) (parentsOf (registry.erase target)) := by
  obtain ⟨ep, htarget, hown, hleaf⟩ := mayDelete_iff.mp hmay
  rw [parentsOf_erase]
  refine .prune (q := ep.parent) ?_ hown fun child hchild => ?_
  · unfold parentsOf
    rw [htarget]
    rfl
  · obtain ⟨ep', hep', hparent⟩ := Option.map_eq_some_iff.mp hchild
    exact hleaf child ep' hep' hparent

/-- What the deletions took away was taken by one of them. -/
theorem deletion_of_removed {entity : EntityPlugin} {name : String} : ∀ (targets : List String)
    {registry : StrMap EntityPlugin}, name ∈ registry →
      name ∉ targets.foldl (afterDelete entity) registry →
      ∃ done rest, targets = done ++ name :: rest ∧
        mayDelete entity (done.foldl (afterDelete entity) registry) name = true
  | [], _, hbefore, hafter => absurd hbefore hafter
  | target :: targets, registry, hbefore, hafter => by
    by_cases hnow : target = name ∧ mayDelete entity registry target = true
    · obtain ⟨rfl, hmay⟩ := hnow
      exact ⟨[], targets, rfl, hmay⟩
    · have hkept : name ∈ afterDelete entity registry target := by
        unfold afterDelete
        split
        · rename_i hmay
          exact mem_erase_iff.mpr ⟨fun heq => hnow ⟨heq.symm, hmay⟩, hbefore⟩
        · exact hbefore
      obtain ⟨done, rest, rfl, hmay⟩ := deletion_of_removed targets hkept hafter
      exact ⟨target :: done, rest, rfl, hmay⟩

end Registry

/-! ## A dispatch as edits -/

section Dispatch

variable {env : Env} {entity : EntityPlugin} {g : Lib.Guards Lock}

/-- **What a creation request does to the registry**: nothing, or a child of the entity is entered
under the requested name. -/
theorem createRequested_enters (req : CreateEntityRequest) (w : World) :
    (createRequested env entity req).Sat g w fun _ w' =>
      w'.rt.entityRegistry = w.rt.entityRegistry ∨
        ∃ ep, ep.fragment = req.fragment ∧ ep.parent = some entity.fragment ∧
          w'.rt.entityRegistry = w.rt.entityRegistry.insert req.fragment ep := by
  have hlook : Proc.Keeps Idle
      (reading .kindRegistry (getRt fun rt => rt.kindRegistry[req.kindProtocol]?)) :=
    Proc.Keeps.holding (Proc.keeps_look _) _ _
  have idle {w1 w2 : World} (h : Idle w1 w2) : w2.rt.entityRegistry = w1.rt.entityRegistry :=
    congrArg Runtime.entityRegistry h
  unfold createRequested
  refine hlook.sat_bind (fun _ _ h => .inl (idle h)) (fun _ h => .inl (idle h)) fun o w1 _ h1 => ?_
  rw [← idle h1]
  cases o with
  | none => exact .inl rfl
  | some kindNode =>
    have hload : Proc.Keeps CellsOnly (load env req.fragment (requestedNode entity req) kindNode) :=
      (@calm_load [] env _ _ _).keeps
    refine hload.attempt.sat_bind (fun _ _ h => .inl h.entityRegistry)
      (fun _ h => .inl h.entityRegistry) fun r w2 hrun h2 => ?_
    rw [← h2.entityRegistry]
    split
    · rename_i ep
      obtain ⟨hfragment, -, -, hparent⟩ := load_ok (Proc.attempt_ok hrun)
      refine writing_bind_or (.inl rfl) ?_
      have hrecord := @keeps_recordNewEntity env req.fragment (requestedNode entity req)
      exact hrecord.sat fun _ w3 h3 => .inr ⟨ep, hfragment, hparent, idle h3⟩
    · exact .inl rfl
    · exact .inl rfl
    · exact .inl rfl

/-- **What every entry of a requested child keeps, the creations of a dispatch keep.** -/
theorem creations_keep {I : StrMap EntityPlugin → Prop} : ∀ (reqs : List CreateEntityRequest)
    (w : World), (∀ req ∈ reqs, ∀ registry ep, I registry → ep.fragment = req.fragment →
      ep.parent = some entity.fragment → I (registry.insert req.fragment ep)) →
    I w.rt.entityRegistry →
    (Proc.each reqs (createRequested env entity)).Sat g w fun _ w' => I w'.rt.entityRegistry
  | [], _, _, h => h
  | req :: reqs, w, hinsert, h => by
    refine Proc.sat_bind ((createRequested_enters req w).mono fun o w1 h1 => ?_)
    have hkept : I w1.rt.entityRegistry := by
      rcases h1 with hsame | ⟨ep, hfragment, hparent, hentered⟩
      · rwa [hsame]
      · rw [hentered]
        exact hinsert req List.mem_cons_self _ ep h hfragment hparent
    cases o with
    | ok u =>
      exact creations_keep reqs w1 (fun req' hmem => hinsert req' (List.mem_cons_of_mem _ hmem))
        hkept
    | err e => exact hkept
    | stuck => exact hkept

/-- What every granted deletion keeps, the deletions of a dispatch keep. -/
theorem deletions_keep {I : StrMap EntityPlugin → Prop} : ∀ (targets : List String)
    {registry : StrMap EntityPlugin}, (∀ target ∈ targets, ∀ registry, I registry →
      mayDelete entity registry target = true → I (registry.erase target)) → I registry →
    I (targets.foldl (afterDelete entity) registry)
  | [], _, _, h => h
  | target :: targets, registry, herase, h => by
    refine deletions_keep targets
      (fun target' hmem => herase target' (List.mem_cons_of_mem _ hmem)) ?_
    unfold afterDelete
    split
    · rename_i hmay
      exact herase target List.mem_cons_self _ h hmay
    · exact h

/-- **The invariant rule of a dispatch**: what its creations keep, and then its deletions. -/
theorem processResult_keeps {I I' : StrMap EntityPlugin → Prop}
    {result : DispatchResult} {w : World}
    (hinsert : ∀ req ∈ result.createRequests, ∀ registry ep, I registry →
      ep.fragment = req.fragment → ep.parent = some entity.fragment →
        I (registry.insert req.fragment ep))
    (hweaken : ∀ registry, I registry → I' registry)
    (herase : ∀ target ∈ result.deleteRequests, ∀ registry, I' registry →
      mayDelete entity registry target = true → I' (registry.erase target))
    (h : I w.rt.entityRegistry) :
    I' (processResult env entity result rpcGuards w).2.rt.entityRegistry := by
  obtain ⟨w1, hpersist, h1⟩ := @persistPending_run env rpcGuards entity result.pendingState w
  rw [← h1.entityRegistry] at h
  have hcreated := @creations_keep env entity rpcGuards I result.createRequests w1 hinsert h
  unfold processResult
  rw [Proc.bind_of_ok hpersist]
  rcases hrun : Proc.each result.createRequests (createRequested env entity) rpcGuards w1 with
    ⟨o, w2⟩
  have h2 := hweaken _ (hcreated.of_run hrun)
  cases o with
  | ok u =>
    rw [Proc.bind_of_ok hrun, deleteRequests_run]
    exact deletions_keep _ herase h2
  | err e => rwa [Proc.bind_of_err hrun]
  | stuck => rwa [Proc.bind_of_stuck hrun]

/-- **What a dispatch asks for are edits of the tree** by the dispatched entity. -/
theorem processResult_edits {result : DispatchResult} {w : World}
    (howner : entity.fragment ∈ w.rt.entityRegistry)
    (hfresh : ∀ req ∈ result.createRequests, req.fragment ∉ w.rt.entityRegistry) :
    ReflTransGen (Edit entity.fragment) (parentsOf w.rt.entityRegistry)
      (parentsOf (processResult env entity result rpcGuards w).2.rt.entityRegistry) := by
  -- While it creates, the entity is there, and the names it asks for are new or its children's.
  let Creating (registry : StrMap EntityPlugin) : Prop :=
    entity.fragment ∈ registry ∧
      (∀ req ∈ result.createRequests, req.fragment ∉ registry ∨
        parentsOf registry req.fragment = some (some entity.fragment)) ∧
      ReflTransGen (Edit entity.fragment) (parentsOf w.rt.entityRegistry) (parentsOf registry)
  refine processResult_keeps (I := Creating) ?_ (fun _ h => h.2.2) ?_
    ⟨howner, fun req hmem => .inl (hfresh req hmem), .refl⟩
  · rintro req hreq registry ep ⟨hthere, hnames, hedits⟩ - hparent
    refine ⟨Std.ExtTreeMap.mem_insert.mpr (.inr hthere), fun req' hreq' => ?_, ?_⟩
    · rw [parentsOf_insert]
      by_cases hname : req'.fragment = req.fragment
      · right
        rw [hname, Function.update_self, hparent]
      · rw [Function.update_of_ne hname]
        refine (hnames req' hreq').imp_left fun hnew hmem => ?_
        rcases mem_insert_iff.mp hmem with heq | hold
        · exact hname heq
        · exact hnew hold
    · rw [parentsOf_insert, hparent]
      rcases hnames req hreq with hnew | hown
      · exact hedits.tail (.grow (fun h => parentsOf_eq_none.mp h hthere)
          (parentsOf_eq_none.mpr hnew))
      · -- The name is a child's already: the tree stays as it is.
        rwa [← hown, Function.update_eq_self]
  · intro target _ registry hedits hmay
    exact hedits.tail (prune_of_mayDelete hmay)

/-- An entity that a dispatch took away was looked at, and the deletion was granted. -/
theorem processResult_removed {result : DispatchResult} {w : World} {name : String}
    (hbefore : name ∈ w.rt.entityRegistry)
    (hafter : name ∉ (processResult env entity result rpcGuards w).2.rt.entityRegistry) :
    ∃ w2, AtDeletion env entity result name w w2 ∧
      mayDelete entity w2.rt.entityRegistry name = true := by
  obtain ⟨w1, hpersist, h1⟩ := @persistPending_run env rpcGuards entity result.pendingState w
  unfold processResult at hafter
  rw [Proc.bind_of_ok hpersist] at hafter
  rcases hrun : Proc.each result.createRequests (createRequested env entity) rpcGuards w1 with
    ⟨o, w2⟩
  have hgrows := Proc.Keeps.each (@keeps_createRequested_grows env entity)
    result.createRequests rpcGuards w1
  rw [hrun] at hgrows
  have hthere : name ∈ w2.rt.entityRegistry := by
    refine hgrows name ?_
    rwa [h1.entityRegistry]
  cases o with
  | ok u =>
    rw [Proc.bind_of_ok hrun, deleteRequests_run] at hafter
    obtain ⟨done, rest, hdeletes, hmay⟩ := deletion_of_removed _ hthere hafter
    have hdone : processResult env entity { result with deleteRequests := done } rpcGuards w =
        Proc.each done (deleteRequested entity) rpcGuards w2 :=
      (Proc.bind_of_ok hpersist).trans (Proc.bind_of_ok hrun)
    exact ⟨_, ⟨done, rest, hdeletes, hdone.trans (deleteRequests_run entity done w2)⟩, hmay⟩
  | err e =>
    rw [Proc.bind_of_err hrun] at hafter
    exact absurd hthere hafter
  | stuck =>
    rw [Proc.bind_of_stuck hrun] at hafter
    exact absurd hthere hafter

/-- A dispatch keeps a forest. -/
theorem RegistryStep.isForest {w w' : World} {e : Option (EntityPlugin × DispatchResult)}
    (hforest : IsForest (parentsOf w.rt.entityRegistry)) (hstep : RegistryStep env w e w') :
    IsForest (parentsOf w'.rt.entityRegistry) := by
  cases hstep with
  | dispatch hentity hfresh =>
    have howner := Std.ExtTreeMap.mem_iff_isSome_getElem?.mpr (by rw [hentity]; rfl)
    exact hforest.edits (processResult_edits howner hfresh)
  | rest hregistry => rwa [hregistry]

/-- **Dispatches keep the registry a forest.** Over any sequence of them, and an entity that the
next one takes away was asked for by itself or its parent, and had no children at that moment. -/
theorem dispatches_keep_forest {w w' : World} {es : List (Option (EntityPlugin × DispatchResult))}
    (hforest : IsForest (parentsOf w.rt.entityRegistry)) (hrun : Run (RegistryStep env) w es w') :
    IsForest (parentsOf w'.rt.entityRegistry) ∧
      ∀ entity result w'', RegistryStep env w' (some (entity, result)) w'' →
        ∀ name ∈ w'.rt.entityRegistry, name ∉ w''.rt.entityRegistry →
          ∃ w2 ep, AtDeletion env entity result name w' w2 ∧
            w2.rt.entityRegistry[name]? = some ep ∧
            (ep.parent = some entity.fragment ∨ name = entity.fragment) ∧
            ∀ (child : String) (ep' : EntityPlugin), w2.rt.entityRegistry[child]? = some ep' →
              ep'.parent ≠ some name := by
  have hkept := Run.invariant (I := fun w => IsForest (parentsOf w.rt.entityRegistry))
    (fun h hs => RegistryStep.isForest h hs) hforest hrun
  refine ⟨hkept, ?_⟩
  intro entity result w'' hstep name hbefore hafter
  cases hstep with
  | dispatch hentity hfresh =>
    obtain ⟨w2, hmoment, hmay⟩ := processResult_removed hbefore hafter
    obtain ⟨ep, hep, hown, hleaf⟩ := mayDelete_iff.mp hmay
    exact ⟨w2, ep, hmoment, hep, hown, hleaf⟩

/-- An entity without a parent. -/
def garden : EntityPlugin :=
  { fragment := "garden", kind := .stateless, acl := "open", parent := none, backend := .native }

/-- Its child. -/
def rose : EntityPlugin := { garden with fragment := "rose", parent := some "garden" }

/-- The daemon with the two. -/
def gardenWorld : World where
  rt :=
    { (started (Tables.env {}) none []).rt with
      entityRegistry :=
        ((∅ : StrMap EntityPlugin).insert "garden" garden).insert "rose" rose }
  io := { calls := 0 }

/-- The parent asks for its own deletion, then for its child's. -/
def clearing : DispatchResult :=
  { output := [], pendingState := none, createRequests := [], deleteRequests := ["garden", "rose"] }

/-- Their tree. -/
def gardenParents : Lib.Parents String :=
  Function.update (Function.update (fun _ => none) "garden" (some none)) "rose"
    (some (some "garden"))

theorem gardenParents_forest : IsForest gardenParents := by
  have childless (a b : String) : ¬ Lib.Parents.ChildOf
      (Function.update (fun _ => none) "garden" (some none)) a b := by
    unfold Lib.Parents.ChildOf
    by_cases ha : a = "garden"
    · rw [ha, Function.update_self]
      simp
    · rw [Function.update_of_ne ha]
      simp
  have hroot : IsForest (Function.update (fun _ => none) "garden" (some none) :
      Lib.Parents String) := by
    refine ⟨fun a b h => absurd h (childless a b), fun a h => ?_⟩
    obtain ⟨b, hab, -⟩ := Relation.TransGen.head'_iff.mp h
    exact childless a b hab
  exact hroot.grow (by simp) (by simp)

theorem gardenWorld_parents : parentsOf gardenWorld.rt.entityRegistry = gardenParents := by
  show parentsOf (((∅ : StrMap EntityPlugin).insert "garden" garden).insert "rose" rose) = _
  rw [parentsOf_insert, parentsOf_insert]
  rfl

theorem gardenWorld_forest : IsForest (parentsOf gardenWorld.rt.entityRegistry) := by
  rw [gardenWorld_parents]
  exact gardenParents_forest

/-- The parent outlives its first request, as it has a child then, and the child is taken away. -/
theorem dispatches_keep_forest_garden :
    IsForest (parentsOf (processResult (Tables.env {}) garden clearing rpcGuards
        gardenWorld).2.rt.entityRegistry) ∧
      ∃ w2, AtDeletion (Tables.env {}) garden clearing "rose" gardenWorld w2 ∧
        ∀ (child : String) (ep' : EntityPlugin), w2.rt.entityRegistry[child]? = some ep' →
          ep'.parent ≠ some "rose" := by
  have hstep : RegistryStep (Tables.env {}) gardenWorld (some (garden, clearing)) _ :=
    .dispatch (by decide +kernel) (by simp [clearing])
  refine ⟨(dispatches_keep_forest gardenWorld_forest (.cons hstep (.nil _))).1, ?_⟩
  obtain ⟨w2, ep, hmoment, -, -, hleaf⟩ := (dispatches_keep_forest gardenWorld_forest (.nil _)).2
    garden clearing _ hstep "rose" (by decide +kernel) (by decide +kernel)
  exact ⟨w2, hmoment, hleaf⟩

/-- A message that gets as far as its queues ends as the result of a dispatch of a registered entity
is processed. -/
theorem RpcResult.processed {message : Message} {w w' : World} {entity : EntityPlugin}
    {result : DispatchResult} (h : RpcResult env message w entity result w') :
    ∃ (fragment : String) (input : CastInput) (w2 w3 : World),
      w.rt.entityRegistry[fragment]? = some entity ∧
      dispatch env entity input rpcGuards w2 = (.ok result, w3) ∧
      w3.rt.entityRegistry = w.rt.entityRegistry ∧
      rpcTurn env message [] w = processResult env entity result rpcGuards w3 := by
  have hrun := h.run
  obtain @⟨w1, _, term, fragment, _, _, hgate, -, -, -, hentity, hdispatched⟩ := h
  obtain @⟨w2, w3, _, _, hauth, hdispatch, hpersist⟩ := hdispatched
  have h1 : w1.rt.entityRegistry = w.rt.entityRegistry :=
    ((calm_rpcGate rfl message _).of_run hgate).2.cellsOnly.entityRegistry
  have h2 := ((calm_authorizeEntity rfl rfl message term entity).of_run hauth).2.entityRegistry
  have h3 := ((calm_dispatch entity _).of_run hdispatch).2.entityRegistry
  have hprocess := Proc.bind_of_ok (f := fun _ => processQueues env entity result) hpersist
  rw [h1] at hentity
  exact ⟨fragment, _, w2, w3, hentity, hdispatch, (h3.trans h2).trans h1, hrun.trans hprocess.symm⟩

/-- **An RPC message is a sequence of such steps**, where the registry is keyed and the names it
generates are new. -/
theorem rpcTurn_registrySteps {message : Message} {w : World} (hkeyed : Keyed w.rt.entityRegistry)
    (hfresh : ∀ entity result w', RpcResult env message w entity result w' →
      ∀ req ∈ result.createRequests, req.fragment ∉ w.rt.entityRegistry) :
    ∃ es, Run (RegistryStep env) w es (rpcTurn env message [] w).2 := by
  rcases rpcTurn_cases env message w with ⟨entity, result, w', hresult⟩ | ⟨-, hcells⟩
  · have hnew := hfresh entity result w' hresult
    obtain ⟨fragment, _, _, w3, hentity, -, h3, hrun⟩ := hresult.processed
    refine ⟨[none, some (entity, result)], .cons (.rest h3) (.cons ?_ (.nil _))⟩
    rw [hrun]
    refine .dispatch ?_ ?_
    · rwa [h3, hkeyed fragment entity hentity]
    · rwa [h3]
  · exact ⟨[none], .cons (.rest hcells.entityRegistry) (.nil _)⟩

end Dispatch

end MaRuntime
