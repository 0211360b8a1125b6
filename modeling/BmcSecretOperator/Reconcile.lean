import BmcSecretOperator.Cache
import BmcSecretOperator.Status

/-!
# A reconcile pass of the credential controller

Source: bmcsecret_controller.go:42-48 (constants), :72-179 (`Reconcile`), :181-336
(`reconcileSingleEngine`), :338-499 (`reconcileMultiEngine`) and :501-618
(`handleDeletion`).

A pass is one call of `Reconcile` for the credential record `name`. It reads and writes
the factory, the registry objects of that record, and the stores; what it does that can
be observed is appended to the log: store writes and deletes, recorded events, and each
successful `Update` of the record's finalizers. The pass runs as one step: the registry
does not change under it, so the record read at its start is the one its `Update` replaces.

Outcomes are `ctrl.Result` with the returned error: `requeueAfter` in seconds, `0` for
none. The deferred metrics and the logger are not modelled.
-/

set_option autoImplicit false

namespace BmcSecretOperator

def bmcSecretFinalizer : String := "bmcsecret.metal.ironcore.dev/backend-cleanup"

def requeueAfterNormal : Nat := 300

def requeueAfterError : Nat := 30

/-- The registry objects a pass for one credential record reads. -/
structure Registry where
  configRecord : Option SecretBackendConfigSpec
  secret : Option BMCSecret
  bmcs : List BMC
  statuses : StatusStore

/-- Everything a pass reads and changes. -/
structure World where
  factory : FactoryState
  registry : Registry
  remote : Remote
  log : List Effect

/-- `ctrl.Result` and the returned error. -/
structure Outcome where
  requeueAfter : Nat
  err : Option String
  deriving DecidableEq, Repr

namespace World

/-- A factory operation, on the configuration record the registry holds. -/
def factoryCall {α : Type} (op : Option SecretBackendConfigSpec → FactoryState → α × FactoryState)
    (w : World) : α × World :=
  ((op w.registry.configRecord w.factory).1,
    { w with factory := (op w.registry.configRecord w.factory).2 })

/-- `r.Recorder.Event`. -/
def event (type reason message : String) (w : World) : World :=
  { w with log := w.log ++ [.event type reason message] }

/-- `r.Update(ctx, bmcSecret)` after a finalizer change. The API server removes a record
that is marked for deletion once its last finalizer is gone. -/
def updateSecret (fault : Option String) (secret : BMCSecret) (w : World) : Option String × World :=
  match fault with
  | some e => (some e, w)
  | none =>
    (none, { w with
      registry := { w.registry with
        secret := if secret.deletionTimestamp && secret.finalizers.isEmpty then none else some secret }
      log := w.log ++ [.updateFinalizers secret.finalizers] })

/-- The loop's accumulators at the start of a sync loop. -/
def syncStart (w : World) : SyncState := ⟨w.remote, w.log, [], 0, 0⟩

@[simp] theorem syncStart_backendPaths (w : World) : w.syncStart.backendPaths = [] := rfl
@[simp] theorem syncStart_syncSuccess (w : World) : w.syncStart.syncSuccess = 0 := rfl
@[simp] theorem syncStart_syncErrors (w : World) : w.syncStart.syncErrors = 0 := rfl

theorem factoryCall_inv {α : Type}
    {op : Option SecretBackendConfigSpec → FactoryState → α × FactoryState} {w w1 : World} {a : α}
    (h : w.factoryCall op = (a, w1)) :
    w1.registry = w.registry ∧ w1.remote = w.remote ∧ w1.log = w.log := by
  rw [show w1 = (w.factoryCall op).2 by rw [h]]
  exact ⟨rfl, rfl, rfl⟩

@[simp] theorem factoryCall_registry {α : Type}
    (op : Option SecretBackendConfigSpec → FactoryState → α × FactoryState) (w : World) :
    (w.factoryCall op).2.registry = w.registry := rfl
@[simp] theorem factoryCall_log {α : Type}
    (op : Option SecretBackendConfigSpec → FactoryState → α × FactoryState) (w : World) :
    (w.factoryCall op).2.log = w.log := rfl
@[simp] theorem event_registry (type reason message : String) (w : World) :
    (w.event type reason message).registry = w.registry := rfl
@[simp] theorem event_log (type reason message : String) (w : World) :
    (w.event type reason message).log = w.log ++ [.event type reason message] := rfl
@[simp] theorem updateSecret_secret (secret : BMCSecret) (w : World) :
    (w.updateSecret none secret).2.registry.secret =
      if secret.deletionTimestamp && secret.finalizers.isEmpty then none else some secret := rfl
@[simp] theorem updateSecret_log (secret : BMCSecret) (w : World) :
    (w.updateSecret none secret).2.log = w.log ++ [.updateFinalizers secret.finalizers] := rfl

end World

section Pass

variable (env : Env) (faults : ClientFaults) (now : Nat) (name : String)

/-- The end of both sync paths: keep the loop's stores and log, persist the status (a
failure is only logged), then record the summary event. -/
def World.recordSync (st : SyncState) (totalPaths : Nat) (summary : String × String × String)
    (w : World) : World :=
  World.event summary.1 summary.2.1 summary.2.2
    { w with
      remote := st.remote
      log := st.log
      registry := { w.registry with
        statuses := (updateSyncStatus faults now name st.backendPaths totalPaths st.syncSuccess
          st.syncErrors w.registry.statuses).2 } }

/-- `reconcileSingleEngine`. -/
def reconcileSingleEngine (bmcs : List BMC) (username password : String) (w : World) :
    Outcome × World :=
  match w.factoryCall (FactoryState.getBackend env) with
  | (.error e, w1) => (⟨requeueAfterError, some e⟩, w1.event "Warning" "BackendUnavailable" e)
  | (.ok backend, w1) =>
    match w1.factoryCall (FactoryState.getPathBuilder env) with
    | (.error e, w2) => (⟨requeueAfterError, some e⟩, w2)
    | (.ok pathBuilder, w2) =>
      match w2.factoryCall (FactoryState.getRegionLabelKey env) with
      | (.error e, w3) => (⟨requeueAfterError, some e⟩, w3)
      | (.ok regionLabelKey, w3) =>
        let st := syncDevices env regionLabelKey username password now ⟨none, backend, pathBuilder⟩
          bmcs w3.syncStart
        (⟨requeueAfterNormal, none⟩, w3.recordSync faults now name st bmcs.length
          (if st.syncErrors > 0 then
            ("Warning", "PartialSync",
              "Synced " ++ toString st.syncSuccess ++ "/" ++ toString bmcs.length ++ " secrets")
          else
            ("Normal", "Synced",
              "Successfully synced to " ++ toString st.syncSuccess ++ " backend paths")))

/-- `reconcileMultiEngine`. -/
def reconcileMultiEngine (secret : BMCSecret) (bmcs : List BMC) (username password : String)
    (w : World) : Outcome × World :=
  match w.factoryCall (FactoryState.getRegionLabelKey env) with
  | (.error e, w1) => (⟨requeueAfterError, some e⟩, w1)
  | (.ok regionLabelKey, w1) =>
    match w1.factoryCall (fun record => FactoryState.getEngineBackends env record secret.labels) with
    | (.error e, w2) => (⟨requeueAfterError, some e⟩, w2.event "Warning" "BackendUnavailable" e)
    | (.ok engineBackends, w2) =>
      if engineBackends.isEmpty then
        (⟨requeueAfterNormal, none⟩, w2.event "Normal" "NoMatchingEngines"
          "No secret engines match this BMCSecret\x27s labels")
      else
        let st := syncEngines env regionLabelKey username password now
          (engineBackends.map EngineBackend.target) bmcs w2.syncStart
        let engines := toString engineBackends.length
        (⟨requeueAfterNormal, none⟩, w2.recordSync faults now name st st.backendPaths.length
          (if st.syncErrors > 0 then
            ("Warning", "PartialSync", "Synced " ++ toString st.syncSuccess ++ "/" ++
              toString st.backendPaths.length ++ " secrets across " ++ engines ++ " engines")
          else
            ("Normal", "Synced", "Successfully synced to " ++ toString st.syncSuccess ++
              " backend paths across " ++ engines ++ " engines")))

/-- `Reconcile` once the finalizer is in place (lines 133-178): discover the devices,
extract the credentials, and choose the routing mode. -/
def syncBMCSecret (secret : BMCSecret) (w : World) : Outcome × World :=
  match findBMCsForSecret (faults .listBMCs) w.registry.bmcs name with
  | .error e => (⟨requeueAfterError, some e⟩, w.event "Warning" "BMCDiscoveryFailed" e)
  | .ok bmcs =>
    if bmcs.isEmpty then
      (⟨requeueAfterNormal, none⟩, w.event "Normal" "NoBMCReference" "No BMCs reference this secret")
    else
      match env.extractCredentials secret with
      | .error e => (⟨requeueAfterError, some e⟩, w.event "Warning" "MissingCredentials" e)
      | .ok (username, password) =>
        match w.factoryCall (FactoryState.hasMultiEngineConfig env) with
        | (.error e, w1) => (⟨requeueAfterError, some e⟩, w1)
        | (.ok true, w1) => reconcileMultiEngine env faults now name secret bmcs username password w1
        | (.ok false, w1) => reconcileSingleEngine env faults now name bmcs username password w1

/-- `controllerutil.RemoveFinalizer` and `r.Update`, the way out of `handleDeletion`. -/
def removeFinalizer (secret : BMCSecret) (w : World) : Outcome × World :=
  match w.updateSecret (faults .removeFinalizer)
      { secret with finalizers := secret.finalizers.filter (· ≠ bmcSecretFinalizer) } with
  | (some e, w1) => (⟨0, some e⟩, w1)
  | (none, w1) => (⟨0, none⟩, w1)

/-- The status object's deletion in `handleDeletion`; every error is ignored. -/
def deleteSyncStatus (statuses : StatusStore) : StatusStore :=
  match faults .getStatus, statuses (syncStatusName name) with
  | none, some _ =>
    match faults .deleteStatus with
    | some _ => statuses
    | none => Function.update statuses (syncStatusName name) none
  | _, _ => statuses

/-- The delete loop of `handleDeletion`: a path that does not render, and a failed delete,
are skipped. -/
def deletePaths (backend : Store) (pathBuilder : PathBuilder) (regionLabelKey username : String) :
    List BMC → World → World
  | [], w => w
  | bmc :: rest, w =>
    match pathBuilder.build env.templates (pathVariables regionLabelKey username bmc) with
    | .error _ => deletePaths backend pathBuilder regionLabelKey username rest w
    | .ok path =>
      deletePaths backend pathBuilder regionLabelKey username rest
        { w with
          remote := (w.remote.deleteSecret env.remoteFault backend path).2
          log := w.log ++ [.delete backend.destination path] }

/-- `handleDeletion`: only the default store and template are consulted. -/
def handleDeletion (secret : BMCSecret) (w : World) : Outcome × World :=
  if bmcSecretFinalizer ∉ secret.finalizers then (⟨0, none⟩, w)
  else
    let w0 := { w with registry := { w.registry with
      statuses := deleteSyncStatus faults name w.registry.statuses } }
    match w0.factoryCall (FactoryState.getBackend env) with
    | (.error _, w1) =>
      removeFinalizer faults secret (w1.event "Warning" "CleanupFailed" "Backend unavailable during cleanup")
    | (.ok backend, w1) =>
      match w1.factoryCall (FactoryState.getPathBuilder env) with
      | (.error _, w2) => removeFinalizer faults secret w2
      | (.ok pathBuilder, w2) =>
        match w2.factoryCall (FactoryState.getRegionLabelKey env) with
        | (.error _, w3) => removeFinalizer faults secret w3
        | (.ok regionLabelKey, w3) =>
          match env.extractCredentials secret with
          | .error _ => removeFinalizer faults secret w3
          | .ok (username, _) =>
            match findBMCsForSecret (faults .listBMCs) w3.registry.bmcs name with
            | .error _ => removeFinalizer faults secret w3
            | .ok bmcs =>
              removeFinalizer faults secret
                (deletePaths env backend pathBuilder regionLabelKey username bmcs w3)

/-- `Reconcile`. -/
def reconcile (w : World) : Outcome × World :=
  match faults .getSecret, w.registry.secret with
  | some e, _ => (⟨0, some e⟩, w)
  | none, none => (⟨0, none⟩, w)
  | none, some secret =>
    match w.factoryCall (FactoryState.getSyncLabel env) with
    | (.error e, w1) => (⟨requeueAfterError, some e⟩, w1)
    | (.ok syncLabel, w1) =>
      if !syncLabelGate syncLabel secret.labels then (⟨0, none⟩, w1)
      else if secret.deletionTimestamp then handleDeletion env faults name secret w1
      else if bmcSecretFinalizer ∈ secret.finalizers then
        syncBMCSecret env faults now name secret w1
      else
        let added := { secret with finalizers := secret.finalizers ++ [bmcSecretFinalizer] }
        match w1.updateSecret (faults .addFinalizer) added with
        | (some e, w2) => (⟨0, some e⟩, w2)
        | (none, w2) => syncBMCSecret env faults now name added w2

end Pass

/-! ## What a pass does to the record and to the log -/

/-- The persisted finalizers after one effect of the log. -/
def Effect.persist : Effect → List String → List String
  | .updateFinalizers finalizers, _ => finalizers
  | _, persisted => persisted

/-- The persisted finalizers after a log, starting from `persisted`. -/
def replayFinalizers (persisted : List String) (log : List Effect) : List String :=
  log.foldl (fun fs e => e.persist fs) persisted

/-- Every write of the log comes when the cleanup finalizer is persisted. -/
def writesGuarded : List String → List Effect → Prop
  | _, [] => True
  | persisted, e :: rest =>
    (e.isWrite = true → bmcSecretFinalizer ∈ persisted) ∧ writesGuarded (e.persist persisted) rest

theorem Effect.persist_of_not_update {e : Effect} (keep : e.isFinalizerUpdate = false)
    (persisted : List String) : e.persist persisted = persisted := by
  cases e <;> first | rfl | cases keep

@[simp] theorem replayFinalizers_nil (persisted : List String) :
    replayFinalizers persisted [] = persisted := rfl

@[simp] theorem replayFinalizers_append (persisted : List String) (xs ys : List Effect) :
    replayFinalizers persisted (xs ++ ys) = replayFinalizers (replayFinalizers persisted xs) ys :=
  List.foldl_append _ _ _ _

@[simp] theorem replayFinalizers_update (persisted finalizers : List String) :
    replayFinalizers persisted [.updateFinalizers finalizers] = finalizers := rfl

theorem replayFinalizers_of_not_update (persisted : List String) (xs : List Effect)
    (keep : ∀ e ∈ xs, e.isFinalizerUpdate = false) : replayFinalizers persisted xs = persisted := by
  induction xs generalizing persisted with
  | nil => rfl
  | cons e rest ih =>
    simp only [replayFinalizers, List.foldl_cons] at ih ⊢
    rw [Effect.persist_of_not_update (keep e (List.mem_cons_self _ _))]
    exact ih _ fun e' member => keep e' (List.mem_cons_of_mem _ member)

theorem writesGuarded_cons (persisted : List String) (e : Effect) (rest : List Effect) :
    writesGuarded persisted (e :: rest) ↔
      (e.isWrite = true → bmcSecretFinalizer ∈ persisted) ∧ writesGuarded (e.persist persisted) rest :=
  Iff.rfl

theorem writesGuarded_append (persisted : List String) (xs ys : List Effect) :
    writesGuarded persisted (xs ++ ys) ↔
      writesGuarded persisted xs ∧ writesGuarded (replayFinalizers persisted xs) ys := by
  induction xs generalizing persisted with
  | nil => simp [writesGuarded]
  | cons e rest ih =>
    change (_ ∧ writesGuarded _ (rest ++ ys)) ↔
      (_ ∧ writesGuarded _ rest) ∧ writesGuarded (replayFinalizers (e.persist persisted) rest) ys
    rw [ih, and_assoc]

/-- A log without writes is guarded. -/
theorem writesGuarded_of_no_write (persisted : List String) (xs : List Effect)
    (silent : ∀ e ∈ xs, e.isWrite = false) : writesGuarded persisted xs := by
  induction xs generalizing persisted with
  | nil => trivial
  | cons e rest ih =>
    refine ⟨fun writes => ?_, ih _ fun e' member => silent e' (List.mem_cons_of_mem _ member)⟩
    rw [silent e (List.mem_cons_self _ _)] at writes
    cases writes

/-- A log that updates no finalizer is guarded once the finalizer is persisted. -/
theorem writesGuarded_of_persisted (persisted : List String) (xs : List Effect)
    (present : bmcSecretFinalizer ∈ persisted) (keep : ∀ e ∈ xs, e.isFinalizerUpdate = false) :
    writesGuarded persisted xs := by
  induction xs with
  | nil => trivial
  | cons e rest ih =>
    refine ⟨fun _ => present, ?_⟩
    rw [Effect.persist_of_not_update (keep e (List.mem_cons_self _ _))]
    exact ih fun e' member => keep e' (List.mem_cons_of_mem _ member)

/-- The guard, position by position. -/
theorem writesGuarded_iff (persisted : List String) (log : List Effect) :
    writesGuarded persisted log ↔ ∀ pre e post, log = pre ++ e :: post → e.isWrite = true →
      bmcSecretFinalizer ∈ replayFinalizers persisted pre := by
  induction log generalizing persisted with
  | nil => simp [writesGuarded]
  | cons x rest ih =>
    simp only [writesGuarded, ih]
    constructor
    · rintro ⟨first, later⟩ pre e post split writes
      cases pre with
      | nil => cases split; exact first writes
      | cons y pre => cases split; exact later pre e post rfl writes
    · intro guarded
      exact ⟨fun writes => guarded [] x rest rfl writes,
        fun pre e post split writes => guarded (x :: pre) e post (by rw [split]; rfl) writes⟩

/-- A part of a pass that leaves the record as it is and appends to the log only effects
that `allowed` admits. -/
structure Appends (allowed : Effect → Bool) (w w' : World) : Prop where
  secret : w'.registry.secret = w.registry.secret
  log : ∃ fresh, w'.log = w.log ++ fresh ∧ ∀ e ∈ fresh, allowed e = true

namespace Appends

variable {allowed : Effect → Bool}

theorem refl (w : World) : Appends allowed w w := ⟨rfl, [], (List.append_nil _).symm, by simp⟩

theorem trans {w1 w2 w3 : World} (first : Appends allowed w1 w2) (second : Appends allowed w2 w3) :
    Appends allowed w1 w3 := by
  obtain ⟨secret1, fresh1, log1, ok1⟩ := first
  obtain ⟨secret2, fresh2, log2, ok2⟩ := second
  refine ⟨secret2.trans secret1, fresh1 ++ fresh2, by rw [log2, log1, List.append_assoc], ?_⟩
  intro e member
  rcases List.mem_append.mp member with early | late
  exacts [ok1 e early, ok2 e late]

theorem factoryCall {α : Type} (op : Option SecretBackendConfigSpec → FactoryState → α × FactoryState)
    (w : World) : Appends allowed w (w.factoryCall op).2 :=
  ⟨rfl, [], (List.append_nil _).symm, by simp⟩

theorem event {type reason message : String} (ok : allowed (.event type reason message) = true)
    (w : World) : Appends allowed w (w.event type reason message) :=
  ⟨rfl, _, rfl, by simpa using ok⟩

end Appends

/-- Effects that neither write nor update a finalizer. -/
def Effect.isSilent (e : Effect) : Bool := !e.isWrite && !e.isFinalizerUpdate

theorem silent_effects {fresh : List Effect} (silent : ∀ e ∈ fresh, e.isSilent = true) :
    (∀ e ∈ fresh, e.isWrite = false) ∧ ∀ e ∈ fresh, e.isFinalizerUpdate = false := by
  simp only [Effect.isSilent, Bool.and_eq_true, Bool.not_eq_true'] at silent
  exact ⟨fun e member => (silent e member).1, fun e member => (silent e member).2⟩

theorem Appends.of_factoryCall {allowed : Effect → Bool} {α : Type}
    {op : Option SecretBackendConfigSpec → FactoryState → α × FactoryState} {w w1 : World} {a : α}
    (h : w.factoryCall op = (a, w1)) : Appends allowed w w1 := by
  rw [show w1 = (w.factoryCall op).2 by rw [h]]
  exact Appends.factoryCall op w

section Segments

variable (env : Env) (faults : ClientFaults) (now : Nat) (name : String)

/-- The end of a sync path appends the loop's log and one event. -/
theorem Appends.recordSync {allowed : Effect → Bool} {w : World} {st : SyncState} {totalPaths : Nat}
    {summary : String × String × String}
    (loop : ∃ fresh, st.log = w.log ++ fresh ∧ ∀ e ∈ fresh, allowed e = true)
    (ok : allowed (.event summary.1 summary.2.1 summary.2.2) = true) :
    Appends allowed w (w.recordSync faults now name st totalPaths summary) := by
  obtain ⟨fresh, log, fine⟩ := loop
  refine ⟨rfl, fresh ++ [.event summary.1 summary.2.1 summary.2.2], ?_, ?_⟩
  · simp [World.recordSync, log]
  · intro e member
    rcases List.mem_append.mp member with early | last
    exacts [fine e early, List.mem_singleton.mp last ▸ ok]

/-- A sync loop over any pairs updates no finalizer. -/
theorem syncLoop_keeps (regionLabelKey username password : String) (ps : List (Target × BMC))
    (w : World) :
    ∃ fresh, (syncPairs env regionLabelKey username password now ps w.syncStart).log = w.log ++ fresh ∧
      ∀ e ∈ fresh, (!e.isFinalizerUpdate) = true := by
  obtain ⟨fresh, log, -, keep⟩ := syncPairs_log_shape env regionLabelKey username password now ps
    w.syncStart
  exact ⟨fresh, log, fun e member => by simp [keep e member]⟩

theorem reconcileSingleEngine_keeps (bmcs : List BMC) (username password : String) (w : World) :
    Appends (fun e => !e.isFinalizerUpdate) w
      (reconcileSingleEngine env faults now name bmcs username password w).2 := by
  unfold reconcileSingleEngine
  split
  next h1 => exact (Appends.of_factoryCall h1).trans (Appends.event rfl _)
  next h1 =>
    split
    next h2 => exact (Appends.of_factoryCall h1).trans (Appends.of_factoryCall h2)
    next h2 =>
      split
      next h3 =>
        exact ((Appends.of_factoryCall h1).trans (Appends.of_factoryCall h2)).trans
          (Appends.of_factoryCall h3)
      next h3 =>
        refine (((Appends.of_factoryCall h1).trans (Appends.of_factoryCall h2)).trans
          (Appends.of_factoryCall h3)).trans (Appends.recordSync faults now name ?_ rfl)
        rw [syncDevices_eq]
        exact syncLoop_keeps env now _ _ _ _ _

theorem reconcileMultiEngine_keeps (secret : BMCSecret) (bmcs : List BMC) (username password : String)
    (w : World) :
    Appends (fun e => !e.isFinalizerUpdate) w
      (reconcileMultiEngine env faults now name secret bmcs username password w).2 := by
  unfold reconcileMultiEngine
  split
  next h1 => exact Appends.of_factoryCall h1
  next h1 =>
    split
    next h2 =>
      exact ((Appends.of_factoryCall h1).trans (Appends.of_factoryCall h2)).trans
        (Appends.event rfl _)
    next h2 =>
      dsimp only
      split
      · exact ((Appends.of_factoryCall h1).trans (Appends.of_factoryCall h2)).trans
          (Appends.event rfl _)
      · refine ((Appends.of_factoryCall h1).trans (Appends.of_factoryCall h2)).trans
          (Appends.recordSync faults now name ?_ rfl)
        rw [syncEngines_eq]
        exact syncLoop_keeps env now _ _ _ _ _

/-- Discovery and both sync paths leave the record alone and update no finalizer. -/
theorem syncBMCSecret_keeps (secret : BMCSecret) (w : World) :
    Appends (fun e => !e.isFinalizerUpdate) w (syncBMCSecret env faults now name secret w).2 := by
  unfold syncBMCSecret
  split
  · exact Appends.event rfl _
  · split
    · exact Appends.event rfl _
    · split
      · exact Appends.event rfl _
      · split
        next h1 => exact Appends.of_factoryCall h1
        next h1 =>
          exact (Appends.of_factoryCall h1).trans (reconcileMultiEngine_keeps env faults now name _ _ _ _ _)
        next h1 =>
          exact (Appends.of_factoryCall h1).trans (reconcileSingleEngine_keeps env faults now name _ _ _ _)

/-- The delete loop only deletes. -/
theorem deletePaths_silent (backend : Store) (pathBuilder : PathBuilder)
    (regionLabelKey username : String) (bmcs : List BMC) (w : World) :
    Appends Effect.isSilent w (deletePaths env backend pathBuilder regionLabelKey username bmcs w) := by
  induction bmcs generalizing w with
  | nil => exact Appends.refl w
  | cons bmc rest ih =>
    unfold deletePaths
    split
    · exact ih w
    next path _ =>
      refine Appends.trans ?_ (ih _)
      exact ⟨rfl, [.delete backend.destination path], rfl, by simp [Effect.isSilent, Effect.isWrite,
        Effect.isFinalizerUpdate]⟩

/-- `handleDeletion` with the finalizer present: a part that neither writes nor touches the
record, then `removeFinalizer` of the record it read. -/
theorem handleDeletion_eq (secret : BMCSecret) (w : World)
    (present : bmcSecretFinalizer ∈ secret.finalizers) :
    ∃ w3, Appends Effect.isSilent w w3 ∧
      handleDeletion env faults name secret w = removeFinalizer faults secret w3 := by
  have cleanup : Appends Effect.isSilent w
      { w with registry := { w.registry with statuses := deleteSyncStatus faults name w.registry.statuses } } :=
    ⟨rfl, [], (List.append_nil _).symm, by simp⟩
  unfold handleDeletion
  rw [if_neg (not_not.mpr present)]
  dsimp only
  split
  next h1 => exact ⟨_, cleanup.trans ((Appends.of_factoryCall h1).trans (Appends.event rfl _)), rfl⟩
  next h1 =>
    have first := cleanup.trans (Appends.of_factoryCall h1)
    split
    next h2 => exact ⟨_, first.trans (Appends.of_factoryCall h2), rfl⟩
    next h2 =>
      have second := first.trans (Appends.of_factoryCall h2)
      split
      next h3 => exact ⟨_, second.trans (Appends.of_factoryCall h3), rfl⟩
      next h3 =>
        have third := second.trans (Appends.of_factoryCall h3)
        split
        · exact ⟨_, third, rfl⟩
        · split
          · exact ⟨_, third, rfl⟩
          · exact ⟨_, third.trans (deletePaths_silent env _ _ _ _ _ _), rfl⟩

end Segments

/-! ## The finalizer along a pass -/

/-- What a pass from a record whose persisted finalizers are `persisted` does: it appends to
the log, every write of what it appends comes when the cleanup finalizer is persisted, and
the record it leaves, if any, has the finalizers the appended updates say. -/
def PassSound (persisted : List String) (w w' : World) : Prop :=
  ∃ fresh, w'.log = w.log ++ fresh ∧ writesGuarded persisted fresh ∧
    ∀ s, w'.registry.secret = some s → s.finalizers = replayFinalizers persisted fresh

section Sound

variable {env : Env} {faults : ClientFaults} {now : Nat} {name : String} {w w' : World}
  {secret : BMCSecret}

theorem PassSound.of_silent (stored : w.registry.secret = some secret)
    (seg : Appends Effect.isSilent w w') : PassSound secret.finalizers w w' := by
  obtain ⟨same, fresh, log, silent⟩ := seg
  obtain ⟨noWrite, noUpdate⟩ := silent_effects silent
  refine ⟨fresh, log, writesGuarded_of_no_write _ _ noWrite, fun s found => ?_⟩
  rw [same, stored] at found
  cases found
  exact (replayFinalizers_of_not_update _ _ noUpdate).symm

theorem PassSound.of_persisted (stored : w.registry.secret = some secret)
    (present : bmcSecretFinalizer ∈ secret.finalizers)
    (seg : Appends (fun e => !e.isFinalizerUpdate) w w') : PassSound secret.finalizers w w' := by
  obtain ⟨same, fresh, log, keep⟩ := seg
  have noUpdate : ∀ e ∈ fresh, e.isFinalizerUpdate = false := fun e member => by
    simpa using keep e member
  refine ⟨fresh, log, writesGuarded_of_persisted _ _ present noUpdate, fun s found => ?_⟩
  rw [same, stored] at found
  cases found
  exact (replayFinalizers_of_not_update _ _ noUpdate).symm

/-- A silent part, then a sound one, is sound. -/
theorem PassSound.silent_then {w1 : World} (first : Appends Effect.isSilent w w1)
    (second : PassSound secret.finalizers w1 w') : PassSound secret.finalizers w w' := by
  obtain ⟨-, fresh1, log1, silent⟩ := first
  obtain ⟨fresh2, log2, guarded, records⟩ := second
  obtain ⟨noWrite, noUpdate⟩ := silent_effects silent
  have replay := replayFinalizers_of_not_update secret.finalizers fresh1 noUpdate
  refine ⟨fresh1 ++ fresh2, by rw [log2, log1, List.append_assoc], ?_, fun s found => ?_⟩
  · rw [writesGuarded_append, replay]
    exact ⟨writesGuarded_of_no_write _ _ noWrite, guarded⟩
  · rw [replayFinalizers_append, replay]
    exact records s found

/-- A successful `Update` of the record to `updated`, then a part sound from the finalizers
it persisted, is sound. -/
theorem PassSound.update_then {persisted : List String} {updated : BMCSecret} {w1 : World}
    (second : PassSound updated.finalizers (w1.updateSecret none updated).2 w') :
    PassSound persisted w1 w' := by
  obtain ⟨fresh, log, guarded, records⟩ := second
  exact ⟨.updateFinalizers updated.finalizers :: fresh, by simp [log],
    (writesGuarded_cons _ _ _).mpr ⟨fun writes => (by cases writes), guarded⟩, records⟩

/-- A successful `Update` of the record is sound. -/
theorem PassSound.updateSecret {persisted : List String} (updated : BMCSecret) (w1 : World) :
    PassSound persisted w1 (w1.updateSecret none updated).2 := by
  have persisted : PassSound updated.finalizers (w1.updateSecret none updated).2
      (w1.updateSecret none updated).2 := ⟨[], by simp, trivial, fun s found => by
    simp only [World.updateSecret_secret] at found
    split at found <;> cases found
    rfl⟩
  exact persisted.update_then

/-- `removeFinalizer` of the stored record is sound. -/
theorem removeFinalizer_sound (stored : w.registry.secret = some secret) :
    PassSound secret.finalizers w (removeFinalizer faults secret w).2 := by
  unfold removeFinalizer
  cases faults .removeFinalizer with
  | some e => exact PassSound.of_silent stored (Appends.refl w)
  | none => exact PassSound.updateSecret _ w

/-- `handleDeletion` of the stored record is sound. -/
theorem handleDeletion_sound (stored : w.registry.secret = some secret) :
    PassSound secret.finalizers w (handleDeletion env faults name secret w).2 := by
  by_cases present : bmcSecretFinalizer ∈ secret.finalizers
  · obtain ⟨w3, seg, eq⟩ := handleDeletion_eq env faults name secret w present
    rw [eq]
    exact PassSound.silent_then seg (removeFinalizer_sound (seg.secret.trans stored))
  · rw [handleDeletion, if_pos present]
    exact PassSound.of_silent stored (Appends.refl w)

/-- A pass on a stored record is sound: the cleanup finalizer is persisted before any
write it issues, and the record keeps the finalizers its logged updates say. -/
theorem reconcile_sound (stored : w.registry.secret = some secret) :
    PassSound secret.finalizers w (reconcile env faults now name w).2 := by
  unfold reconcile
  rw [stored]
  cases faults .getSecret with
  | some e => exact PassSound.of_silent stored (Appends.refl w)
  | none =>
    dsimp only
    split
    next h1 => exact PassSound.of_silent stored (Appends.of_factoryCall h1)
    next h1 =>
      have stored1 := (congrArg Registry.secret (World.factoryCall_inv h1).1).trans stored
      have first : Appends Effect.isSilent w _ := Appends.of_factoryCall h1
      split
      · exact PassSound.of_silent stored first
      · split
        · exact PassSound.silent_then first (handleDeletion_sound stored1)
        · split
          next present =>
            exact PassSound.of_persisted stored present
              ((Appends.of_factoryCall h1).trans (syncBMCSecret_keeps env faults now name _ _))
          next absent =>
            cases faults .addFinalizer with
            | some e => exact PassSound.of_silent stored first
            | none =>
              refine PassSound.silent_then first (PassSound.update_then (PassSound.of_persisted ?_
                (List.mem_append_right _ (List.mem_singleton_self _))
                (syncBMCSecret_keeps env faults now name _ _)))
              simp [stored1]

end Sound

/-! ## Deletion -/

section Deletion

variable (env : Env) (faults : ClientFaults) (now : Nat) (name : String)

/-- `removeFinalizer` whose `Update` succeeds: every copy of the finalizer is gone, and a
record marked for deletion with no finalizer left is removed. -/
theorem removeFinalizer_ok (updated : faults .removeFinalizer = none) (secret : BMCSecret)
    (w : World) :
    removeFinalizer faults secret w =
      (⟨0, none⟩, { w with
        registry := { w.registry with
          secret := if secret.deletionTimestamp &&
              (secret.finalizers.filter (· ≠ bmcSecretFinalizer)).isEmpty then none
            else some { secret with finalizers := secret.finalizers.filter (· ≠ bmcSecretFinalizer) } }
        log := w.log ++ [.updateFinalizers (secret.finalizers.filter (· ≠ bmcSecretFinalizer))] }) := by
  unfold removeFinalizer World.updateSecret
  rw [updated]

/-- `removeFinalizer` writes nothing. -/
theorem removeFinalizer_no_write (secret : BMCSecret) (w : World) :
    ∃ fresh, (removeFinalizer faults secret w).2.log = w.log ++ fresh ∧
      ∀ e ∈ fresh, e.isWrite = false := by
  unfold removeFinalizer World.updateSecret
  cases faults .removeFinalizer with
  | some e => exact ⟨[], (List.append_nil _).symm, by simp⟩
  | none => exact ⟨_, rfl, by simp [Effect.isWrite]⟩

/-- A pass that finds the deletion marker writes nothing. -/
theorem reconcile_marked_no_write (w : World) (secret : BMCSecret)
    (stored : w.registry.secret = some secret) (marked : secret.deletionTimestamp = true) :
    ∃ fresh, (reconcile env faults now name w).2.log = w.log ++ fresh ∧
      ∀ e ∈ fresh, e.isWrite = false := by
  have unchanged : ∀ w1 : World, w1.log = w.log →
      ∃ fresh, w1.log = w.log ++ fresh ∧ ∀ e ∈ fresh, e.isWrite = false :=
    fun w1 same => ⟨[], by rw [same, List.append_nil], by simp⟩
  unfold reconcile
  rw [stored]
  cases faults .getSecret with
  | some e => exact unchanged w rfl
  | none =>
    dsimp only
    split
    next h1 => exact unchanged _ (World.factoryCall_inv h1).2.2
    next h1 =>
      simp only [marked, if_true]
      split
      · exact unchanged _ (World.factoryCall_inv h1).2.2
      · by_cases present : bmcSecretFinalizer ∈ secret.finalizers
        · obtain ⟨w3, ⟨-, fresh1, log1, silent⟩, eq⟩ := handleDeletion_eq env faults name secret _ present
          obtain ⟨fresh2, log2, none2⟩ := removeFinalizer_no_write faults secret w3
          refine ⟨fresh1 ++ fresh2, by rw [eq, log2, log1, (World.factoryCall_inv h1).2.2,
            List.append_assoc], fun e member => ?_⟩
          rcases List.mem_append.mp member with early | late
          exacts [(silent_effects silent).1 e early, none2 e late]
        · unfold handleDeletion
          rw [if_pos present]
          exact unchanged _ (World.factoryCall_inv h1).2.2

/-- A pass on a record marked for deletion and holding the cleanup finalizer. When
`GetSyncLabel` succeeds and the global sync-label gate admits the record, the pass removes
the finalizer once its last `Update` succeeds, whatever the configuration and the outcome
of backend and template acquisition, region-key lookup, credential extraction, device
discovery and each delete; it writes nothing and returns no error. When the gate refuses
the record, or `GetSyncLabel` fails, the pass leaves the registry, the record's finalizers
included, and the log as they were. -/
theorem deletion_pass_removes_finalizer (w : World) (secret : BMCSecret)
    (stored : w.registry.secret = some secret) (marked : secret.deletionTimestamp = true)
    (present : bmcSecretFinalizer ∈ secret.finalizers) (fetched : faults .getSecret = none) :
    (∀ syncLabel,
      (FactoryState.getSyncLabel env w.registry.configRecord w.factory).1 = .ok syncLabel →
      syncLabelGate syncLabel secret.labels = true → faults .removeFinalizer = none →
      (∀ s, (reconcile env faults now name w).2.registry.secret = some s →
        bmcSecretFinalizer ∉ s.finalizers) ∧
      (∀ e ∈ (reconcile env faults now name w).2.log.drop w.log.length, e.isWrite = false) ∧
      (reconcile env faults now name w).1 = ⟨0, none⟩) ∧
    (∀ syncLabel,
      (FactoryState.getSyncLabel env w.registry.configRecord w.factory).1 = .ok syncLabel →
      syncLabelGate syncLabel secret.labels = false →
      (reconcile env faults now name w).2.registry = w.registry ∧
        (reconcile env faults now name w).2.log = w.log) ∧
    (∀ e, (FactoryState.getSyncLabel env w.registry.configRecord w.factory).1 = .error e →
      (reconcile env faults now name w).2.registry = w.registry ∧
        (reconcile env faults now name w).2.log = w.log) := by
  have call : ∀ r, (FactoryState.getSyncLabel env w.registry.configRecord w.factory).1 = r →
      w.factoryCall (FactoryState.getSyncLabel env) =
        (r, (w.factoryCall (FactoryState.getSyncLabel env)).2) := fun _ read => Prod.ext read rfl
  refine ⟨fun syncLabel labelRead admitted updated => ?_, fun syncLabel labelRead refused => ?_,
    fun e failed => ?_⟩
  · obtain ⟨w3, -, eq⟩ := handleDeletion_eq env faults name secret
      (w.factoryCall (FactoryState.getSyncLabel env)).2 present
    have pass : reconcile env faults now name w = removeFinalizer faults secret w3 := by
      unfold reconcile
      rw [fetched, stored]
      dsimp only
      rw [call _ labelRead]
      dsimp only
      rw [if_neg (by simp [admitted]), if_pos marked, eq]
    obtain ⟨fresh, log, silent⟩ := reconcile_marked_no_write env faults now name w secret stored marked
    refine ⟨fun s found => ?_, by rw [log, List.drop_left]; exact silent, by
      rw [pass, removeFinalizer_ok faults updated]⟩
    rw [pass, removeFinalizer_ok faults updated] at found
    dsimp only at found
    split at found
    · cases found
    · cases found
      simp
  · unfold reconcile
    rw [fetched, stored]
    dsimp only
    rw [call _ labelRead]
    dsimp only
    rw [if_pos (by simp [refused])]
    exact ⟨rfl, rfl⟩
  · unfold reconcile
    rw [fetched, stored]
    dsimp only
    rw [call _ failed]
    exact ⟨rfl, rfl⟩

/-- Every registry call of a pass succeeds. -/
def noFaults : ClientFaults := fun _ => none

/-- The reliable environment, where credential extraction yields `admin` and `pw`. -/
def Env.withCredentials : Env :=
  { Env.reliable with extractCredentials := fun _ => .ok ("admin", "pw") }

/-- A fresh factory and empty stores, with a configuration record and the credential record
`creds`, referenced by `deviceOne`. -/
def World.initial (record : Option SecretBackendConfigSpec) (secret : BMCSecret) : World :=
  ⟨⟨.empty, .empty⟩, ⟨record, some secret, [deviceOne], fun _ => none⟩, ⟨fun _ _ => none, 0⟩, []⟩

/-- A record marked for deletion with the cleanup finalizer and no labels. -/
def markedSecret : BMCSecret := ⟨[], [], true, [bmcSecretFinalizer]⟩

theorem deletion_pass_removes_finalizer_unlabelled :
    ((World.initial (some (vaultRecord "" [])) markedSecret).registry.secret = some markedSecret ∧
      markedSecret.deletionTimestamp = true ∧ bmcSecretFinalizer ∈ markedSecret.finalizers ∧
      noFaults .getSecret = none) ∧
    (∀ s, (reconcile Env.withCredentials noFaults 0 "creds"
        (World.initial (some (vaultRecord "" [])) markedSecret)).2.registry.secret = some s →
      bmcSecretFinalizer ∉ s.finalizers) ∧
    (∀ e ∈ (reconcile Env.withCredentials noFaults 0 "creds"
        (World.initial (some (vaultRecord "" [])) markedSecret)).2.log.drop 0, e.isWrite = false) ∧
    (reconcile Env.withCredentials noFaults 0 "creds"
      (World.initial (some (vaultRecord "" [])) markedSecret)).1 = ⟨0, none⟩ :=
  ⟨⟨rfl, rfl, List.mem_singleton_self _, rfl⟩,
    (deletion_pass_removes_finalizer Env.withCredentials noFaults 0 "creds"
      (World.initial (some (vaultRecord "" [])) markedSecret) markedSecret rfl rfl
      (List.mem_singleton_self _) rfl).1 "" (by decide) rfl rfl⟩

/-- With the global sync label `sync-enabled` configured, a marked record that lacks the
label is skipped before the deletion branch: with every call succeeding, the pass ends
with the record and its finalizer in place. -/
theorem deletion_blocked_by_sync_label :
    (reconcile Env.withCredentials noFaults 0 "creds"
        (World.initial (some { vaultRecord "" [] with syncLabel := "sync-enabled" }) markedSecret)).2.registry.secret =
      some markedSecret ∧ bmcSecretFinalizer ∈ markedSecret.finalizers := by
  decide

end Deletion

end BmcSecretOperator
