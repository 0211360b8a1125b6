import BmcSecretOperator.Reconcile

/-!
# What a sync pass reports

Source: bmcsecret_controller.go:216-336 (the loop, status update and result of
`reconcileSingleEngine`), :374-498 (those of `reconcileMultiEngine`) and :691-773
(`updateSyncStatus`).

Once its factory calls succeed, a sync pass returns the normal requeue with no error,
whatever its pairs and its status write do. The status object it stores, whenever the
registry calls of the write succeed, reports the pass's pairs: one entry per
(destination, device) pair in order, naming the device with its region and hostname;
counts that add up; and a first `Synced` condition whose reason follows the counts
(`sync_pass_reports_status`). The two paths pass `totalPaths` differently, the device
count and the entry count; both are the number of entries.
-/

set_option autoImplicit false

namespace BmcSecretOperator

/-- The reason of the first `Synced` condition of a status object. -/
def syncedReason (status : BMCSecretSyncStatus) : Option String :=
  (status.conditions.find? fun d => d.type = "Synced").map (·.reason)

/-- A status object reports the pairs `ps` of a pass: one entry per pair, in order, with the
pair's device name, region and hostname; `totalPaths` is the number of entries and splits
into the `Success` and the `Failed` ones; the `Synced` reason follows the counts. -/
structure ReportsPairs (regionLabelKey : String) (ps : List (Target × BMC))
    (status : BMCSecretSyncStatus) : Prop where
  entries : status.backendPaths.map (fun e => (e.bmcName, e.region, e.hostname)) =
    ps.map fun p => (p.2.name, extractRegionFromBMC p.2 regionLabelKey, getHostnameFromBMC p.2)
  total : status.totalPaths = status.backendPaths.length
  counted : status.totalPaths = status.successfulPaths + status.failedPaths
  successful : status.successfulPaths = status.backendPaths.countP (·.syncStatus = "Success")
  failed : status.failedPaths = status.backendPaths.countP (·.syncStatus = "Failed")
  allPathsSynced : syncedReason status = some "AllPathsSynced" ↔ status.failedPaths = 0
  partialSync : syncedReason status = some "PartialSync" ↔
    0 < status.successfulPaths ∧ 0 < status.failedPaths
  syncFailed : syncedReason status = some "SyncFailed" ↔
    status.successfulPaths = 0 ∧ 0 < status.failedPaths

theorem withSync_syncedReason (status : BMCSecretSyncStatus) (now : Nat)
    (backendPaths : List BackendPath) (totalPaths successfulPaths failedPaths : Nat) :
    syncedReason (status.withSync now backendPaths totalPaths successfulPaths failedPaths) =
      some (if failedPaths = 0 then "AllPathsSynced"
        else if successfulPaths > 0 then "PartialSync" else "SyncFailed") := by
  obtain ⟨condition, found, -, reason⟩ := @setCondition_find_type
    (syncedCondition status.generation now totalPaths successfulPaths failedPaths) status.conditions
  rw [syncedCondition_type] at found
  simp [syncedReason, BMCSecretSyncStatus.withSync, found, reason, syncedCondition_reason]

/-- The reason of the written `Synced` condition, read off the counts. -/
theorem syncedReason_withSync_iff (status : BMCSecretSyncStatus) (now : Nat)
    (backendPaths : List BackendPath) (totalPaths successfulPaths failedPaths : Nat) :
    (syncedReason (status.withSync now backendPaths totalPaths successfulPaths failedPaths) =
        some "AllPathsSynced" ↔ failedPaths = 0) ∧
      (syncedReason (status.withSync now backendPaths totalPaths successfulPaths failedPaths) =
        some "PartialSync" ↔ 0 < successfulPaths ∧ 0 < failedPaths) ∧
      (syncedReason (status.withSync now backendPaths totalPaths successfulPaths failedPaths) =
        some "SyncFailed" ↔ successfulPaths = 0 ∧ 0 < failedPaths) := by
  rw [withSync_syncedReason]
  by_cases noFailure : failedPaths = 0 <;> by_cases noSuccess : successfulPaths = 0 <;>
    simp [noFailure, noSuccess, Nat.pos_iff_ne_zero]

/-- A list of entries each `Success` or `Failed` splits into the two. -/
theorem length_eq_success_add_failed {entries : List BackendPath}
    (recorded : ∀ e ∈ entries, e.syncStatus = "Success" ∨ e.syncStatus = "Failed") :
    entries.length = entries.countP (·.syncStatus = "Success") +
      entries.countP (·.syncStatus = "Failed") := by
  rw [List.length_eq_countP_add_countP (·.syncStatus = "Success")]
  congr 1
  refine List.countP_congr fun e member => ?_
  rcases recorded e member with status | status <;> simp [status]

/-- The status a sync loop from a world's fresh accumulators is written with reports the
loop's pairs, once `totalPaths` is the number of entries. -/
theorem reportsPairs_withSync (env : Env) (regionLabelKey username password : String)
    (syncTime : Nat) (ps : List (Target × BMC)) (w : World) (base : BMCSecretSyncStatus)
    (now totalPaths : Nat)
    (total : totalPaths =
      (syncPairs env regionLabelKey username password syncTime ps w.syncStart).backendPaths.length) :
    ReportsPairs regionLabelKey ps
      (base.withSync now (syncPairs env regionLabelKey username password syncTime ps w.syncStart).backendPaths
        totalPaths (syncPairs env regionLabelKey username password syncTime ps w.syncStart).syncSuccess
        (syncPairs env regionLabelKey username password syncTime ps w.syncStart).syncErrors) := by
  obtain ⟨names, recorded, successes, errors⟩ :=
    syncPairs_entries env regionLabelKey username password syncTime ps w.syncStart
  simp only [World.syncStart_backendPaths, World.syncStart_syncSuccess, World.syncStart_syncErrors,
    List.length_nil, List.drop_zero, Nat.zero_add] at names recorded successes errors
  have split := length_eq_success_add_failed recorded
  exact ⟨names, total, by simp only [BMCSecretSyncStatus.withSync]; omega, successes, errors,
    (syncedReason_withSync_iff ..).1, (syncedReason_withSync_iff ..).2.1,
    (syncedReason_withSync_iff ..).2.2⟩

section Passes

variable (env : Env) (faults : ClientFaults) (now : Nat) (name : String)

@[simp] theorem World.recordSync_statuses (st : SyncState) (totalPaths : Nat)
    (summary : String × String × String) (w : World) :
    (w.recordSync faults now name st totalPaths summary).registry.statuses =
      (updateSyncStatus faults now name st.backendPaths totalPaths st.syncSuccess st.syncErrors
        w.registry.statuses).2 := rfl

/-- `reconcileSingleEngine` once its factory calls succeed: the loop over the devices with
the default destination, then the status write and the summary event. -/
theorem reconcileSingleEngine_synced {w w1 w2 w3 : World} {backend : Store}
    {pathBuilder : PathBuilder} {regionLabelKey : String} (bmcs : List BMC)
    (username password : String)
    (gotBackend : w.factoryCall (FactoryState.getBackend env) = (.ok backend, w1))
    (gotPathBuilder : w1.factoryCall (FactoryState.getPathBuilder env) = (.ok pathBuilder, w2))
    (gotKey : w2.factoryCall (FactoryState.getRegionLabelKey env) = (.ok regionLabelKey, w3)) :
    ∃ summary, reconcileSingleEngine env faults now name bmcs username password w =
      (⟨requeueAfterNormal, none⟩, w3.recordSync faults now name
        (syncPairs env regionLabelKey username password now (pairs [⟨none, backend, pathBuilder⟩] bmcs)
          w3.syncStart) bmcs.length summary) := by
  unfold reconcileSingleEngine
  simp only [gotBackend, gotPathBuilder, gotKey]
  rw [syncDevices_eq, show pairs [⟨none, backend, pathBuilder⟩] bmcs =
    bmcs.map (⟨none, backend, pathBuilder⟩, ·) by simp [pairs]]
  exact ⟨_, rfl⟩

/-- `reconcileMultiEngine` once its factory calls succeed with some engine: the loop over
the engines and devices, then the status write and the summary event. -/
theorem reconcileMultiEngine_synced {w w1 w2 : World} {regionLabelKey : String}
    {engines : List EngineBackend} (secret : BMCSecret) (bmcs : List BMC) (username password : String)
    (matched : engines ≠ [])
    (gotKey : w.factoryCall (FactoryState.getRegionLabelKey env) = (.ok regionLabelKey, w1))
    (gotEngines : w1.factoryCall (fun record => FactoryState.getEngineBackends env record secret.labels) =
      (.ok engines, w2)) :
    ∃ summary, reconcileMultiEngine env faults now name secret bmcs username password w =
      (⟨requeueAfterNormal, none⟩, w2.recordSync faults now name
        (syncPairs env regionLabelKey username password now (pairs (engines.map EngineBackend.target) bmcs)
          w2.syncStart)
        (syncPairs env regionLabelKey username password now (pairs (engines.map EngineBackend.target) bmcs)
          w2.syncStart).backendPaths.length summary) := by
  unfold reconcileMultiEngine
  simp only [gotKey, gotEngines]
  rw [if_neg (by simpa using matched), syncEngines_eq]
  exact ⟨_, rfl⟩

end Passes

/-- A sync pass reports its pairs. Once the factory calls of `reconcileSingleEngine` succeed,
and once those of `reconcileMultiEngine` succeed with a non-empty list of matched engines,
the pass returns the normal requeue with no error, under every outcome of path rendering
and of every exists, read and write call, and every outcome of the status write. When the
registry calls of the status write succeed, the stored status object reports the pass's
(destination, device) pairs, engine-major and device-minor: `ReportsPairs`. -/
theorem sync_pass_reports_status (env : Env) (faults : ClientFaults) (now : Nat) (name : String)
    (w : World) (secret : BMCSecret) (bmcs : List BMC) (username password : String) :
    (∀ (backend : Store) (pathBuilder : PathBuilder) (regionLabelKey : String) (w1 w2 w3 : World),
      w.factoryCall (FactoryState.getBackend env) = (.ok backend, w1) →
      w1.factoryCall (FactoryState.getPathBuilder env) = (.ok pathBuilder, w2) →
      w2.factoryCall (FactoryState.getRegionLabelKey env) = (.ok regionLabelKey, w3) →
      (reconcileSingleEngine env faults now name bmcs username password w).1 =
          ⟨requeueAfterNormal, none⟩ ∧
        (StatusWritable faults name w.registry.statuses →
          ∃ status, (reconcileSingleEngine env faults now name bmcs username password w).2.registry.statuses
              (syncStatusName name) = some status ∧
            ReportsPairs regionLabelKey (pairs [⟨none, backend, pathBuilder⟩] bmcs) status)) ∧
    (∀ (regionLabelKey : String) (engines : List EngineBackend) (w1 w2 : World), engines ≠ [] →
      w.factoryCall (FactoryState.getRegionLabelKey env) = (.ok regionLabelKey, w1) →
      w1.factoryCall (fun record => FactoryState.getEngineBackends env record secret.labels) =
        (.ok engines, w2) →
      (reconcileMultiEngine env faults now name secret bmcs username password w).1 =
          ⟨requeueAfterNormal, none⟩ ∧
        (StatusWritable faults name w.registry.statuses →
          ∃ status, (reconcileMultiEngine env faults now name secret bmcs username password
              w).2.registry.statuses (syncStatusName name) = some status ∧
            ReportsPairs regionLabelKey (pairs (engines.map EngineBackend.target) bmcs) status)) := by
  constructor
  · intro backend pathBuilder regionLabelKey w1 w2 w3 gotBackend gotPathBuilder gotKey
    obtain ⟨summary, pass⟩ := reconcileSingleEngine_synced env faults now name bmcs username password
      gotBackend gotPathBuilder gotKey
    have same : w3.registry = w.registry :=
      (World.factoryCall_inv gotKey).1.trans ((World.factoryCall_inv gotPathBuilder).1.trans
        (World.factoryCall_inv gotBackend).1)
    refine ⟨by rw [pass], fun writable => ?_⟩
    obtain ⟨status, -, stored⟩ := updateSyncStatus_written faults now name _ bmcs.length _ _
      (show StatusWritable faults name w3.registry.statuses by rwa [same])
    refine ⟨_, by rw [pass, World.recordSync_statuses]; exact stored, reportsPairs_withSync env
      regionLabelKey username password now _ w3 status now _ ?_⟩
    have entries := (syncPairs_entries env regionLabelKey username password now
      (pairs [⟨none, backend, pathBuilder⟩] bmcs) w3.syncStart).1
    simpa [pairs] using (congrArg List.length entries).symm
  · intro regionLabelKey engines w1 w2 matched gotKey gotEngines
    obtain ⟨summary, pass⟩ := reconcileMultiEngine_synced env faults now name secret bmcs username
      password matched gotKey gotEngines
    have same : w2.registry = w.registry :=
      (World.factoryCall_inv gotEngines).1.trans (World.factoryCall_inv gotKey).1
    refine ⟨by rw [pass], fun writable => ?_⟩
    obtain ⟨status, -, stored⟩ := updateSyncStatus_written faults now name _ _ _ _
      (show StatusWritable faults name w2.registry.statuses by rwa [same])
    exact ⟨_, by rw [pass, World.recordSync_statuses]; exact stored, reportsPairs_withSync env
      regionLabelKey username password now _ w2 status now _ rfl⟩

/-- A record labelled `team=x`, not marked for deletion, that already carries the finalizer. -/
def syncedSecret : BMCSecret := ⟨[("team", "x")], [], false, [bmcSecretFinalizer]⟩

/-- A fresh factory over the default vault record, no engines. -/
def defaultStoreWorld : World := World.initial (some (vaultRecord "" [])) syncedSecret

/-- A fresh factory over a vault record with engine `a` on mount `team-a` for label `team`. -/
def teamEngineWorld : World :=
  World.initial (some (vaultRecord "" [⟨"a", "team-a", "", "team"⟩])) syncedSecret

theorem sync_pass_reports_status_on_one_device :
    (∃ (backend : Store) (pathBuilder : PathBuilder) (regionLabelKey : String) (w1 w2 w3 : World),
      defaultStoreWorld.factoryCall (FactoryState.getBackend Env.withCredentials) =
        (.ok backend, w1) ∧
      w1.factoryCall (FactoryState.getPathBuilder Env.withCredentials) = (.ok pathBuilder, w2) ∧
      w2.factoryCall (FactoryState.getRegionLabelKey Env.withCredentials) =
        (.ok regionLabelKey, w3) ∧
      StatusWritable noFaults "creds" defaultStoreWorld.registry.statuses ∧
      (reconcileSingleEngine Env.withCredentials noFaults 0 "creds" [deviceOne] "admin" "pw"
          defaultStoreWorld).1 = ⟨requeueAfterNormal, none⟩ ∧
      ∃ status, (reconcileSingleEngine Env.withCredentials noFaults 0 "creds" [deviceOne] "admin" "pw"
          defaultStoreWorld).2.registry.statuses (syncStatusName "creds") = some status ∧
        ReportsPairs regionLabelKey (pairs [⟨none, backend, pathBuilder⟩] [deviceOne]) status) ∧
    (∃ (regionLabelKey : String) (engines : List EngineBackend) (w1 w2 : World), engines ≠ [] ∧
      teamEngineWorld.factoryCall (FactoryState.getRegionLabelKey Env.withCredentials) =
        (.ok regionLabelKey, w1) ∧
      w1.factoryCall (fun record => FactoryState.getEngineBackends Env.withCredentials record
        syncedSecret.labels) = (.ok engines, w2) ∧
      StatusWritable noFaults "creds" teamEngineWorld.registry.statuses ∧
      (reconcileMultiEngine Env.withCredentials noFaults 0 "creds" syncedSecret [deviceOne] "admin"
          "pw" teamEngineWorld).1 = ⟨requeueAfterNormal, none⟩ ∧
      ∃ status, (reconcileMultiEngine Env.withCredentials noFaults 0 "creds" syncedSecret [deviceOne]
          "admin" "pw" teamEngineWorld).2.registry.statuses (syncStatusName "creds") = some status ∧
        ReportsPairs regionLabelKey (pairs (engines.map EngineBackend.target) [deviceOne]) status) := by
  have writable : ∀ statuses, StatusWritable noFaults "creds" statuses :=
    fun _ => ⟨rfl, rfl, fun _ => ⟨rfl, rfl⟩⟩
  have single := (sync_pass_reports_status Env.withCredentials noFaults 0 "creds"
    defaultStoreWorld syncedSecret [deviceOne] "admin" "pw").1
  have multi := (sync_pass_reports_status Env.withCredentials noFaults 0 "creds"
    teamEngineWorld syncedSecret [deviceOne] "admin" "pw").2
  exact ⟨⟨_, _, _, _, _, _, rfl, rfl, rfl, writable _, (single _ _ _ _ _ _ rfl rfl rfl).1,
      (single _ _ _ _ _ _ rfl rfl rfl).2 (writable _)⟩,
    ⟨_, _, _, _, by decide, rfl, rfl, writable _, (multi _ _ _ _ (by decide) rfl rfl).1,
      (multi _ _ _ _ (by decide) rfl rfl).2 (writable _)⟩⟩

end BmcSecretOperator
