import BmcSecretOperator.Controller
import BmcSecretOperator.PassRelation
import BmcSecretOperator.SyncReport

/-!
# What every run of the controller keeps

Source: bmcsecret_controller.go:72-179 (`Reconcile`), :181-499 (the two sync paths),
:501-618 (`handleDeletion`), :691-793 (`updateSyncStatus`, `setCondition`) and
secretbackendconfig_controller.go:46-83, as modelled in `BmcSecretOperator.Reconcile` and
`BmcSecretOperator.Controller`.

Two invariants hold in every state a run reaches, whatever the registry-call outcomes, the
clock and the changes others make in between. Every status object in the registry is well
formed: its counts are those of its entries, its `Synced` reason, once it has one, is the
one its counts give, and no two of its conditions share a type
(`statuses_wellFormed_along_runs`); this covers the object a failed re-fetch leaves behind,
created and never updated. Every store the factory constructed is closed, still cached, or
discarded by a failed engine batch (`stores_accounted_along_runs`). Both rest on one
relation, `Frame`, which every kind of change a pass makes satisfies (`Frame.passRelation`,
over the walk of `BmcSecretOperator.PassRelation`): the factory changes only through its own
operations, and the status objects only through `updateSyncStatus` and the removal of the
record's status object in `handleDeletion`.

A third invariant ties the record's status object to the record: it exists only while the
record holds the cleanup finalizer (`status_owned_along_runs`). It needs the status read and
delete of `handleDeletion` (lines 518-526) to succeed: their errors are ignored and the
finalizer is removed all the same, and `updateSyncStatus` creates the object without an
owner reference (lines 706-714), so nothing removes it afterwards.
-/

set_option autoImplicit false

namespace BmcSecretOperator

/-! ## Well-formed status objects -/

/-- A status object as the controller leaves it: every entry is `Success` or `Failed`, the
counts are those of the entries, the `Synced` reason, when there is one, is the one the
counts give, and no two conditions share a type. -/
structure StatusWellFormed (status : BMCSecretSyncStatus) : Prop where
  recorded : ∀ e ∈ status.backendPaths, e.syncStatus = "Success" ∨ e.syncStatus = "Failed"
  total : status.totalPaths = status.backendPaths.length
  successful : status.successfulPaths = status.backendPaths.countP (·.syncStatus = "Success")
  failed : status.failedPaths = status.backendPaths.countP (·.syncStatus = "Failed")
  reason : syncedReason status = none ∨ syncedReason status =
    some (if status.failedPaths = 0 then "AllPathsSynced"
      else if status.successfulPaths > 0 then "PartialSync" else "SyncFailed")
  distinct : (status.conditions.map (·.type)).Nodup

/-- Every status object of the registry is well formed. -/
def StatusesWellFormed (statuses : StatusStore) : Prop :=
  ∀ key status, statuses key = some status → StatusWellFormed status

theorem StatusWellFormed.counted {status : BMCSecretSyncStatus} (wf : StatusWellFormed status) :
    status.totalPaths = status.successfulPaths + status.failedPaths := by
  rw [wf.total, wf.successful, wf.failed]
  exact length_eq_success_add_failed wf.recorded

theorem createdSyncStatus_wellFormed (bmcSecretName : String) :
    StatusWellFormed (createdSyncStatus bmcSecretName) :=
  ⟨by simp [createdSyncStatus], rfl, rfl, rfl, .inl rfl, List.nodup_nil⟩

/-- The status block a pass writes over a well-formed object is well formed, once the
counts it is given are those of its entries. -/
theorem withSync_wellFormed {status : BMCSecretSyncStatus} (now : Nat)
    {backendPaths : List BackendPath} {totalPaths successfulPaths failedPaths : Nat}
    (recorded : ∀ e ∈ backendPaths, e.syncStatus = "Success" ∨ e.syncStatus = "Failed")
    (total : totalPaths = backendPaths.length)
    (successful : successfulPaths = backendPaths.countP (·.syncStatus = "Success"))
    (failed : failedPaths = backendPaths.countP (·.syncStatus = "Failed"))
    (distinct : (status.conditions.map (·.type)).Nodup) :
    StatusWellFormed (status.withSync now backendPaths totalPaths successfulPaths failedPaths) :=
  ⟨recorded, total, successful, failed, .inr (withSync_syncedReason ..), setCondition_nodup distinct⟩

namespace StatusesWellFormed

variable {statuses : StatusStore}

theorem set (before : StatusesWellFormed statuses) (key : String) {status : BMCSecretSyncStatus}
    (wf : StatusWellFormed status) :
    StatusesWellFormed (Function.update statuses key (some status)) := by
  intro key' status' stored
  by_cases same : key' = key
  · subst same
    rw [Function.update_same, Option.some.injEq] at stored
    exact stored ▸ wf
  · rw [Function.update_noteq same] at stored
    exact before key' status' stored

theorem erase (before : StatusesWellFormed statuses) (key : String) :
    StatusesWellFormed (Function.update statuses key none) := by
  intro key' status' stored
  by_cases same : key' = key
  · subst same
    simp at stored
  · rw [Function.update_noteq same] at stored
    exact before key' status' stored

end StatusesWellFormed

section Update

variable (faults : ClientFaults) (now : Nat) (bmcSecretName : String)
  {backendPaths : List BackendPath} {totalPaths successfulPaths failedPaths : Nat}

/-- `updateSyncStatus` keeps every status object well formed, whichever of its registry
calls fail, once the counts it is given are those of its entries. -/
theorem updateSyncStatus_wellFormed
    (recorded : ∀ e ∈ backendPaths, e.syncStatus = "Success" ∨ e.syncStatus = "Failed")
    (total : totalPaths = backendPaths.length)
    (successful : successfulPaths = backendPaths.countP (·.syncStatus = "Success"))
    (failed : failedPaths = backendPaths.countP (·.syncStatus = "Failed"))
    {statuses : StatusStore} (before : StatusesWellFormed statuses) :
    StatusesWellFormed (updateSyncStatus faults now bmcSecretName backendPaths totalPaths
      successfulPaths failedPaths statuses).2 := by
  have written : ∀ {status : BMCSecretSyncStatus} {statuses : StatusStore},
      StatusesWellFormed statuses → (status.conditions.map (·.type)).Nodup →
      StatusesWellFormed (writeSyncStatus faults now bmcSecretName backendPaths totalPaths
        successfulPaths failedPaths status statuses).2 := by
    intro status statuses before distinct
    unfold writeSyncStatus
    split
    · exact before
    · exact before.set _ (withSync_wellFormed now recorded total successful failed distinct)
  unfold updateSyncStatus
  split
  · exact before
  · split
    next status stored => exact written before (before _ _ stored).distinct
    next =>
      have created := before.set (syncStatusName bmcSecretName)
        (createdSyncStatus_wellFormed bmcSecretName)
      split
      · exact before
      · split
        · exact created
        · exact written created List.nodup_nil

end Update

/-- The record's status object is removed or left as it was. -/
theorem deleteSyncStatus_wellFormed (faults : ClientFaults) (name : String) {statuses : StatusStore}
    (before : StatusesWellFormed statuses) :
    StatusesWellFormed (deleteSyncStatus faults name statuses) := by
  unfold deleteSyncStatus
  split
  · split
    · exact before
    · exact before.erase _
  · exact before

/-! ## What a pass does to the factory and the status objects -/

/-- A part of a pass changes the factory only as its operations may (`Keeps`), and keeps
every status object well formed. -/
structure Frame (w w' : World) : Prop where
  factory : Keeps w.factory w'.factory
  statuses : StatusesWellFormed w.registry.statuses → StatusesWellFormed w'.registry.statuses

namespace Frame

theorem refl (w : World) : Frame w w := ⟨.refl _, id⟩

theorem trans {w1 w2 w3 : World} (first : Frame w1 w2) (second : Frame w2 w3) : Frame w1 w3 :=
  ⟨first.factory.trans second.factory, second.statuses ∘ first.statuses⟩

/-- A part that leaves the factory and the status objects as they were. -/
theorem of_same {w w' : World} (factory : w'.factory = w.factory)
    (statuses : w'.registry.statuses = w.registry.statuses) : Frame w w' :=
  ⟨by rw [factory]; exact .refl _, by rw [statuses]; exact id⟩

/-- Every kind of change a pass makes keeps the stores accounted for and the status objects
well formed. -/
theorem passRelation (env : Env) (faults : ClientFaults) (now : Nat) (name : String) :
    PassRelation env faults now name Frame where
  refl := refl
  trans := trans
  operation event _ w := ⟨event.step_keeps env ⟨w.factory, w.registry.configRecord⟩, id⟩
  quiet factory statuses _ := of_same factory statuses
  recordSync _ _ _ ps w _ _ total := by
    obtain ⟨recorded, length, successful, failed⟩ := syncPairs_counted env now _ _ _ ps w
    exact ⟨.refl _, updateSyncStatus_wellFormed faults now name recorded (total.trans length.symm)
      successful failed⟩
  deleteStatus _ := ⟨.refl _, deleteSyncStatus_wellFormed faults name⟩

end Frame

/-! ## Over whole runs -/

section Run

variable (env : Env) (name : String)

theorem Step.apply_frame (step : Step) (w : World) : Frame w (step.apply env name w) := by
  cases step with
  | pass faults now => exact (Frame.passRelation env faults now name).reconcile_rel w
  | invalidateCache => exact ⟨FactoryState.invalidateCache_keeps _, id⟩
  | relabel | markDeleted | setConfigRecord | setBMCs => exact .of_same rfl rfl

theorem runSteps_frame (steps : List Step) (w : World) : Frame w (runSteps env name steps w) := by
  induction steps generalizing w with
  | nil => exact .refl w
  | cons step rest ih => exact (step.apply_frame env name w).trans (ih _)

/-- Over every run of passes interleaved with relabelling, deletion marking, configuration
and device changes and cache invalidations, whatever each call returns: from a registry
whose status objects are well formed, every status object the run leaves is well formed,
and in particular its total is its successful plus its failed paths. -/
theorem statuses_wellFormed_along_runs (steps : List Step) (w : World)
    (start : StatusesWellFormed w.registry.statuses) :
    ∀ key status, (runSteps env name steps w).registry.statuses key = some status →
      StatusWellFormed status ∧ status.totalPaths = status.successfulPaths + status.failedPaths :=
  fun key status stored =>
    have wf := (runSteps_frame env name steps w).statuses start key status stored
    ⟨wf, wf.counted⟩

/-- Over every run, from a factory whose stores are accounted for, every store the factory
has constructed is closed, still cached, or one a failed engine batch discarded. -/
theorem stores_accounted_along_runs (steps : List Step) (w : World)
    (start : Accounted w.factory) : Accounted (runSteps env name steps w).factory :=
  (runSteps_frame env name steps w).factory.accounted start

end Run

/-- A pass that syncs one secret, a deletion mark and the pass that removes it, from a world
that holds no status object yet. -/
theorem statuses_wellFormed_after_sync_then_delete :
    StatusesWellFormed (World.initial (some (vaultRecord "" [])) ⟨[], [], false, []⟩).registry.statuses ∧
      ∀ key status, (runSteps Env.withCredentials "creds" [.pass noFaults 1, .markDeleted, .pass noFaults 2]
          (World.initial (some (vaultRecord "" [])) ⟨[], [], false, []⟩)).registry.statuses key =
            some status →
        StatusWellFormed status ∧ status.totalPaths = status.successfulPaths + status.failedPaths :=
  have start : StatusesWellFormed
      (World.initial (some (vaultRecord "" [])) ⟨[], [], false, []⟩).registry.statuses :=
    fun _ _ stored => by cases stored
  ⟨start, statuses_wellFormed_along_runs Env.withCredentials "creds"
    [.pass noFaults 1, .markDeleted, .pass noFaults 2] _ start⟩

theorem stores_accounted_after_sync_and_invalidation :
    Accounted (World.initial (some (vaultRecord "" [])) ⟨[], [], false, []⟩).factory ∧
      Accounted (runSteps Env.withCredentials "creds" [.pass noFaults 1, .invalidateCache, .pass noFaults 2]
        (World.initial (some (vaultRecord "" [])) ⟨[], [], false, []⟩)).factory :=
  have start : Accounted (World.initial (some (vaultRecord "" [])) ⟨[], [], false, []⟩).factory := by
    simp [Accounted, World.initial, Ledger.empty]
  ⟨start, stores_accounted_along_runs Env.withCredentials "creds"
    [.pass noFaults 1, .invalidateCache, .pass noFaults 2] _ start⟩

/-! ## The status object lives only as long as the record's finalizer -/

/-- The record's status object exists only while the record holds the cleanup finalizer. -/
def StatusOwned (name : String) (registry : Registry) : Prop :=
  ∀ status, registry.statuses (syncStatusName name) = some status →
    ∃ s, registry.secret = some s ∧ bmcSecretFinalizer ∈ s.finalizers

/-- The registry calls by which `handleDeletion` removes the status object, its read and its
delete, both succeed. -/
def StatusCallsSucceed (faults : ClientFaults) : Prop :=
  faults .getStatus = none ∧ faults .deleteStatus = none

/-- A step whose pass, if it is one, removes status objects without failing. -/
def Step.statusCallsSucceed : Step → Prop
  | .pass faults _ => StatusCallsSucceed faults
  | _ => True

namespace StatusOwned

variable {name : String} {registry registry' : Registry}

theorem of_same (secret : registry'.secret = registry.secret)
    (statuses : registry'.statuses = registry.statuses) (before : StatusOwned name registry) :
    StatusOwned name registry' := by
  rw [StatusOwned, secret, statuses]
  exact before

theorem of_absent (absent : registry.statuses (syncStatusName name) = none) :
    StatusOwned name registry :=
  fun _ stored => by rw [absent] at stored; cases stored

theorem of_finalizer {s : BMCSecret} (stored : registry.secret = some s)
    (present : bmcSecretFinalizer ∈ s.finalizers) : StatusOwned name registry :=
  fun _ _ => ⟨s, stored, present⟩

end StatusOwned

theorem World.updateSecret_failed {fault : Option String} {secret : BMCSecret} {w w1 : World}
    {e : String} (h : w.updateSecret fault secret = (some e, w1)) : w1 = w := by
  cases fault <;> cases h
  rfl

theorem World.updateSecret_done {fault : Option String} {secret : BMCSecret} {w w1 : World}
    (h : w.updateSecret fault secret = (none, w1)) :
    w1.registry.secret =
      if secret.deletionTimestamp && secret.finalizers.isEmpty then none else some secret := by
  cases fault <;> cases h
  rfl

section Ownership

variable (env : Env) (faults : ClientFaults) (now : Nat) (name : String)

theorem deleteSyncStatus_removes (calls : StatusCallsSucceed faults) (statuses : StatusStore) :
    deleteSyncStatus faults name statuses (syncStatusName name) = none := by
  unfold deleteSyncStatus
  rw [calls.1, calls.2]
  cases stored : statuses (syncStatusName name) <;> simp [stored]

theorem removeFinalizer_statuses (secret : BMCSecret) (w : World) :
    (removeFinalizer faults secret w).2.registry.statuses = w.registry.statuses := by
  unfold removeFinalizer World.updateSecret
  cases faults .removeFinalizer <;> rfl

theorem deletePaths_registry (backend : Store) (pathBuilder : PathBuilder)
    (regionLabelKey username : String) (bmcs : List BMC) (w : World) :
    (deletePaths env backend pathBuilder regionLabelKey username bmcs w).registry = w.registry := by
  induction bmcs generalizing w with
  | nil => rfl
  | cons bmc rest ih =>
    unfold deletePaths
    split
    · exact ih w
    · exact ih _

/-- Once the finalizer is found, `handleDeletion` changes the status objects only by the
removal of the record's one. -/
theorem handleDeletion_statuses (secret : BMCSecret) (w : World)
    (present : bmcSecretFinalizer ∈ secret.finalizers) :
    (handleDeletion env faults name secret w).2.registry.statuses =
      deleteSyncStatus faults name w.registry.statuses := by
  unfold handleDeletion
  rw [if_neg (not_not.mpr present)]
  dsimp only
  split <;> rename_i h1 <;> have r1 := (World.factoryCall_inv h1).1
  · simp only [removeFinalizer_statuses, World.event_registry, r1]
  · split <;> rename_i h2 <;> have r2 := (World.factoryCall_inv h2).1
    · simp only [removeFinalizer_statuses, r2, r1]
    · split <;> rename_i h3 <;> have r3 := (World.factoryCall_inv h3).1
      · simp only [removeFinalizer_statuses, r3, r2, r1]
      · split
        · simp only [removeFinalizer_statuses, r3, r2, r1]
        · split
          · simp only [removeFinalizer_statuses, r3, r2, r1]
          · simp only [removeFinalizer_statuses, deletePaths_registry, r3, r2, r1]

/-- One pass keeps the status object owned by the record, when its status calls succeed. -/
theorem reconcile_statusOwned (calls : StatusCallsSucceed faults) (w : World)
    (before : StatusOwned name w.registry) :
    StatusOwned name (reconcile env faults now name w).2.registry := by
  unfold reconcile
  split
  · exact before
  · exact before
  · rename_i secret _ stored
    split <;> rename_i h1 <;> have r1 := (World.factoryCall_inv h1).1
    · exact r1 ▸ before
    · split
      · exact r1 ▸ before
      · split
        · by_cases present : bmcSecretFinalizer ∈ secret.finalizers
          · refine .of_absent ?_
            rw [handleDeletion_statuses env faults name secret _ present]
            exact deleteSyncStatus_removes faults name calls _
          · rw [handleDeletion, if_pos present]
            exact r1 ▸ before
        · split
          · exact .of_finalizer ((syncBMCSecret_keeps env faults now name _ _).secret.trans
              (r1.symm ▸ stored)) ‹_›
          · dsimp only
            split <;> rename_i h2
            · exact World.updateSecret_failed h2 ▸ r1 ▸ before
            · exact .of_finalizer ((syncBMCSecret_keeps env faults now name _ _).secret.trans
                ((World.updateSecret_done h2).trans (if_neg (by simp)))) (by simp)

end Ownership

section OwnershipRun

variable (env : Env) (name : String)

theorem Step.apply_statusOwned (step : Step) (calls : step.statusCallsSucceed) (w : World)
    (before : StatusOwned name w.registry) : StatusOwned name (step.apply env name w).registry := by
  cases step with
  | pass faults now => exact reconcile_statusOwned env faults now name calls w before
  | relabel labels =>
    intro status stored
    obtain ⟨s, held, present⟩ := before status stored
    exact ⟨{ s with labels }, by simp [Step.apply, held], present⟩
  | markDeleted =>
    intro status stored
    obtain ⟨s, held, present⟩ := before status stored
    have kept : s.finalizers ≠ [] := List.ne_nil_of_mem present
    exact ⟨{ s with deletionTimestamp := true }, by simp [Step.apply, held, kept], present⟩
  | setConfigRecord | setBMCs | invalidateCache => exact .of_same rfl rfl before

/-- Over every run whose passes read and delete status objects without failing: from a
registry where the record's status object exists only while the record holds the cleanup
finalizer, the same holds in every state the run reaches. In particular the status object
never outlives the record; when a deletion pass's status read or delete fails, it does, and
the object has no owner reference for the registry to remove it by. -/
theorem status_owned_along_runs (steps : List Step) (calls : ∀ step ∈ steps, step.statusCallsSucceed)
    (w : World) (start : StatusOwned name w.registry) :
    StatusOwned name (runSteps env name steps w).registry := by
  induction steps generalizing w with
  | nil => exact start
  | cons step rest ih =>
    exact ih (fun s mem => calls s (.tail _ mem)) _
      (step.apply_statusOwned env name (calls step (.head _)) w start)

end OwnershipRun

theorem status_owned_after_sync_then_delete :
    (∀ step ∈ [Step.pass noFaults 1, .markDeleted, .pass noFaults 2], step.statusCallsSucceed) ∧
      StatusOwned "creds" (World.initial (some (vaultRecord "" [])) ⟨[], [], false, []⟩).registry ∧
      StatusOwned "creds" (runSteps Env.withCredentials "creds"
        [.pass noFaults 1, .markDeleted, .pass noFaults 2]
        (World.initial (some (vaultRecord "" [])) ⟨[], [], false, []⟩)).registry :=
  have calls : ∀ step ∈ [Step.pass noFaults 1, .markDeleted, .pass noFaults 2],
      step.statusCallsSucceed := by
    simp [Step.statusCallsSucceed, StatusCallsSucceed, noFaults]
  have start : StatusOwned "creds"
      (World.initial (some (vaultRecord "" [])) ⟨[], [], false, []⟩).registry :=
    .of_absent rfl
  ⟨calls, start, status_owned_along_runs Env.withCredentials "creds" _ calls _ start⟩

/- Without the hypothesis: a deletion pass whose status delete fails still removes the
finalizer, and the record goes while its status object stays. -/
example :
    let w : World := { World.initial (some (vaultRecord "" [])) markedSecret with
      registry := { (World.initial (some (vaultRecord "" [])) markedSecret).registry with
        statuses := fun key =>
          if key = syncStatusName "creds" then some (createdSyncStatus "creds") else none } }
    let faults : ClientFaults := fun c => if c = .deleteStatus then some "conflict" else none
    (reconcile Env.withCredentials faults 0 "creds" w).2.registry.secret = none ∧
      ((reconcile Env.withCredentials faults 0 "creds" w).2.registry.statuses
        (syncStatusName "creds")).isSome = true := by
  decide

end BmcSecretOperator
