import Mathlib.Data.List.Nodup
import BmcSecretOperator.Sync

/-!
# The sync status record

Source: bmcsecret_controller.go:691-773 (`updateSyncStatus`) and :775-793 (`setCondition`).

A pass makes each of its registry calls at most once, so the outcome of the calls of one
pass is a function of the call (`ClientFaults`): a transient error, or success. Whether an
object exists is read from the registry itself, so `NotFound` is never a fault.

The status objects are stored by name. `updateSyncStatus` reads and writes only them: its
failure is logged and ignored by both sync paths, and nothing else of a pass depends on it.
-/

set_option autoImplicit false

namespace BmcSecretOperator

/-- The registry calls a pass can make. -/
inductive ClientCall
  | getSecret
  | addFinalizer
  | listBMCs
  | getStatus
  | createStatus
  | refetchStatus
  | updateStatus
  | deleteStatus
  | removeFinalizer
  deriving DecidableEq, Repr

/-- The error each registry call of a pass fails with, if it fails. -/
abbrev ClientFaults := ClientCall → Option String

/-- The status objects of the registry, by name. -/
abbrev StatusStore := String → Option BMCSecretSyncStatus

/-- The name of a credential record's status object: `fmt.Sprintf("%s-sync-status", name)`. -/
def syncStatusName (bmcSecretName : String) : String := bmcSecretName ++ "-sync-status"

/-- `setCondition`: replace the first condition of the same type when its status or reason
differs, keep it when neither does, append when there is none. -/
def setCondition (newCondition : Condition) : List Condition → List Condition
  | [] => [newCondition]
  | condition :: rest =>
    if condition.type = newCondition.type then
      (if condition.status ≠ newCondition.status ∨ condition.reason ≠ newCondition.reason then
        newCondition else condition) :: rest
    else condition :: setCondition newCondition rest

/-! ## Conditions keyed by type

`setCondition` is an upsert keyed by `type` that skips the replacement when neither status
nor reason changes. Everything below follows from what it does to the list of types
(`setCondition_types`) and to the conditions of other types (`setCondition_filter_other`). -/

section SetCondition

variable (newCondition : Condition)

/-- The types after `setCondition`: the same list, with the new type appended when absent. -/
theorem setCondition_types (conditions : List Condition) :
    (setCondition newCondition conditions).map (·.type) =
      if newCondition.type ∈ conditions.map (·.type) then conditions.map (·.type)
      else conditions.map (·.type) ++ [newCondition.type] := by
  induction conditions with
  | nil => rfl
  | cons condition rest ih =>
    by_cases same : condition.type = newCondition.type
    · rw [setCondition, if_pos same]
      split <;> simp [same]
    · rw [setCondition, if_neg same, List.map_cons, ih]
      simp only [List.map_cons, List.mem_cons, Ne.symm same, false_or]
      split_ifs <;> rfl

/-- Conditions of other types are kept, in order. -/
theorem setCondition_filter_other (conditions : List Condition) :
    (setCondition newCondition conditions).filter (fun d => d.type ≠ newCondition.type) =
      conditions.filter (fun d => d.type ≠ newCondition.type) := by
  induction conditions with
  | nil => simp [setCondition]
  | cons condition rest ih =>
    by_cases same : condition.type = newCondition.type
    · rw [setCondition, if_pos same]
      split <;> simp [same]
    · simp only [setCondition, if_neg same, List.filter_cons, ih]

variable {newCondition}

theorem setCondition_nodup {conditions : List Condition}
    (distinct : (conditions.map (·.type)).Nodup) :
    ((setCondition newCondition conditions).map (·.type)).Nodup := by
  rw [setCondition_types]
  split
  · exact distinct
  · next absent => exact distinct.append (List.nodup_singleton _) (List.disjoint_singleton.mpr absent)

/-- Over distinct types, exactly one condition has the new type, with its status and reason. -/
theorem setCondition_filter_same {conditions : List Condition}
    (distinct : (conditions.map (·.type)).Nodup) :
    ∃ condition, (setCondition newCondition conditions).filter
        (fun d => d.type = newCondition.type) = [condition] ∧
      condition.status = newCondition.status ∧ condition.reason = newCondition.reason := by
  induction conditions with
  | nil => exact ⟨newCondition, by simp [setCondition], rfl, rfl⟩
  | cons condition rest ih =>
    rw [List.map_cons, List.nodup_cons] at distinct
    by_cases same : condition.type = newCondition.type
    · have unique : rest.filter (fun d => d.type = newCondition.type) = [] :=
        List.filter_eq_nil_iff.mpr fun d member found =>
          distinct.1 (List.mem_map.mpr ⟨d, member, by rw [same]; simpa using found⟩)
      rw [setCondition, if_pos same]
      by_cases changed : condition.status ≠ newCondition.status ∨ condition.reason ≠ newCondition.reason
      · exact ⟨newCondition, by simp [changed, unique], rfl, rfl⟩
      · simp only [not_or, not_not] at changed
        exact ⟨condition, by simp [changed, same, unique], changed⟩
    · obtain ⟨d, filtered, status, reason⟩ := ih distinct.2
      exact ⟨d, by simp [setCondition, same, filtered], status, reason⟩

/-- Over distinct types, a condition of the new type with its status and reason already
present leaves the list as it is. -/
theorem setCondition_of_present {conditions : List Condition}
    (distinct : (conditions.map (·.type)).Nodup)
    (present : ∃ condition ∈ conditions, condition.type = newCondition.type ∧
      condition.status = newCondition.status ∧ condition.reason = newCondition.reason) :
    setCondition newCondition conditions = conditions := by
  induction conditions with
  | nil => simp at present
  | cons condition rest ih =>
    rw [List.map_cons, List.nodup_cons] at distinct
    obtain ⟨d, member, type, status, reason⟩ := present
    rcases List.mem_cons.mp member with rfl | later
    · simp [setCondition, type, status, reason]
    · have other : condition.type ≠ newCondition.type := fun same =>
        distinct.1 (by simpa [same, type] using List.mem_map_of_mem (·.type) later)
      rw [setCondition, if_neg other, ih distinct.2 ⟨d, later, type, status, reason⟩]

/-- The first condition of the new type carries the new status and reason. -/
theorem setCondition_find_type (conditions : List Condition) :
    ∃ condition, (setCondition newCondition conditions).find? (fun d => d.type = newCondition.type) =
        some condition ∧
      condition.status = newCondition.status ∧ condition.reason = newCondition.reason := by
  induction conditions with
  | nil => exact ⟨newCondition, by simp [setCondition], rfl, rfl⟩
  | cons condition rest ih =>
    by_cases same : condition.type = newCondition.type
    · rw [setCondition, if_pos same]
      by_cases changed : condition.status ≠ newCondition.status ∨ condition.reason ≠ newCondition.reason
      · exact ⟨newCondition, by simp [changed], rfl, rfl⟩
      · simp only [not_or, not_not] at changed
        exact ⟨condition, by simp [changed, same], changed⟩
    · obtain ⟨d, found, status, reason⟩ := ih
      exact ⟨d, by simp [setCondition, same, found], status, reason⟩

end SetCondition

/-- `setCondition` keeps a condition list keyed by type: over pairwise distinct types, the
types stay distinct, exactly one condition has the new type and it carries the new status
and reason, the conditions of other types are kept in order, and the list is unchanged
when a condition of the new type with the same status and reason is already there. -/
theorem setCondition_keyed_by_type (newCondition : Condition) (conditions : List Condition)
    (distinct : (conditions.map (·.type)).Nodup) :
    ((setCondition newCondition conditions).map (·.type)).Nodup ∧
    (∃ condition, (setCondition newCondition conditions).filter
        (fun d => d.type = newCondition.type) = [condition] ∧
      condition.status = newCondition.status ∧ condition.reason = newCondition.reason) ∧
    (setCondition newCondition conditions).filter (fun d => d.type ≠ newCondition.type) =
      conditions.filter (fun d => d.type ≠ newCondition.type) ∧
    ((∃ condition ∈ conditions, condition.type = newCondition.type ∧
        condition.status = newCondition.status ∧ condition.reason = newCondition.reason) →
      setCondition newCondition conditions = conditions) :=
  ⟨setCondition_nodup distinct, setCondition_filter_same distinct,
    setCondition_filter_other newCondition conditions, setCondition_of_present distinct⟩

/-- A status that was `AllPathsSynced`, with a `Ready` condition beside it. -/
def syncedAndReady : List Condition :=
  [⟨"Synced", "True", 1, 0, "AllPathsSynced", "Successfully synced to 2 backend paths"⟩,
    ⟨"Ready", "True", 1, 0, "Available", ""⟩]

theorem setCondition_keyed_by_type_on_partial_sync :
    (syncedAndReady.map (·.type)).Nodup ∧
      ((setCondition ⟨"Synced", "False", 1, 5, "PartialSync", "Synced 1/2 paths, 1 failed"⟩
          syncedAndReady).map (·.type)).Nodup ∧
      (∃ condition, (setCondition ⟨"Synced", "False", 1, 5, "PartialSync", "Synced 1/2 paths, 1 failed"⟩
          syncedAndReady).filter (fun d => d.type = "Synced") = [condition] ∧
        condition.status = "False" ∧ condition.reason = "PartialSync") ∧
      (setCondition ⟨"Synced", "False", 1, 5, "PartialSync", "Synced 1/2 paths, 1 failed"⟩
          syncedAndReady).filter (fun d => d.type ≠ "Synced") =
        syncedAndReady.filter (fun d => d.type ≠ "Synced") ∧
      ((∃ condition ∈ syncedAndReady, condition.type = "Synced" ∧
          condition.status = "False" ∧ condition.reason = "PartialSync") →
        setCondition ⟨"Synced", "False", 1, 5, "PartialSync", "Synced 1/2 paths, 1 failed"⟩
          syncedAndReady = syncedAndReady) :=
  have distinct : (syncedAndReady.map (·.type)).Nodup := by decide
  ⟨distinct, setCondition_keyed_by_type _ _ distinct⟩

/-- The `Synced` condition `updateSyncStatus` derives from the counts. -/
def syncedCondition (generation now totalPaths successfulPaths failedPaths : Nat) : Condition :=
  if failedPaths = 0 then
    ⟨"Synced", "True", generation, now, "AllPathsSynced",
      "Successfully synced to " ++ toString successfulPaths ++ " backend paths"⟩
  else if successfulPaths > 0 then
    ⟨"Synced", "False", generation, now, "PartialSync",
      "Synced " ++ toString successfulPaths ++ "/" ++ toString totalPaths ++ " paths, " ++
        toString failedPaths ++ " failed"⟩
  else
    ⟨"Synced", "False", generation, now, "SyncFailed",
      "Failed to sync to " ++ toString failedPaths ++ " paths"⟩

@[simp] theorem syncedCondition_type (generation now totalPaths successfulPaths failedPaths : Nat) :
    (syncedCondition generation now totalPaths successfulPaths failedPaths).type = "Synced" := by
  unfold syncedCondition; split_ifs <;> rfl

theorem syncedCondition_reason (generation now totalPaths successfulPaths failedPaths : Nat) :
    (syncedCondition generation now totalPaths successfulPaths failedPaths).reason =
      if failedPaths = 0 then "AllPathsSynced"
      else if successfulPaths > 0 then "PartialSync" else "SyncFailed" := by
  unfold syncedCondition; split_ifs <;> rfl

/-- The status block `updateSyncStatus` writes over a fetched object. -/
def BMCSecretSyncStatus.withSync (status : BMCSecretSyncStatus) (now : Nat)
    (backendPaths : List BackendPath) (totalPaths successfulPaths failedPaths : Nat) :
    BMCSecretSyncStatus :=
  { status with
    backendPaths, lastSyncAttempt := now, totalPaths, successfulPaths, failedPaths,
    conditions := setCondition
      (syncedCondition status.generation now totalPaths successfulPaths failedPaths)
      status.conditions }

/-- A status object as `Create` stores it: the spec's reference, generation 1, no status. -/
def createdSyncStatus (bmcSecretName : String) : BMCSecretSyncStatus :=
  ⟨bmcSecretName, 1, [], 0, 0, 0, 0, []⟩

section Update

variable (faults : ClientFaults) (now : Nat) (bmcSecretName : String)
  (backendPaths : List BackendPath) (totalPaths successfulPaths failedPaths : Nat)

/-- `r.Status().Update` of a fetched object with the pass's results. -/
def writeSyncStatus (status : BMCSecretSyncStatus) (statuses : StatusStore) :
    Option String × StatusStore :=
  match faults .updateStatus with
  | some e => (some e, statuses)
  | none =>
    (none, Function.update statuses (syncStatusName bmcSecretName)
      (some (status.withSync now backendPaths totalPaths successfulPaths failedPaths)))

/-- `updateSyncStatus`: get the status object, or create and fetch it, then update its
status. Returns the error it would return, if any. -/
def updateSyncStatus (statuses : StatusStore) : Option String × StatusStore :=
  match faults .getStatus with
  | some e => (some e, statuses)
  | none =>
    match statuses (syncStatusName bmcSecretName) with
    | some status =>
      writeSyncStatus faults now bmcSecretName backendPaths totalPaths successfulPaths failedPaths
        status statuses
    | none =>
      match faults .createStatus with
      | some e => (some e, statuses)
      | none =>
        match faults .refetchStatus with
        | some e =>
          (some e, Function.update statuses (syncStatusName bmcSecretName)
            (some (createdSyncStatus bmcSecretName)))
        | none =>
          writeSyncStatus faults now bmcSecretName backendPaths totalPaths successfulPaths failedPaths
            (createdSyncStatus bmcSecretName)
            (Function.update statuses (syncStatusName bmcSecretName)
              (some (createdSyncStatus bmcSecretName)))

/-- The registry calls of `updateSyncStatus` succeed: the get and the status update, and the
create and the re-fetch when there is no status object yet. -/
def StatusWritable (statuses : StatusStore) : Prop :=
  faults .getStatus = none ∧ faults .updateStatus = none ∧
    (statuses (syncStatusName bmcSecretName) = none →
      faults .createStatus = none ∧ faults .refetchStatus = none)

/-- When its calls succeed, `updateSyncStatus` returns no error and stores the fetched object,
or the one it created, with the pass's results. -/
theorem updateSyncStatus_written {statuses : StatusStore}
    (writable : StatusWritable faults bmcSecretName statuses) :
    ∃ status : BMCSecretSyncStatus, (updateSyncStatus faults now bmcSecretName backendPaths
        totalPaths successfulPaths failedPaths statuses).1 = none ∧
      (updateSyncStatus faults now bmcSecretName backendPaths totalPaths successfulPaths failedPaths
        statuses).2 (syncStatusName bmcSecretName) =
          some (status.withSync now backendPaths totalPaths successfulPaths failedPaths) := by
  obtain ⟨fetched, updated, created⟩ := writable
  cases stored : statuses (syncStatusName bmcSecretName) with
  | some status =>
    exact ⟨status, by simp [updateSyncStatus, writeSyncStatus, fetched, stored, updated]⟩
  | none =>
    obtain ⟨create, refetch⟩ := created stored
    exact ⟨createdSyncStatus bmcSecretName,
      by simp [updateSyncStatus, writeSyncStatus, fetched, stored, create, refetch, updated]⟩

end Update

end BmcSecretOperator
