import BmcSecretOperator.Reconcile

/-!
# Runs of the credential controller

Source: bmcsecret_controller.go:72-179 (`Reconcile`, called once per queued request) and
secretbackendconfig_controller.go:39-75 (the configuration controller, whose pass
invalidates the factory's cache).

A run is what happens to one credential record's world: reconcile passes, each with its own
registry-call outcomes and clock, interleaved with changes made by others: the record's
labels change, the record is marked for deletion (the API server removes it at once when it
has no finalizer), the configuration record or the device list change, and the factory's
cache is invalidated.

Over every run, the log's finalizer updates replay to the record's finalizers, and every
write the run issues comes when the cleanup finalizer is persisted
(`finalizer_persisted_before_every_write`). Deletion is confined to the default store
and template: after a sync to an engine mount the engine's copy outlives the record
(`deletion_leaves_engine_copy`).
-/

set_option autoImplicit false

namespace BmcSecretOperator

/-- What can happen to a credential record's world. -/
inductive Step
  /-- One `Reconcile` pass, with its registry-call outcomes and clock. -/
  | pass (faults : ClientFaults) (now : Nat)
  /-- Another client replaces the record's labels. -/
  | relabel (labels : Labels)
  /-- The record is deleted: marked, or removed when it holds no finalizer. -/
  | markDeleted
  | setConfigRecord (record : Option SecretBackendConfigSpec)
  | setBMCs (bmcs : List BMC)
  /-- A pass of the configuration controller: `InvalidateCache`. -/
  | invalidateCache

def Step.apply (env : Env) (name : String) : Step → World → World
  | .pass faults now, w => (reconcile env faults now name w).2
  | .relabel labels, w =>
    { w with registry := { w.registry with
        secret := w.registry.secret.map fun s => { s with labels } } }
  | .markDeleted, w =>
    { w with registry := { w.registry with
        secret := w.registry.secret.bind fun s =>
          if s.finalizers.isEmpty then none else some { s with deletionTimestamp := true } } }
  | .setConfigRecord record, w => { w with registry := { w.registry with configRecord := record } }
  | .setBMCs bmcs, w => { w with registry := { w.registry with bmcs } }
  | .invalidateCache, w => { w with factory := (w.factory.invalidateCache).2 }

def runSteps (env : Env) (name : String) : List Step → World → World
  | [], w => w
  | step :: rest, w => runSteps env name rest (step.apply env name w)

/-- The finalizers the record holds, `[]` when there is no record. -/
def World.storedFinalizers (w : World) : List String :=
  (w.registry.secret.map BMCSecret.finalizers).getD []

/-! ## The finalizer over a run -/

/-- The record's finalizers are what the log's updates replay to from `base`, and every
write of the log comes when the cleanup finalizer is persisted. -/
structure FinalizerHistory (base : List String) (w : World) : Prop where
  replay : ∀ s, w.registry.secret = some s → s.finalizers = replayFinalizers base w.log
  guarded : writesGuarded base w.log

section Run

variable (env : Env) (name : String)

theorem reconcile_absent (faults : ClientFaults) (now : Nat) (w : World)
    (absent : w.registry.secret = none) : (reconcile env faults now name w).2 = w := by
  unfold reconcile
  rw [absent]
  cases faults .getSecret <;> rfl

/-- A step on a world with the same record finalizers and the same log keeps the history. -/
theorem FinalizerHistory.of_same {base : List String} {w w' : World} (before : FinalizerHistory base w)
    (log : w'.log = w.log)
    (finalizers : ∀ s', w'.registry.secret = some s' →
      ∃ s, w.registry.secret = some s ∧ s'.finalizers = s.finalizers) :
    FinalizerHistory base w' := by
  refine ⟨fun s' found => ?_, log ▸ before.guarded⟩
  obtain ⟨s, stored, same⟩ := finalizers s' found
  rw [same, log]
  exact before.replay s stored

theorem Step.apply_history (step : Step) {base : List String} {w : World}
    (before : FinalizerHistory base w) : FinalizerHistory base (step.apply env name w) := by
  cases step with
  | pass faults now =>
    cases stored : w.registry.secret with
    | none => simpa [Step.apply, reconcile_absent env name faults now w stored] using before
    | some secret =>
      obtain ⟨fresh, log, guarded, records⟩ :
          PassSound secret.finalizers w (reconcile env faults now name w).2 := reconcile_sound stored
      have persisted := before.replay secret stored
      refine ⟨fun s found => ?_, ?_⟩
      · rw [Step.apply, log, replayFinalizers_append, ← persisted]
        exact records s found
      · rw [Step.apply, log, writesGuarded_append, ← persisted]
        exact ⟨before.guarded, guarded⟩
  | relabel labels =>
    refine before.of_same rfl fun s' found => ?_
    simp only [Step.apply, Option.map_eq_some'] at found
    obtain ⟨s, stored, rfl⟩ := found
    exact ⟨s, stored, rfl⟩
  | markDeleted =>
    refine before.of_same rfl fun s' found => ?_
    simp only [Step.apply, Option.bind_eq_some] at found
    obtain ⟨s, stored, marked⟩ := found
    split at marked
    · cases marked
    · cases marked; exact ⟨s, stored, rfl⟩
  | setConfigRecord record => exact before.of_same rfl fun s' found => ⟨s', found, rfl⟩
  | setBMCs bmcs => exact before.of_same rfl fun s' found => ⟨s', found, rfl⟩
  | invalidateCache => exact before.of_same rfl fun s' found => ⟨s', found, rfl⟩

theorem runSteps_history (steps : List Step) {base : List String} {w : World}
    (before : FinalizerHistory base w) : FinalizerHistory base (runSteps env name steps w) := by
  induction steps generalizing w with
  | nil => exact before
  | cons step rest ih => exact ih (step.apply_history env name before)

/-- Over every run of passes interleaved with relabelling, deletion marking, configuration
and device changes and cache invalidations, from a world whose log starts empty: every
write comes when the log's finalizer updates, replayed from the record's initial
finalizers, hold the cleanup finalizer; that replay is the record's finalizers at the
end; and a pass that finds the deletion marker writes nothing. -/
theorem finalizer_persisted_before_every_write (steps : List Step) (w : World) :
    (∀ pre e post, (runSteps env name steps { w with log := [] }).log = pre ++ e :: post →
      e.isWrite = true → bmcSecretFinalizer ∈ replayFinalizers w.storedFinalizers pre) ∧
    (∀ s, (runSteps env name steps { w with log := [] }).registry.secret = some s →
      s.finalizers = replayFinalizers w.storedFinalizers (runSteps env name steps { w with log := [] }).log) ∧
    ∀ (faults : ClientFaults) (now : Nat) (v : World) (s : BMCSecret),
      v.registry.secret = some s → s.deletionTimestamp = true →
      ∀ e ∈ (reconcile env faults now name v).2.log.drop v.log.length, e.isWrite = false := by
  have start : FinalizerHistory w.storedFinalizers { w with log := [] } :=
    ⟨fun s found => by simp [World.storedFinalizers, show w.registry.secret = some s from found],
      trivial⟩
  have final := runSteps_history env name steps start
  refine ⟨(writesGuarded_iff _ _).mp final.guarded, final.replay, ?_⟩
  intro faults now v s stored marked
  obtain ⟨fresh, log, silent⟩ := reconcile_marked_no_write env faults now name v s stored marked
  rw [log, List.drop_left]
  exact silent

/-- The first pass over a fresh, unlabelled record adds the cleanup finalizer, then writes:
the write comes after the update that persists it. -/
theorem finalizer_persisted_before_first_write :
    (runSteps Env.withCredentials "creds" [.pass noFaults 1]
        { World.initial (some (vaultRecord "" [])) ⟨[], [], false, []⟩ with log := [] }).log =
      [.updateFinalizers [bmcSecretFinalizer], .attempt none ⟨"https://vault", "secret"⟩ "bmc-1"] ++
        .write ⟨"https://vault", "secret"⟩ "bmc/eu/host-1/admin" (secretData "admin" "pw") ::
          [.event "Normal" "Synced" "Successfully synced to 1 backend paths"] ∧
    bmcSecretFinalizer ∈ replayFinalizers [] [.updateFinalizers [bmcSecretFinalizer], .attempt none ⟨"https://vault", "secret"⟩ "bmc-1"] :=
  have run : (runSteps Env.withCredentials "creds" [.pass noFaults 1]
        { World.initial (some (vaultRecord "" [])) ⟨[], [], false, []⟩ with log := [] }).log =
      [.updateFinalizers [bmcSecretFinalizer], .attempt none ⟨"https://vault", "secret"⟩ "bmc-1"] ++
        .write ⟨"https://vault", "secret"⟩ "bmc/eu/host-1/admin" (secretData "admin" "pw") ::
          [.event "Normal" "Synced" "Successfully synced to 1 backend paths"] := by decide
  ⟨run, (finalizer_persisted_before_every_write Env.withCredentials "creds" [.pass noFaults 1]
    (World.initial (some (vaultRecord "" [])) ⟨[], [], false, []⟩)).1 _ _ _ run rfl⟩

end Run

/-! ## Deletion after a sync to an engine -/

/-- A configuration with one engine `a` on mount `team-a`, selecting records labelled `team`. -/
def teamEngineRecord : SecretBackendConfigSpec := vaultRecord "" [⟨"a", "team-a", "", "team"⟩]

/-- A record labelled `team: x`, with no finalizer yet. -/
def teamSecret : BMCSecret := ⟨[("team", "x")], [], false, []⟩

/-- A sync pass, the record marked for deletion, and the deletion pass. -/
def engineSyncThenDelete : World :=
  runSteps Env.withCredentials "creds" [.pass noFaults 1, .markDeleted, .pass noFaults 2]
    (World.initial (some teamEngineRecord) teamSecret)

/-- The sync pass writes the record to the engine mount `team-a` and records the path
`Success`; the deletion pass, with every call succeeding, deletes the path from the default
mount `secret` only, removes the finalizer and the record, and the engine's copy stays. -/
theorem deletion_leaves_engine_copy :
    .write ⟨"https://vault", "team-a"⟩ "bmc/eu/host-1/admin" (secretData "admin" "pw") ∈
        (runSteps Env.withCredentials "creds" [.pass noFaults 1]
          (World.initial (some teamEngineRecord) teamSecret)).log ∧
      ((runSteps Env.withCredentials "creds" [.pass noFaults 1]
          (World.initial (some teamEngineRecord) teamSecret)).registry.statuses
            (syncStatusName "creds")).map (·.backendPaths.map fun e => (e.path, e.syncStatus)) =
        some [("bmc/eu/host-1/admin", "Success")] ∧
      engineSyncThenDelete.log.filter (· matches .delete ..) =
        [.delete ⟨"https://vault", "secret"⟩ "bmc/eu/host-1/admin"] ∧
      engineSyncThenDelete.registry.secret = none ∧
      engineSyncThenDelete.remote.data ⟨"https://vault", "team-a"⟩ "bmc/eu/host-1/admin" =
        some (secretData "admin" "pw") := by
  decide

end BmcSecretOperator
