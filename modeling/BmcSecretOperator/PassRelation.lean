import BmcSecretOperator.Reconcile

/-!
# What every part of a pass satisfies

Source: bmcsecret_controller.go:72-618 (`Reconcile`, the two sync paths and
`handleDeletion`), as modelled in `BmcSecretOperator.Reconcile`.

A pass changes the world in four ways only: a factory operation on the registry's
configuration record, the end of a sync path (`recordSync`), the removal of the record's
status object in `handleDeletion`, and changes that leave the factory, the status objects and
the configuration record alone (events, finalizer updates, deletes). A relation between
worlds that is reflexive, transitive and holds of each of these (`PassRelation`) holds
between a world and the world after any pass (`PassRelation.reconcile_rel`). The walk over the
pass is done once here; the invariants of runs are instances of it.
-/

set_option autoImplicit false

namespace BmcSecretOperator

/-- A factory event other than a change of the configuration record. -/
def FactoryEvent.keepsRecord : FactoryEvent → Bool
  | .setRecord _ => false
  | _ => true

theorem FactoryEvent.step_record (env : Env) {event : FactoryEvent} (keeps : event.keepsRecord)
    (w : FactoryWorld) : (event.step env w).record = w.record := by
  cases event <;> first | rfl | cases keeps

/-- A relation between worlds that holds of every kind of change a pass makes. -/
structure PassRelation (env : Env) (faults : ClientFaults) (now : Nat) (name : String)
    (R : World → World → Prop) : Prop where
  refl : ∀ w, R w w
  trans : ∀ {w1 w2 w3}, R w1 w2 → R w2 w3 → R w1 w3
  /-- A factory operation on the registry's configuration record. -/
  operation : ∀ event : FactoryEvent, event.keepsRecord → ∀ w : World,
    R w { w with factory := (event.step env ⟨w.factory, w.registry.configRecord⟩).state }
  /-- A change that leaves the factory, the status objects and the record alone. -/
  quiet : ∀ {w w' : World}, w'.factory = w.factory → w'.registry.statuses = w.registry.statuses →
    w'.registry.configRecord = w.registry.configRecord → R w w'
  /-- The end of a sync path, after a loop over `ps` from the world's fresh accumulators. -/
  recordSync : ∀ (regionLabelKey username password : String) (ps : List (Target × BMC)) (w : World)
    (totalPaths : Nat) (summary : String × String × String), totalPaths = ps.length →
    R w (w.recordSync faults now name (syncPairs env regionLabelKey username password now ps w.syncStart)
      totalPaths summary)
  /-- The removal of the record's status object in `handleDeletion`. -/
  deleteStatus : ∀ w : World,
    R w { w with registry := { w.registry with statuses := deleteSyncStatus faults name w.registry.statuses } }

/-- A sync loop from a world's fresh accumulators counts exactly its entries, one per pair,
each `Success` or `Failed`. -/
theorem syncPairs_counted (env : Env) (now : Nat) (regionLabelKey username password : String)
    (ps : List (Target × BMC)) (w : World) :
    (∀ e ∈ (syncPairs env regionLabelKey username password now ps w.syncStart).backendPaths,
        e.syncStatus = "Success" ∨ e.syncStatus = "Failed") ∧
      (syncPairs env regionLabelKey username password now ps w.syncStart).backendPaths.length =
        ps.length ∧
      (syncPairs env regionLabelKey username password now ps w.syncStart).syncSuccess =
        (syncPairs env regionLabelKey username password now ps w.syncStart).backendPaths.countP
          (·.syncStatus = "Success") ∧
      (syncPairs env regionLabelKey username password now ps w.syncStart).syncErrors =
        (syncPairs env regionLabelKey username password now ps w.syncStart).backendPaths.countP
          (·.syncStatus = "Failed") := by
  obtain ⟨names, recorded, successes, errors⟩ :=
    syncPairs_entries env regionLabelKey username password now ps w.syncStart
  simp only [World.syncStart_backendPaths, World.syncStart_syncSuccess, World.syncStart_syncErrors,
    List.length_nil, List.drop_zero, Nat.zero_add] at names recorded successes errors
  exact ⟨recorded, by simpa using congrArg List.length names, successes, errors⟩

namespace PassRelation

variable {env : Env} {faults : ClientFaults} {now : Nat} {name : String}
  {R : World → World → Prop} (rel : PassRelation env faults now name R)
include rel

/-- A factory call of the pass is the factory event `event` on the registry's record. -/
theorem call {α : Type} {op : Option SecretBackendConfigSpec → FactoryState → α × FactoryState}
    (event : FactoryEvent) (keeps : event.keepsRecord)
    (step : ∀ record s, (event.step env ⟨s, record⟩).state = (op record s).2) {w w1 : World} {a : α}
    (h : w.factoryCall op = (a, w1)) : R w w1 := by
  have done := rel.operation event keeps w
  rw [step] at done
  rwa [show w1 = (w.factoryCall op).2 by rw [h]]

section Calls

variable {w w1 : World}

theorem getBackend {a : Except String Store} (h : w.factoryCall (FactoryState.getBackend env) = (a, w1)) :
    R w w1 :=
  rel.call .getBackend rfl (fun _ _ => rfl) h

theorem getPathBuilder {a : Except String PathBuilder}
    (h : w.factoryCall (FactoryState.getPathBuilder env) = (a, w1)) : R w w1 :=
  rel.call .getPathBuilder rfl (fun _ _ => rfl) h

theorem getRegionLabelKey {a : Except String String}
    (h : w.factoryCall (FactoryState.getRegionLabelKey env) = (a, w1)) : R w w1 :=
  rel.call .getRegionLabelKey rfl (fun _ _ => rfl) h

theorem getSyncLabel {a : Except String String}
    (h : w.factoryCall (FactoryState.getSyncLabel env) = (a, w1)) : R w w1 :=
  rel.call .getSyncLabel rfl (fun _ _ => rfl) h

theorem getEngineBackends {labels : Labels} {a : Except String (List EngineBackend)}
    (h : w.factoryCall (fun record => FactoryState.getEngineBackends env record labels) = (a, w1)) :
    R w w1 :=
  rel.call (.getEngineBackends labels) rfl (fun _ _ => rfl) h

theorem hasMultiEngineConfig {a : Except String Bool}
    (h : w.factoryCall (FactoryState.hasMultiEngineConfig env) = (a, w1)) : R w w1 :=
  rel.call .hasMultiEngineConfig rfl (fun _ _ => rfl) h

end Calls

theorem event (type reason message : String) (w : World) : R w (w.event type reason message) :=
  rel.quiet rfl rfl rfl

theorem updateSecret {fault : Option String} {secret : BMCSecret} {w w1 : World}
    {e : Option String} (h : w.updateSecret fault secret = (e, w1)) : R w w1 := by
  rw [show w1 = (w.updateSecret fault secret).2 by rw [h]]
  cases fault <;> exact rel.quiet rfl rfl rfl

theorem reconcileSingleEngine_rel (bmcs : List BMC) (username password : String) (w : World) :
    R w (reconcileSingleEngine env faults now name bmcs username password w).2 := by
  unfold reconcileSingleEngine
  split
  next h1 => exact rel.trans (rel.getBackend h1) (rel.event _ _ _ _)
  next h1 =>
    split
    next h2 => exact rel.trans (rel.getBackend h1) (rel.getPathBuilder h2)
    next h2 =>
      have second := rel.trans (rel.getBackend h1) (rel.getPathBuilder h2)
      split
      next h3 => exact rel.trans second (rel.getRegionLabelKey h3)
      next h3 =>
        refine rel.trans (rel.trans second (rel.getRegionLabelKey h3)) ?_
        rw [syncDevices_eq]
        exact rel.recordSync _ _ _ _ _ _ _ (List.length_map _ _).symm

theorem reconcileMultiEngine_rel (secret : BMCSecret) (bmcs : List BMC) (username password : String)
    (w : World) : R w (reconcileMultiEngine env faults now name secret bmcs username password w).2 := by
  unfold reconcileMultiEngine
  split
  next h1 => exact rel.getRegionLabelKey h1
  next h1 =>
    have first := rel.getRegionLabelKey h1
    split
    next h2 => exact rel.trans (rel.trans first (rel.getEngineBackends h2)) (rel.event _ _ _ _)
    next h2 =>
      have second := rel.trans first (rel.getEngineBackends h2)
      dsimp only
      split
      · exact rel.trans second (rel.event _ _ _ _)
      · refine rel.trans second ?_
        rw [syncEngines_eq]
        exact rel.recordSync _ _ _ _ _ _ _ (syncPairs_counted env now _ _ _ _ _).2.1

theorem syncBMCSecret_rel (secret : BMCSecret) (w : World) :
    R w (syncBMCSecret env faults now name secret w).2 := by
  unfold syncBMCSecret
  split
  · exact rel.event _ _ _ _
  · split
    · exact rel.event _ _ _ _
    · split
      · exact rel.event _ _ _ _
      · split
        next h1 => exact rel.hasMultiEngineConfig h1
        next h1 => exact rel.trans (rel.hasMultiEngineConfig h1) (rel.reconcileMultiEngine_rel _ _ _ _ _)
        next h1 => exact rel.trans (rel.hasMultiEngineConfig h1) (rel.reconcileSingleEngine_rel _ _ _ _)

theorem deletePaths_rel (backend : Store) (pathBuilder : PathBuilder)
    (regionLabelKey username : String) (bmcs : List BMC) (w : World) :
    R w (deletePaths env backend pathBuilder regionLabelKey username bmcs w) := by
  induction bmcs generalizing w with
  | nil => exact rel.refl w
  | cons bmc rest ih =>
    unfold deletePaths
    split
    · exact ih w
    · refine rel.trans ?_ (ih _)
      exact rel.quiet rfl rfl rfl

theorem removeFinalizer_rel (secret : BMCSecret) (w : World) : R w (removeFinalizer faults secret w).2 := by
  unfold removeFinalizer
  split <;> exact rel.updateSecret ‹_›

theorem handleDeletion_rel (secret : BMCSecret) (w : World) :
    R w (handleDeletion env faults name secret w).2 := by
  unfold handleDeletion
  split
  · exact rel.refl w
  · have cleanup := rel.deleteStatus w
    dsimp only
    split
    next h1 =>
      exact rel.trans (rel.trans cleanup (rel.getBackend h1))
        (rel.trans (rel.event _ _ _ _) (rel.removeFinalizer_rel _ _))
    next h1 =>
      have first := rel.trans cleanup (rel.getBackend h1)
      split
      next h2 => exact rel.trans (rel.trans first (rel.getPathBuilder h2)) (rel.removeFinalizer_rel _ _)
      next h2 =>
        have second := rel.trans first (rel.getPathBuilder h2)
        split
        next h3 =>
          exact rel.trans (rel.trans second (rel.getRegionLabelKey h3)) (rel.removeFinalizer_rel _ _)
        next h3 =>
          have third := rel.trans second (rel.getRegionLabelKey h3)
          split
          · exact rel.trans third (rel.removeFinalizer_rel _ _)
          · split
            · exact rel.trans third (rel.removeFinalizer_rel _ _)
            · exact rel.trans (rel.trans third (rel.deletePaths_rel _ _ _ _ _ _))
                (rel.removeFinalizer_rel _ _)

/-- The relation holds between a world and the world after a pass. -/
theorem reconcile_rel (w : World) : R w (reconcile env faults now name w).2 := by
  unfold reconcile
  split
  · exact rel.refl w
  · exact rel.refl w
  · split
    next h1 => exact rel.getSyncLabel h1
    next h1 =>
      have first := rel.getSyncLabel h1
      split
      · exact first
      · split
        · exact rel.trans first (rel.handleDeletion_rel _ _)
        · split
          · exact rel.trans first (rel.syncBMCSecret_rel _ _)
          · dsimp only
            split
            next h2 => exact rel.trans first (rel.updateSecret h2)
            next h2 => exact rel.trans (rel.trans first (rel.updateSecret h2)) (rel.syncBMCSecret_rel _ _)

end PassRelation

end BmcSecretOperator
