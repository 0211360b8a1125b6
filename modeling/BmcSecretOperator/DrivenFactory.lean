import BmcSecretOperator.Dispatch
import BmcSecretOperator.PassRelation

/-!
# The factory as the controller drives it

Source: bmcsecret_controller.go:72-618 (`Reconcile` and the paths it takes) and
secretbackendconfig_controller.go:46-83 (`InvalidateCache` on a configuration change), as
modelled in `BmcSecretOperator.Controller`, against factory.go as modelled in
`BmcSecretOperator.Factory`.

The controller reaches the factory only through the factory's public operations: every run
takes the factory and the configuration record where a run of factory events takes them,
and the events change the record only where the run does (`controller_runs_drive_factory`).
What is proved of factory runs therefore holds along the controller's runs. While the
record stays and the environment serves it without fault, the cache keeps agreeing with it,
so every pass of such a run, on a warm cache or a cold one, attempts exactly the triples
the record routes (`reconcile_routes_from_record`).
-/

set_option autoImplicit false

namespace BmcSecretOperator

/-- A step other than a change of the configuration record. -/
def Step.keepsRecord : Step → Bool
  | .setConfigRecord _ => false
  | _ => true

/-- The factory events `events` take `w`'s factory and configuration record to `w'`'s. -/
def Drives (env : Env) (events : List FactoryEvent) (w w' : World) : Prop :=
  runFactory env events ⟨w.factory, w.registry.configRecord⟩ = ⟨w'.factory, w'.registry.configRecord⟩

/-- `w'` is `w` after factory operations alone: events that keep the record. -/
def ByOperations (env : Env) (w w' : World) : Prop :=
  ∃ events : List FactoryEvent, (∀ e ∈ events, e.keepsRecord) ∧ Drives env events w w'

theorem runFactory_append (env : Env) (first second : List FactoryEvent) (w : FactoryWorld) :
    runFactory env (first ++ second) w = runFactory env second (runFactory env first w) := by
  induction first generalizing w with
  | nil => rfl
  | cons event rest ih => exact ih _

theorem Drives.append {env : Env} {first second : List FactoryEvent} {w1 w2 w3 : World}
    (d1 : Drives env first w1 w2) (d2 : Drives env second w2 w3) :
    Drives env (first ++ second) w1 w3 := by
  unfold Drives at *
  rw [runFactory_append, d1, d2]

namespace ByOperations

variable {env : Env}

theorem refl (w : World) : ByOperations env w w := ⟨[], nofun, rfl⟩

theorem trans {w1 w2 w3 : World} (first : ByOperations env w1 w2)
    (second : ByOperations env w2 w3) : ByOperations env w1 w3 :=
  let ⟨e1, k1, d1⟩ := first
  let ⟨e2, k2, d2⟩ := second
  ⟨e1 ++ e2, fun e mem => (List.mem_append.mp mem).elim (k1 e) (k2 e), d1.append d2⟩

/-- Every kind of change a pass makes is a run of factory operations on the record. -/
theorem passRelation (faults : ClientFaults) (now : Nat) (name : String) :
    PassRelation env faults now name (ByOperations env) where
  refl := refl
  trans := trans
  operation event keeps _ := ⟨[event], by simpa using keeps, by
    cases event <;> first | rfl | cases keeps⟩
  quiet factory _ record := ⟨[], nofun, by
    show (⟨_, _⟩ : FactoryWorld) = ⟨_, _⟩
    rw [factory, record]⟩
  recordSync _ _ _ _ _ _ _ _ := ⟨[], nofun, rfl⟩
  deleteStatus _ := ⟨[], nofun, rfl⟩

end ByOperations

section Run

variable (env : Env) (name : String)

theorem Step.apply_drives (step : Step) (w : World) :
    ∃ events : List FactoryEvent, (step.keepsRecord → ∀ e ∈ events, e.keepsRecord) ∧
      Drives env events w (step.apply env name w) := by
  cases step with
  | pass faults now =>
    obtain ⟨events, keeps, drives⟩ := (ByOperations.passRelation faults now name).reconcile_rel w
    exact ⟨events, fun _ => keeps, drives⟩
  | invalidateCache => exact ⟨[.invalidateCache], fun _ => by simp [FactoryEvent.keepsRecord], rfl⟩
  | setConfigRecord record => exact ⟨[.setRecord record], nofun, rfl⟩
  | relabel | markDeleted | setBMCs => exact ⟨[], fun _ => nofun, rfl⟩

theorem runSteps_drives (steps : List Step) (w : World) :
    ∃ events : List FactoryEvent,
      ((∀ step ∈ steps, step.keepsRecord) → ∀ e ∈ events, e.keepsRecord) ∧
        Drives env events w (runSteps env name steps w) := by
  induction steps generalizing w with
  | nil => exact ⟨[], fun _ => nofun, rfl⟩
  | cons step rest ih =>
    obtain ⟨first, firstKeeps, firstDrives⟩ := step.apply_drives env name w
    obtain ⟨later, laterKeeps, laterDrives⟩ := ih (step.apply env name w)
    refine ⟨first ++ later, fun keeps e mem => ?_, firstDrives.append laterDrives⟩
    rcases List.mem_append.mp mem with early | late
    · exact firstKeeps (keeps step (.head _)) e early
    · exact laterKeeps (fun s later => keeps s (.tail _ later)) e late

/-- Along every run that keeps a configuration record the environment serves, the record
stays and the factory's cache keeps agreeing with it. -/
theorem runSteps_agrees {spec : SecretBackendConfigSpec} {vc : VaultConfig}
    (serves : Serves env spec vc) (steps : List Step) (keeps : ∀ step ∈ steps, step.keepsRecord)
    (w : World) (record : w.registry.configRecord = some spec)
    (agrees : CacheAgrees spec vc w.factory.factory) :
    (runSteps env name steps w).registry.configRecord = some spec ∧
      CacheAgrees spec vc (runSteps env name steps w).factory.factory := by
  obtain ⟨events, operations, drives⟩ := runSteps_drives env name steps w
  have kept := runFactory_agrees serves events ⟨w.factory, w.registry.configRecord⟩ (operations keeps)
    record agrees
  rwa [drives] at kept

end Run

/-! ## Routing along runs -/

/-- After any run that keeps the configuration record, from a world whose factory cache
agrees with the record (a fresh factory does), with the record served without fault: a pass
over a record that is not marked for deletion, with every registry call and credential
extraction succeeding, attempts exactly `routedTriples` behind the global gate: the
declared engines whose label spec the labels satisfy (`key` and `key=` asking for the key
with any value, `key=value` for that value), each on its own mount, times the referencing
devices, engine-major; the default mount times the devices when no engine is declared;
nothing when the gate, which asks for a non-empty value of the global sync label, rejects
the labels. The cache the run leaves may be warm: its store and engine bindings were built
by earlier passes of the run. -/
theorem reconcile_routes_from_record (env : Env) (name : String) (steps : List Step) (w : World)
    (spec : SecretBackendConfigSpec) (vc : VaultConfig) (record : w.registry.configRecord = some spec)
    (serves : Serves env spec vc) (agrees : CacheAgrees spec vc w.factory.factory)
    (keeps : ∀ step ∈ steps, step.keepsRecord) (faults : ClientFaults) (now : Nat)
    (secret : BMCSecret) (username password : String)
    (stored : (runSteps env name steps w).registry.secret = some secret)
    (alive : secret.deletionTimestamp = false) (calls : ∀ call, faults call = none)
    (credentials : ∀ finalizers,
      env.extractCredentials { secret with finalizers } = .ok (username, password)) :
    routes (reconcile env faults now name (runSteps env name steps w)).2.log =
      routes (runSteps env name steps w).log ++ (if syncLabelGate spec.syncLabel secret.labels then
        routedTriples vc secret.labels
          ((runSteps env name steps w).registry.bmcs.filter (·.bmcSecretRef = name)) else []) := by
  obtain ⟨recorded, agreed⟩ := runSteps_agrees env name serves steps keeps w record agrees
  exact reconcile_routes env faults now name _ secret spec vc username password stored alive recorded
    serves agreed calls credentials

/-- The team record's vault settings: one engine `a` on mount `team-a`. -/
def teamVaultConfig : VaultConfig :=
  ⟨"https://vault", "", none, "", none, [⟨"a", "team-a", "", "team"⟩]⟩

/-- The environment with credentials serves the team record without fault. -/
theorem serves_team_record : Serves Env.withCredentials teamEngineRecord teamVaultConfig :=
  ⟨rfl, rfl, fun _ => rfl, fun _ _ => ⟨_, rfl⟩, fun _ => rfl⟩

/-- The second pass over the team record, on the cache the first pass warmed, attempts the
engine `a` on `team-a` for the one device again. -/
theorem reconcile_routes_from_record_on_warm_cache :
    ((World.initial (some teamEngineRecord) teamSecret).registry.configRecord = some teamEngineRecord ∧
      Serves Env.withCredentials teamEngineRecord teamVaultConfig ∧
      CacheAgrees teamEngineRecord teamVaultConfig
        (World.initial (some teamEngineRecord) teamSecret).factory.factory ∧
      (∀ step ∈ [Step.pass noFaults 1], step.keepsRecord) ∧
      (runSteps Env.withCredentials "creds" [.pass noFaults 1]
        (World.initial (some teamEngineRecord) teamSecret)).registry.secret =
          some { teamSecret with finalizers := [bmcSecretFinalizer] } ∧
      teamSecret.deletionTimestamp = false ∧ (∀ call, noFaults call = none) ∧
      ∀ finalizers, Env.withCredentials.extractCredentials
        { { teamSecret with finalizers := [bmcSecretFinalizer] } with finalizers } = .ok ("admin", "pw")) ∧
    routes (reconcile Env.withCredentials noFaults 2 "creds"
        (runSteps Env.withCredentials "creds" [.pass noFaults 1]
          (World.initial (some teamEngineRecord) teamSecret))).2.log =
      [(some "a", ⟨"https://vault", "team-a"⟩, "bmc-1"), (some "a", ⟨"https://vault", "team-a"⟩, "bmc-1")] :=
  have stored : (runSteps Env.withCredentials "creds" [.pass noFaults 1]
      (World.initial (some teamEngineRecord) teamSecret)).registry.secret =
        some { teamSecret with finalizers := [bmcSecretFinalizer] } := by decide
  have route := reconcile_routes_from_record Env.withCredentials "creds" [.pass noFaults 1]
    (World.initial (some teamEngineRecord) teamSecret) teamEngineRecord teamVaultConfig rfl
    serves_team_record (CacheAgrees.empty _ _) (by decide) noFaults 2
    { teamSecret with finalizers := [bmcSecretFinalizer] } "admin" "pw" stored rfl (fun _ => rfl)
    (fun _ => rfl)
  ⟨⟨rfl, serves_team_record, CacheAgrees.empty _ _, by decide, stored, rfl, fun _ => rfl,
      fun _ => rfl⟩,
    route.trans (by decide)⟩

end BmcSecretOperator
