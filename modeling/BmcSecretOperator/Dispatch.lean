import BmcSecretOperator.Controller
import BmcSecretOperator.PassRelation

/-!
# Routing: the engines and stores a pass attempts

Source: bmcsecret_controller.go:102-116 (the global sync-label gate), :164-178 (the choice of
routing mode), :648-673 (the watch-level label predicate of `SetupWithManager`),
factory.go:178-188 (`loadConfig`), :452-541 (`GetEngineBackends`, `HasMultiEngineConfig`)
and multi_engine.go:38-116 (`parseSyncLabel`, `MatchesLabels`).

With the configuration record present and served without fault (`Serves`), a pass whose
factory cache agrees with the record (`CacheAgrees`: nothing cached, or only what the record
gives) attempts exactly the (engine, store, device) triples `routedTriples` names, behind the
global gate (`reconcile_routes`), and every factory operation keeps the cache agreeing
(`runFactory_agrees`). The gate asks for a non-empty value where the watch filter asks only
for the key: a record carrying the global label with the empty value passes the filter, and
the pass drops it without a trace; and a spec `key=` matches any value of the key
(`sync_label_gate_drops_empty_value`). Every registry read of the
factory treats a transient error like a missing record, so one failed read routes a pass
to the default mount while the record declares engines
(`transient_read_routes_to_default_mount`).
-/

set_option autoImplicit false

namespace BmcSecretOperator

/-- The (engine, store, device) triples the routing design gives for a record with vault
settings `vc`, labels `labels` and referencing devices `bmcs`: every declared engine whose
label spec the labels satisfy, on its own mount, engine-major, times the devices; the
default mount times the devices when no engine is declared. -/
def routedTriples (vc : VaultConfig) (labels : Labels) (bmcs : List BMC) :
    List (Option String × Destination × String) :=
  if vc.secretEngines.isEmpty then
    bmcs.map fun d => (none, ⟨vc.address, orDefault vc.mountPath "secret"⟩, d.name)
  else (vc.secretEngines.filter fun e => labelSpecHolds labels e.syncLabel).flatMap
    fun e => bmcs.map fun d => (some e.name, ⟨vc.address, e.mountPath⟩, d.name)

/-- Every construction the vault settings `vc` ask for succeeds, whatever its serial and
whatever its mount: the default store's and every engine's. -/
def ConstructsFor (env : Env) (vc : VaultConfig) : Prop :=
  ∀ n mount, ∃ v, (Vault.newVaultBackend (env.vaultServer n)
    { (loadVaultConfigFromCRD vc).toClientConfig with mountPath := mount } none).1 = .ok v

/-- The environment serves the configuration record `spec`, a vault record with settings
`vc`, without fault: every registry read succeeds, every construction the settings ask for
succeeds, and every template compiles. -/
structure Serves (env : Env) (spec : SecretBackendConfigSpec) (vc : VaultConfig) : Prop where
  isVault : spec.backend = "vault"
  settings : spec.vaultConfig = some vc
  reads : ∀ n, env.readFault n = none
  constructs : ConstructsFor env vc
  compiles : ∀ t, env.templates.parse t = none

/-- The binding is one `parseSecretEngineConfig` builds for the engine from the vault
settings `base`: a store on the engine's mount, the engine's name and its label spec. -/
def EngineBackend.Binds (base : VaultConfigInternal) (eb : EngineBackend)
    (engine : SecretEngineConfig) : Prop :=
  ∃ store pb, eb = EngineBackend.ofSpec store engine.name pb engine.syncLabel ∧
    store.config = base.engineClientConfig engine

/-- The cache holds only what the record with vault settings `vc` gives: its
configuration, a default store built from its settings, and the bindings of its engines
in order. -/
structure CacheAgrees (spec : SecretBackendConfigSpec) (vc : VaultConfig) (f : BackendFactory) :
    Prop where
  config : ∀ c ∈ f.config, loadConfigFromCRD spec = .ok c
  backend : ∀ b ∈ f.backend, b.config = (loadVaultConfigFromCRD vc).toClientConfig
  engines : f.engineBackends = [] ∨
    List.Forall₂ (EngineBackend.Binds (loadVaultConfigFromCRD vc)) f.engineBackends vc.secretEngines

theorem CacheAgrees.empty (spec : SecretBackendConfigSpec) (vc : VaultConfig) :
    CacheAgrees spec vc .empty :=
  ⟨nofun, nofun, .inl rfl⟩

/-- Bindings of engines route, under any labels, to exactly the engines whose label spec
the labels satisfy, each on its own mount, in order. -/
theorem routes_of_binds {base : VaultConfigInternal} {ebs : List EngineBackend}
    {engines : List SecretEngineConfig} (binds : List.Forall₂ (EngineBackend.Binds base) ebs engines)
    (labels : Labels) :
    (filterEnginesByLabels ebs labels).map (fun eb => (some eb.engineName, eb.backend.destination)) =
      (engines.filter fun e => labelSpecHolds labels e.syncLabel).map
        fun e => (some e.name, ⟨base.address, e.mountPath⟩) := by
  induction binds with
  | nil => rfl
  | @cons eb engine _ _ bind _ ih =>
    obtain ⟨store, pb, rfl, config⟩ := bind
    have matching := matchesLabels_iff store engine.name pb engine.syncLabel labels
    have mounted : store.destination = ⟨base.address, engine.mountPath⟩ := by
      simp [Store.destination, config, VaultConfigInternal.engineClientConfig,
        VaultConfigInternal.toClientConfig]
    have named : (EngineBackend.ofSpec store engine.name pb engine.syncLabel).engineName =
      engine.name := rfl
    have held : (EngineBackend.ofSpec store engine.name pb engine.syncLabel).backend = store := rfl
    by_cases holds : labelSpecHolds labels engine.syncLabel <;>
      simp [filterEnginesByLabels, List.filter_cons, matching, holds, mounted, named, held, ← ih]

/-! ## The factory when no call fails -/

namespace FactoryState

variable {env : Env} {spec : SecretBackendConfigSpec} {vc : VaultConfig} {c : Config}

theorem readRecord_reliable (reads : ∀ n, env.readFault n = none) (s : FactoryState) :
    readRecord env (some spec) s = (.ok spec, s.bumpReads) := by
  unfold readRecord
  rw [reads]

theorem loadConfig_reliable (reads : ∀ n, env.readFault n = none) (s : FactoryState) :
    loadConfig env (some spec) s = (loadConfigFromCRD spec, s.bumpReads) := by
  unfold loadConfig
  rw [readRecord_reliable reads]

theorem hasMultiEngineConfig_reliable (reads : ∀ n, env.readFault n = none) (s : FactoryState) :
    hasMultiEngineConfig env (some spec) s = (.ok !(declaredEngines spec).isEmpty, s.bumpReads) := by
  unfold hasMultiEngineConfig
  rw [readRecord_reliable reads]

theorem newVaultBackend_reliable (config : Vault.Config) (load : Nat) (s : FactoryState)
    (built : ∃ v, (Vault.newVaultBackend (env.vaultServer s.ledger.constructions) config none).1 = .ok v) :
    ∃ s', newVaultBackend env config load s = (.ok ⟨s.ledger.constructions, config, load⟩, s') := by
  obtain ⟨v, built⟩ := built
  unfold newVaultBackend
  rw [built]
  exact ⟨_, rfl⟩

/-- With every construction succeeding and every template compiling, the engine batch is
built, one binding per declared engine. -/
theorem parseSecretEngineConfig_reliable (constructs : ConstructsFor env vc)
    (compiles : ∀ t, env.templates.parse t = none) (load : Nat) :
    ∀ (engines : List SecretEngineConfig) (s : FactoryState),
      ∃ ebs s', parseSecretEngineConfig env (loadVaultConfigFromCRD vc) load engines s = (.ok ebs, s') ∧
        List.Forall₂ (EngineBackend.Binds (loadVaultConfigFromCRD vc)) ebs engines
  | [], s => ⟨[], s, rfl, .nil⟩
  | engine :: rest, s => by
    obtain ⟨s1, built⟩ := newVaultBackend_reliable ((loadVaultConfigFromCRD vc).engineClientConfig engine)
      load s (constructs _ engine.mountPath)
    obtain ⟨ebs, s2, parsed, binds⟩ := parseSecretEngineConfig_reliable constructs compiles load rest s1
    refine ⟨EngineBackend.ofSpec ⟨s.ledger.constructions,
        (loadVaultConfigFromCRD vc).engineClientConfig engine, load⟩ engine.name
        ⟨orDefault engine.pathTemplate defaultPathTemplate, load⟩ engine.syncLabel :: ebs, s2, ?_,
      .cons ⟨_, _, rfl, rfl⟩ binds⟩
    rw [parseSecretEngineConfig, built]
    simp only [newPathBuilder, compiles, parsed]

/-- The configuration the record gives, cached or loaded; nothing else in the cache
changes. -/
theorem ensureConfig_record (reads : ∀ n, env.readFault n = none)
    (loaded : loadConfigFromCRD spec = .ok c) (s : FactoryState)
    (configured : ∀ c' ∈ s.factory.config, loadConfigFromCRD spec = .ok c') :
    ∃ s', ensureConfig env (some spec) s = (.ok c, s') ∧ s'.factory.config = some c ∧
      s'.factory.backend = s.factory.backend ∧ s'.factory.engineBackends = s.factory.engineBackends := by
  unfold ensureConfig
  cases cached : s.factory.config with
  | some c' =>
    obtain rfl : c' = c := by simpa [loaded] using (configured c' cached).symm
    exact ⟨s, rfl, cached, rfl, rfl⟩
  | none =>
    exact ⟨s.bumpReads.setConfig c s.ledger.reads, by simp only [loadConfig_reliable reads, loaded],
      rfl, rfl, rfl⟩

theorem ensureConfig_agrees (reads : ∀ n, env.readFault n = none)
    (loaded : loadConfigFromCRD spec = .ok c) (s : FactoryState) (agrees : CacheAgrees spec vc s.factory) :
    ∃ s', ensureConfig env (some spec) s = (.ok c, s') ∧ s'.factory.config = some c ∧
      CacheAgrees spec vc s'.factory := by
  obtain ⟨s', loads, configured, backend, engines⟩ := ensureConfig_record reads loaded s agrees.config
  refine ⟨s', loads, configured, fun c' held => ?_, backend ▸ agrees.backend, engines ▸ agrees.engines⟩
  obtain rfl : c = c' := Option.some.inj (configured.symm.trans held)
  exact loaded

theorem getConfigField_agrees (reads : ∀ n, env.readFault n = none)
    (loaded : loadConfigFromCRD spec = .ok c) (field : Config → String) (s : FactoryState)
    (agrees : CacheAgrees spec vc s.factory) :
    ∃ s', getConfigField env (some spec) field s = (.ok (field c), s') ∧ CacheAgrees spec vc s'.factory := by
  obtain ⟨s', loads, -, agrees'⟩ := ensureConfig_agrees reads loaded s agrees
  refine ⟨s', ?_, agrees'⟩
  unfold getConfigField
  rw [loads]
  rfl

/-- `GetBackend` on a cache that agrees with the record serves, or builds, a store from
the record's vault settings. -/
theorem getBackend_agrees (serves : Serves env spec vc) (s : FactoryState)
    (agrees : CacheAgrees spec vc s.factory) :
    ∃ b s', getBackend env (some spec) s = (.ok b, s') ∧
      b.config = (loadVaultConfigFromCRD vc).toClientConfig ∧ CacheAgrees spec vc s'.factory := by
  unfold getBackend
  cases held : s.factory.backend with
  | some b => exact ⟨b, s, rfl, agrees.backend b held, agrees⟩
  | none =>
    obtain ⟨c, loaded⟩ : ∃ c, loadConfigFromCRD spec = .ok c := ⟨_, rfl⟩
    have facts := loadConfigFromCRD_ok loaded
    obtain ⟨s2, built⟩ := newVaultBackend_reliable (loadVaultConfigFromCRD vc).toClientConfig
      s.ledger.reads s.bumpReads (serves.constructs _ _)
    refine ⟨⟨s.ledger.constructions, (loadVaultConfigFromCRD vc).toClientConfig, s.ledger.reads⟩,
      s2.setBackend ⟨s.ledger.constructions, (loadVaultConfigFromCRD vc).toClientConfig,
        s.ledger.reads⟩ c s.ledger.reads, ?_, rfl,
      ⟨fun c' held => by obtain rfl : c = c' := Option.some.inj held; exact loaded,
        fun b' held => by obtain rfl := Option.some.inj held; rfl, ?_⟩⟩
    · dsimp only
      rw [loadConfig_reliable serves.reads, loaded]
      dsimp only
      unfold createBackend
      rw [if_pos (by rw [facts.1, serves.isVault]; rfl), facts.2.1, serves.settings, Option.map_some']
      dsimp only
      rw [built]
      rfl
    · have same := (newVaultBackend_inv built).1
      simpa [setBackend, same, bumpReads] using agrees.engines

/-- `GetPathBuilder` with every template compiling serves a template; the cache still
agrees. -/
theorem getPathBuilder_agrees (serves : Serves env spec vc) (s : FactoryState)
    (agrees : CacheAgrees spec vc s.factory) :
    ∃ pb s', getPathBuilder env (some spec) s = (.ok pb, s') ∧ CacheAgrees spec vc s'.factory := by
  unfold getPathBuilder
  cases held : s.factory.pathBuilder with
  | some pb => exact ⟨pb, s, rfl, agrees⟩
  | none =>
    obtain ⟨c, loaded⟩ : ∃ c, loadConfigFromCRD spec = .ok c := ⟨_, rfl⟩
    obtain ⟨s1, loads, -, agrees1⟩ := ensureConfig_agrees serves.reads loaded s agrees
    refine ⟨⟨c.pathTemplate, s1.factory.configLoad⟩, s1.setPathBuilder ⟨c.pathTemplate, s1.factory.configLoad⟩,
      ?_, agrees1.config, agrees1.backend, agrees1.engines⟩
    dsimp only
    rw [loads]
    simp only [newPathBuilder, serves.compiles]

/-- `GetEngineBackends` on a cache that agrees with the record serves, or builds, the
bindings of the engines the labels select, each on its own mount, in order. -/
theorem getEngineBackends_agrees (serves : Serves env spec vc) (labels : Labels) (s : FactoryState)
    (agrees : CacheAgrees spec vc s.factory) :
    ∃ ebs s', getEngineBackends env (some spec) labels s = (.ok ebs, s') ∧
      ebs.map (fun eb => (some eb.engineName, eb.backend.destination)) =
        (vc.secretEngines.filter fun e => labelSpecHolds labels e.syncLabel).map
          (fun e => (some e.name, ⟨vc.address, e.mountPath⟩)) ∧
      CacheAgrees spec vc s'.factory := by
  unfold getEngineBackends
  by_cases cached : s.factory.engineBackends.isEmpty
  · obtain ⟨c, loaded⟩ : ∃ c, loadConfigFromCRD spec = .ok c := ⟨_, rfl⟩
    obtain ⟨s1, loads, -, agrees1⟩ := ensureConfig_agrees serves.reads loaded s agrees
    rw [if_neg (by simp [cached]), loads]
    dsimp only
    rw [(loadConfigFromCRD_ok loaded).2.1, serves.settings, Option.map_some']
    dsimp only
    rw [readRecord_reliable serves.reads]
    dsimp only
    rw [show declaredEngines spec = vc.secretEngines by simp [declaredEngines, serves.settings]]
    by_cases declared : vc.secretEngines.isEmpty
    · rw [if_pos declared]
      exact ⟨[], _, rfl, by simp [List.isEmpty_iff.mp declared], agrees1⟩
    · obtain ⟨ebs, s3, parsed, binds⟩ := parseSecretEngineConfig_reliable serves.constructs
        serves.compiles s1.factory.configLoad vc.secretEngines s1.bumpReads
      have same := (parseSecretEngineConfig_inv parsed).1
      rw [if_neg declared, parsed]
      exact ⟨_, s3.setEngineBackends ebs, rfl, routes_of_binds binds labels,
        by simpa [setEngineBackends, same, bumpReads] using agrees1.config,
        by simpa [setEngineBackends, same, bumpReads] using agrees1.backend, .inr binds⟩
  · rcases agrees.engines with empty | binds
    · simp [empty] at cached
    · exact ⟨_, s, by rw [if_pos (by simp [cached])], routes_of_binds binds labels, agrees⟩

end FactoryState

/-! ## The cache along factory runs -/

section Runs

variable {env : Env} {spec : SecretBackendConfigSpec} {vc : VaultConfig}

/-- Every factory operation on a record the environment serves keeps the cache agreeing
with the record. -/
theorem FactoryEvent.step_agrees (serves : Serves env spec vc) {event : FactoryEvent}
    (keeps : event.keepsRecord) (s : FactoryState) (agrees : CacheAgrees spec vc s.factory) :
    CacheAgrees spec vc (event.step env ⟨s, some spec⟩).state.factory := by
  obtain ⟨c, loaded⟩ : ∃ c, loadConfigFromCRD spec = .ok c := ⟨_, rfl⟩
  cases event
  case getBackend =>
    obtain ⟨_, _, got, -, agrees'⟩ := FactoryState.getBackend_agrees serves s agrees
    simpa only [FactoryEvent.step, got] using agrees'
  case getPathBuilder =>
    obtain ⟨_, _, got, agrees'⟩ := FactoryState.getPathBuilder_agrees serves s agrees
    simpa only [FactoryEvent.step, got] using agrees'
  case getRegionLabelKey =>
    obtain ⟨_, got, agrees'⟩ := FactoryState.getConfigField_agrees serves.reads loaded
      Config.regionLabelKey s agrees
    simpa only [FactoryEvent.step, FactoryState.getRegionLabelKey, got] using agrees'
  case getSyncLabel =>
    obtain ⟨_, got, agrees'⟩ := FactoryState.getConfigField_agrees serves.reads loaded
      Config.syncLabel s agrees
    simpa only [FactoryEvent.step, FactoryState.getSyncLabel, got] using agrees'
  case getEngineBackends labels =>
    obtain ⟨_, _, got, -, agrees'⟩ := FactoryState.getEngineBackends_agrees serves labels s agrees
    simpa only [FactoryEvent.step, got] using agrees'
  case hasMultiEngineConfig =>
    simpa only [FactoryEvent.step, FactoryState.hasMultiEngineConfig_reliable serves.reads] using agrees
  case invalidateCache =>
    simp only [FactoryEvent.step, FactoryState.invalidateCache_eq]
    exact ⟨nofun, nofun, .inl rfl⟩
  case close =>
    simp only [FactoryEvent.step, FactoryState.close, FactoryState.closeBackend_eq]
    exact ⟨agrees.config, nofun, agrees.engines⟩
  case setRecord => cases keeps

/-- Over a run of factory operations on a record the environment serves, the record stays
and the cache keeps agreeing with it. -/
theorem runFactory_agrees (serves : Serves env spec vc) :
    ∀ (events : List FactoryEvent) (w : FactoryWorld), (∀ e ∈ events, e.keepsRecord) →
      w.record = some spec → CacheAgrees spec vc w.state.factory →
      (runFactory env events w).record = some spec ∧
        CacheAgrees spec vc (runFactory env events w).state.factory
  | [], _, _, record, agrees => ⟨record, agrees⟩
  | event :: rest, ⟨s, _⟩, keeps, rfl, agrees =>
    runFactory_agrees serves rest _ (fun e mem => keeps e (.tail _ mem))
      (FactoryEvent.step_record env (keeps event (.head _)) _)
      (FactoryEvent.step_agrees serves (keeps event (.head _)) s agrees)

end Runs

/-! ## The triples a pass attempts -/

/-- The triples of a pass's pairs, as a log records them. -/
theorem pairs_routed (targets : List Target) (bmcs : List BMC) :
    (pairs targets bmcs).map (fun p => (p.1.engine, p.1.store.destination, p.2.name)) =
      targets.flatMap fun t => bmcs.map fun d => (t.engine, t.store.destination, d.name) := by
  simp [pairs, List.map_flatMap, Function.comp_def]

section Routes

variable {env : Env} (faults : ClientFaults) (now : Nat) (name : String)
  {spec : SecretBackendConfigSpec} {vc : VaultConfig}

/-- A sync path's markers: one per pair of its loop, in order. -/
theorem recordSync_routes (regionLabelKey username password : String) (ps : List (Target × BMC))
    (w : World) (totalPaths : Nat) (summary : String × String × String) :
    routes (w.recordSync faults now name
        (syncPairs env regionLabelKey username password now ps w.syncStart) totalPaths summary).log =
      routes w.log ++ ps.map fun p => (p.1.engine, p.1.store.destination, p.2.name) := by
  obtain ⟨fresh, log, marked, -⟩ := syncPairs_log_shape env regionLabelKey username password now ps
    w.syncStart
  simp only [World.recordSync, World.event_log]
  rw [log]
  simp [World.syncStart, marked, routes]

theorem reconcileSingleEngine_routes (serves : Serves env spec vc) (w : World)
    (record : w.registry.configRecord = some spec) (agrees : CacheAgrees spec vc w.factory.factory)
    (bmcs : List BMC) (username password : String) :
    routes (reconcileSingleEngine env faults now name bmcs username password w).2.log =
      routes w.log ++ bmcs.map fun d =>
        (none, ⟨vc.address, orDefault vc.mountPath "secret"⟩, d.name) := by
  obtain ⟨c, loaded⟩ : ∃ c, loadConfigFromCRD spec = .ok c := ⟨_, rfl⟩
  obtain ⟨b, s1, built, store, agrees1⟩ := FactoryState.getBackend_agrees serves w.factory agrees
  obtain ⟨pb, s2, compiled, agrees2⟩ := FactoryState.getPathBuilder_agrees serves s1 agrees1
  obtain ⟨s3, key, -⟩ := FactoryState.getConfigField_agrees serves.reads loaded Config.regionLabelKey
    s2 agrees2
  unfold reconcileSingleEngine
  simp only [World.factoryCall, record, built, compiled, FactoryState.getRegionLabelKey, key]
  rw [syncDevices_eq, recordSync_routes, List.map_map]
  have mounted : b.destination = ⟨vc.address, orDefault vc.mountPath "secret"⟩ := by
    simp [Store.destination, store, loadVaultConfigFromCRD, VaultConfigInternal.toClientConfig]
  simp [Function.comp_def, mounted]

theorem reconcileMultiEngine_routes (serves : Serves env spec vc) (w : World)
    (record : w.registry.configRecord = some spec) (agrees : CacheAgrees spec vc w.factory.factory)
    (secret : BMCSecret) (bmcs : List BMC) (username password : String) :
    routes (reconcileMultiEngine env faults now name secret bmcs username password w).2.log =
      routes w.log ++ (vc.secretEngines.filter fun e => labelSpecHolds secret.labels e.syncLabel).flatMap
        fun e => bmcs.map fun d => (some e.name, ⟨vc.address, e.mountPath⟩, d.name) := by
  obtain ⟨c, loaded⟩ : ∃ c, loadConfigFromCRD spec = .ok c := ⟨_, rfl⟩
  obtain ⟨s1, key, agrees1⟩ := FactoryState.getConfigField_agrees serves.reads loaded
    Config.regionLabelKey w.factory agrees
  obtain ⟨ebs, s2, got, named, -⟩ := FactoryState.getEngineBackends_agrees serves secret.labels s1 agrees1
  have routed : ebs.flatMap (fun eb => bmcs.map fun d => (some eb.engineName, eb.backend.destination, d.name)) =
      (vc.secretEngines.filter fun e => labelSpecHolds secret.labels e.syncLabel).flatMap
        fun e => bmcs.map fun d => (some e.name, ⟨vc.address, e.mountPath⟩, d.name) := by
    have byTarget := List.flatMap_map (fun eb : EngineBackend => (some eb.engineName, eb.backend.destination))
      (fun r => bmcs.map fun d => (r.1, r.2, d.name)) ebs
    rw [← byTarget, named, List.flatMap_map]
  unfold reconcileMultiEngine
  simp only [World.factoryCall, record, FactoryState.getRegionLabelKey, key, got]
  split
  next empty =>
    rw [List.isEmpty_iff.mp empty] at routed
    simp [routes, ← routed]
  next =>
    rw [syncEngines_eq, recordSync_routes, pairs_routed, List.flatMap_map, ← routed]
    rfl

theorem syncBMCSecret_routes (serves : Serves env spec vc) (listed : faults .listBMCs = none)
    (secret : BMCSecret) (username password : String)
    (credentials : env.extractCredentials secret = .ok (username, password)) (w : World)
    (record : w.registry.configRecord = some spec) (agrees : CacheAgrees spec vc w.factory.factory) :
    routes (syncBMCSecret env faults now name secret w).2.log =
      routes w.log ++ routedTriples vc secret.labels (w.registry.bmcs.filter (·.bmcSecretRef = name)) := by
  unfold syncBMCSecret findBMCsForSecret
  rw [listed]
  dsimp only
  split
  next empty =>
    rw [List.isEmpty_iff.mp empty]
    simp [routes, routedTriples]
  next =>
    rw [credentials]
    dsimp only
    simp only [World.factoryCall, record, FactoryState.hasMultiEngineConfig_reliable serves.reads,
      show FactoryState.declaredEngines spec = vc.secretEngines by
        simp [FactoryState.declaredEngines, serves.settings]]
    cases declared : vc.secretEngines.isEmpty
    · rw [Bool.not_false]
      dsimp only
      rw [reconcileMultiEngine_routes faults now name serves { w with factory := w.factory.bumpReads }
        record agrees]
      simp [routedTriples, declared]
    · rw [Bool.not_true]
      dsimp only
      rw [reconcileSingleEngine_routes faults now name serves { w with factory := w.factory.bumpReads }
        record agrees]
      simp [routedTriples, declared]

end Routes

/-! ## Routing from the record -/

/-- A pass over a record that is not marked for deletion, with the configuration record
present (vault settings `vc`) and served without fault, from a factory whose cache agrees
with the record, with every registry call and credential extraction succeeding, attempts
exactly `routedTriples` behind the global gate. -/
theorem reconcile_routes (env : Env) (faults : ClientFaults) (now : Nat) (name : String) (w : World)
    (secret : BMCSecret) (spec : SecretBackendConfigSpec) (vc : VaultConfig) (username password : String)
    (stored : w.registry.secret = some secret) (alive : secret.deletionTimestamp = false)
    (record : w.registry.configRecord = some spec) (serves : Serves env spec vc)
    (agrees : CacheAgrees spec vc w.factory.factory) (calls : ∀ call, faults call = none)
    (credentials : ∀ finalizers,
      env.extractCredentials { secret with finalizers } = .ok (username, password)) :
    routes (reconcile env faults now name w).2.log =
      routes w.log ++ (if syncLabelGate spec.syncLabel secret.labels then
        routedTriples vc secret.labels (w.registry.bmcs.filter (·.bmcSecretRef = name)) else []) := by
  obtain ⟨c, loaded⟩ : ∃ c, loadConfigFromCRD spec = .ok c := ⟨_, rfl⟩
  obtain ⟨s1, configRead, -, agrees1⟩ := FactoryState.ensureConfig_agrees serves.reads loaded w.factory agrees
  unfold reconcile
  rw [calls .getSecret, stored]
  dsimp only
  simp only [World.factoryCall, record, FactoryState.getSyncLabel, FactoryState.getConfigField,
    configRead, Except.map, (loadConfigFromCRD_ok loaded).2.2]
  by_cases gate : syncLabelGate spec.syncLabel secret.labels
  · rw [if_neg (by simp [gate]), if_neg (by simp [alive]), if_pos gate]
    split
    · rw [syncBMCSecret_routes faults now name serves (calls _) secret username password (credentials _)]
      exacts [record, agrees1]
    · simp only [World.updateSecret, calls .addFinalizer]
      rw [syncBMCSecret_routes faults now name serves (calls _) _ username password (credentials _)]
      exacts [by simp [routes], record, agrees1]
  · rw [if_pos (by simp [gate]), if_neg gate]
    simp

/-! ## The gate and the watch filter -/

theorem splitFirst_append_self (c : Char) :
    ∀ l : List Char, c ∉ l → splitFirst c (l ++ [c]) = some (l, [])
  | [], _ => by simp [splitFirst]
  | x :: xs, absent => by
    have other : x ≠ c := fun same => absent (same ▸ List.mem_cons_self _ _)
    simp [splitFirst, other, splitFirst_append_self c xs fun h => absent (List.mem_cons_of_mem _ h)]

/-- A record carrying the global sync label with the empty value passes the watch filter,
yet the pass drops it at the gate: it returns no error and no requeue, and logs nothing,
whether or not the record is marked for deletion. And an engine spec `key=` is read as the
key alone: it admits every value of the key, not only the empty one. -/
theorem sync_label_gate_drops_empty_value (env : Env) (faults : ClientFaults) (now : Nat)
    (name : String) (w : World) (secret : BMCSecret) (spec : SecretBackendConfigSpec)
    (stored : w.registry.secret = some secret) (record : w.registry.configRecord = some spec)
    (configured : ∀ c ∈ w.factory.factory.config, loadConfigFromCRD spec = .ok c)
    (reads : ∀ n, env.readFault n = none) (fetched : faults .getSecret = none)
    (labelled : spec.syncLabel ≠ "") (emptyValue : secret.labels.find? spec.syncLabel = some "") :
    (labelPredicate spec.syncLabel secret.labels = true ∧
      (reconcile env faults now name w).1 = ⟨0, none⟩ ∧ (reconcile env faults now name w).2.log = w.log) ∧
    ∀ (key : String), '=' ∉ key.toList → ∀ (store : Store) (engineName : String)
      (pathBuilder : PathBuilder) (labels : Labels),
      (EngineBackend.ofSpec store engineName pathBuilder (key ++ "=")).matchesLabels labels =
        (labels.find? key).isSome := by
  refine ⟨?_, fun key plain store engineName pathBuilder labels => ?_⟩
  · obtain ⟨c, loaded⟩ : ∃ c, loadConfigFromCRD spec = .ok c := ⟨_, rfl⟩
    obtain ⟨s1, configRead, -⟩ := FactoryState.ensureConfig_record reads loaded w.factory configured
    have refused : syncLabelGate spec.syncLabel secret.labels = false := by
      simp [syncLabelGate, Labels.get, emptyValue, labelled]
    unfold reconcile
    rw [fetched, stored]
    dsimp only
    simp only [World.factoryCall, record, FactoryState.getSyncLabel, FactoryState.getConfigField,
      configRead, Except.map, (loadConfigFromCRD_ok loaded).2.2, refused]
    exact ⟨by simp [labelPredicate, emptyValue], rfl, rfl⟩
  · rw [matchesLabels_iff]
    unfold labelSpecHolds
    rw [show (key ++ "=").toList = key.toList ++ ['='] from String.data_append key "=",
      splitFirst_append_self '=' key.toList plain]
    simp

/-- A vault record whose global sync label is `sync`, and a record carrying it with the
empty value. -/
def syncLabelRecord : SecretBackendConfigSpec := { vaultRecord "" [] with syncLabel := "sync" }

def emptySyncSecret : BMCSecret := ⟨[("sync", "")], [], false, []⟩

theorem sync_label_gate_drops_empty_value_on_empty_sync :
    ((World.initial (some syncLabelRecord) emptySyncSecret).registry.secret = some emptySyncSecret ∧
      (World.initial (some syncLabelRecord) emptySyncSecret).registry.configRecord =
        some syncLabelRecord ∧
      (∀ c ∈ (World.initial (some syncLabelRecord) emptySyncSecret).factory.factory.config,
        loadConfigFromCRD syncLabelRecord = .ok c) ∧
      (∀ n, Env.withCredentials.readFault n = none) ∧ noFaults .getSecret = none ∧
      syncLabelRecord.syncLabel ≠ "" ∧ emptySyncSecret.labels.find? syncLabelRecord.syncLabel = some "") ∧
    labelPredicate syncLabelRecord.syncLabel emptySyncSecret.labels = true ∧
      (reconcile Env.withCredentials noFaults 1 "creds"
        (World.initial (some syncLabelRecord) emptySyncSecret)).1 = ⟨0, none⟩ ∧
      (reconcile Env.withCredentials noFaults 1 "creds"
        (World.initial (some syncLabelRecord) emptySyncSecret)).2.log = [] :=
  ⟨⟨rfl, rfl, nofun, fun _ => rfl, rfl, by decide, rfl⟩,
    (sync_label_gate_drops_empty_value Env.withCredentials noFaults 1 "creds"
      (World.initial (some syncLabelRecord) emptySyncSecret) emptySyncSecret syncLabelRecord rfl rfl
      nofun (fun _ => rfl) rfl (by decide) rfl).1⟩

/-! ## A transient registry error -/

/-- The environment with credentials where the second read of the configuration record fails
with a transient error. -/
def Env.secondReadFails : Env :=
  { Env.withCredentials with
    readFault := fun n => if n = 1 then some "etcdserver: request timed out" else none }

/-- A pass over the team record while the second read fails. -/
def transientReadPass : Outcome × World :=
  reconcile Env.secondReadFails noFaults 1 "creds" (World.initial (some teamEngineRecord) teamSecret)

/-- The record declares one engine, on mount `team-a`, and the record's labels select it.
`GetSyncLabel` reads the record; `HasMultiEngineConfig` reads it again, gets the transient
error, and answers "no engines"; the pass takes the single-destination path, whose
`GetBackend` reads the record once more and builds the default store at the record's
address and default mount `secret`, and writes there. -/
theorem transient_read_routes_to_default_mount :
    (FactoryState.declaredEngines teamEngineRecord).map (·.mountPath) = ["team-a"] ∧
      .write ⟨"https://vault", "secret"⟩ "bmc/eu/host-1/admin" (secretData "admin" "pw") ∈
        transientReadPass.2.log ∧
      attempts transientReadPass.2.log = [(none, "bmc-1")] ∧
      transientReadPass.1 = ⟨requeueAfterNormal, none⟩ := by
  decide

end BmcSecretOperator
