import BmcSecretOperator.Routing
import BmcSecretOperator.VaultClient

/-!
# The backend factory: a cache built lazily from configuration loads

Source: secretbackend/factory.go:31-230 (`BackendFactory`, `GetBackend`, `GetPathBuilder`,
`GetRegionLabelKey`, `GetSyncLabel`, `loadConfig`, `createBackend`), :404-448 (`Close`,
`InvalidateCache`), :450-541 (`GetEngineBackends`, `HasMultiEngineConfig`) and
multi_engine.go:54-105 (`parseSecretEngineConfig`).

Every public operation runs under the factory's lock (the read-locked fast path returns
the cached value the write-locked re-check would return), so each is one atomic step on
`FactoryState`. The registry's configuration record is read, never written, by the
factory; it is a parameter of each step.

`Env` fixes what the factory cannot decide: the process environment, the template
library, the outcome of every registry read and remote call, answered by serial number, and
the Vault server each construction finds, against which `NewVaultBackend` runs
(`Vault.newVaultBackend`). Every store the factory builds is a `VaultBackend`, possibly in
the metrics wrapper, and their `Close` returns nil (vault.go:187-190, factory.go:332-334 and
:400-402), so a close never fails. `Ledger` is bookkeeping of the model only: the serials
used so far, every store constructed, the stores closed, and the stores a failed engine
batch discarded.
-/

set_option autoImplicit false

namespace BmcSecretOperator

/-- What a run of the system cannot decide itself. The `…Fault` oracles answer, for the
call of each serial number, the error it fails with, if any; `vaultServer` is the server as
the construction of each serial finds it. `extractCredentials` is
`bmcresolver.ExtractCredentials`, whose source is not under src/. -/
structure Env where
  getenv : String → String
  templates : TemplateEngine
  readFault : Nat → Option String
  vaultServer : Nat → Vault.Server
  remoteFault : Nat → Option String
  extractCredentials : BMCSecret → Except String (String × String)

/-- `text/template` on the actions the program's templates use: `{{.Region}}`,
`{{.Hostname}}` and `{{.Username}}` are replaced by the fields' values,
everything else is copied. -/
def renderFields (v : PathVariables) : List Char → List Char
  | '\x7b' :: '\x7b' :: '.' :: 'R' :: 'e' :: 'g' :: 'i' :: 'o' :: 'n' :: '\x7d' :: '\x7d' :: rest =>
    v.region.toList ++ renderFields v rest
  | '\x7b' :: '\x7b' :: '.' :: 'H' :: 'o' :: 's' :: 't' :: 'n' :: 'a' :: 'm' :: 'e' :: '\x7d' :: '\x7d' :: rest =>
    v.hostname.toList ++ renderFields v rest
  | '\x7b' :: '\x7b' :: '.' :: 'U' :: 's' :: 'e' :: 'r' :: 'n' :: 'a' :: 'm' :: 'e' :: '\x7d' :: '\x7d' :: rest =>
    v.username.toList ++ renderFields v rest
  | c :: rest => c :: renderFields v rest
  | [] => []

/-- An environment in which every registry read and remote call succeeds, every template
compiles and renders its field actions, every construction finds the accepting server, and
the process environment is empty. -/
def Env.reliable : Env where
  getenv _ := ""
  templates := ⟨fun _ => none, fun t v => .ok (String.mk (renderFields v t.toList))⟩
  readFault _ := none
  vaultServer _ := Vault.acceptingServer
  remoteFault _ := none
  extractCredentials _ := .error "no credentials"

/-- `BackendFactory`. `configLoad` is provenance: the serial of the registry read of the
load `config` came from. -/
structure BackendFactory where
  backend : Option Store
  pathBuilder : Option PathBuilder
  config : Option Config
  engineBackends : List EngineBackend
  configLoad : Nat
  deriving DecidableEq, Repr

/-- `NewBackendFactory`: nothing cached. -/
def BackendFactory.empty : BackendFactory := ⟨none, none, none, [], 0⟩

/-- Serials used so far and the life of every constructed store. -/
structure Ledger where
  reads : Nat
  constructions : Nat
  stores : List Store
  closed : List Nat
  dropped : List Nat
  deriving DecidableEq, Repr

def Ledger.empty : Ledger := ⟨0, 0, [], [], []⟩

structure FactoryState where
  factory : BackendFactory
  ledger : Ledger
  deriving DecidableEq, Repr

namespace FactoryState

/-! ## Updates of the cache and the ledger -/

def setBackend (s : FactoryState) (b : Store) (c : Config) (load : Nat) : FactoryState :=
  { s with factory := { s.factory with backend := some b, config := some c, configLoad := load } }

def setConfig (s : FactoryState) (c : Config) (load : Nat) : FactoryState :=
  { s with factory := { s.factory with config := some c, configLoad := load } }

def setPathBuilder (s : FactoryState) (pb : PathBuilder) : FactoryState :=
  { s with factory := { s.factory with pathBuilder := some pb } }

def setEngineBackends (s : FactoryState) (ebs : List EngineBackend) : FactoryState :=
  { s with factory := { s.factory with engineBackends := ebs } }

def clearBackend (s : FactoryState) : FactoryState :=
  { s with factory := { s.factory with backend := none } }

/-- The end of a completed `InvalidateCache`: engines, config and path builder cleared. -/
def clearSnapshot (s : FactoryState) : FactoryState :=
  { s with factory := { s.factory with engineBackends := [], config := none, pathBuilder := none } }

def bumpReads (s : FactoryState) : FactoryState :=
  { s with ledger := { s.ledger with reads := s.ledger.reads + 1 } }

def drop (s : FactoryState) (store : Store) : FactoryState :=
  { s with ledger := { s.ledger with dropped := store.id :: s.ledger.dropped } }

@[simp] theorem setConfig_ledger (s : FactoryState) (c : Config) (load : Nat) :
    (s.setConfig c load).ledger = s.ledger := rfl
@[simp] theorem setPathBuilder_ledger (s : FactoryState) (pb : PathBuilder) :
    (s.setPathBuilder pb).ledger = s.ledger := rfl
@[simp] theorem setBackend_ledger (s : FactoryState) (b : Store) (c : Config) (load : Nat) :
    (s.setBackend b c load).ledger = s.ledger := rfl
@[simp] theorem setEngineBackends_ledger (s : FactoryState) (ebs : List EngineBackend) :
    (s.setEngineBackends ebs).ledger = s.ledger := rfl
@[simp] theorem clearBackend_ledger (s : FactoryState) : s.clearBackend.ledger = s.ledger := rfl
@[simp] theorem clearSnapshot_ledger (s : FactoryState) : s.clearSnapshot.ledger = s.ledger := rfl
@[simp] theorem bumpReads_factory (s : FactoryState) : s.bumpReads.factory = s.factory := rfl
@[simp] theorem drop_factory (s : FactoryState) (store : Store) :
    (s.drop store).factory = s.factory := rfl

/-! ## Remote calls of the factory -/

variable (env : Env) (record : Option SecretBackendConfigSpec)

/-- `f.client.Get(ctx, {Name: "default-backend-config"})`: a transient error, the record,
or not-found. -/
def readRecord (s : FactoryState) : Except String SecretBackendConfigSpec × FactoryState :=
  match env.readFault s.ledger.reads, record with
  | some e, _ => (.error e, s.bumpReads)
  | none, some spec => (.ok spec, s.bumpReads)
  | none, none => (.error "secretbackendconfigs \"default-backend-config\" not found", s.bumpReads)

/-- `loadConfig`: the record if the read succeeds, otherwise the environment, whatever
the read's error was. -/
def loadConfig (s : FactoryState) : Except String Config × FactoryState :=
  match readRecord env record s with
  | (.ok spec, s1) => (loadConfigFromCRD spec, s1)
  | (.error _, s1) => (loadConfigFromEnv env.getenv, s1)

/-- `vault.NewVaultBackend` (client, authentication, KV version detection) against the
server this construction finds: a fresh store unless it fails. The factory's collector is
passed as `none`: what it records is left out, and the outcome does not depend on it
(`Vault.newVaultBackend_fst`). -/
def newVaultBackend (config : Vault.Config) (load : Nat) (s : FactoryState) :
    Except String Store × FactoryState :=
  match (Vault.newVaultBackend (env.vaultServer s.ledger.constructions) config none).1 with
  | .error e =>
    (.error e, { s with ledger := { s.ledger with constructions := s.ledger.constructions + 1 } })
  | .ok _ =>
    (.ok ⟨s.ledger.constructions, config, load⟩, { s with ledger := { s.ledger with
      constructions := s.ledger.constructions + 1,
      stores := s.ledger.stores ++ [⟨s.ledger.constructions, config, load⟩] } })

/-- `Close` of one store: a `VaultBackend`'s `Close`, directly or through the metrics
wrapper, returns nil. -/
def closeStore (store : Store) (s : FactoryState) : Except String Unit × FactoryState :=
  (.ok (), { s with ledger := { s.ledger with closed := store.id :: s.ledger.closed } })

/-- `createBackend`. -/
def createBackend (config : Config) (load : Nat) (s : FactoryState) :
    Except String Store × FactoryState :=
  if config.backend = defaultBackendType then
    match config.vaultConfig with
    | none => (.error "vault configuration is required when backend is vault", s)
    | some vc => newVaultBackend env vc.toClientConfig load s
  else if config.backend = "openbao" then (.error "OpenBao backend not yet implemented", s)
  else (.error ("unsupported backend type: " ++ config.backend), s)

/-! ## Public operations -/

/-- `GetBackend`. On a miss it loads the configuration afresh, even when one is cached,
and replaces the cached one. -/
def getBackend (s : FactoryState) : Except String Store × FactoryState :=
  match s.factory.backend with
  | some b => (.ok b, s)
  | none =>
    match loadConfig env record s with
    | (.error e, s1) => (.error ("failed to load configuration: " ++ e), s1)
    | (.ok config, s1) =>
      match createBackend env config s.ledger.reads s1 with
      | (.error e, s2) => (.error ("failed to create backend: " ++ e), s2)
      | (.ok b, s2) => (.ok b, s2.setBackend b config s.ledger.reads)

/-- "Load configuration if not already loaded", shared by the other getters. -/
def ensureConfig (s : FactoryState) : Except String Config × FactoryState :=
  match s.factory.config with
  | some c => (.ok c, s)
  | none =>
    match loadConfig env record s with
    | (.error e, s1) => (.error ("failed to load configuration: " ++ e), s1)
    | (.ok c, s1) => (.ok c, s1.setConfig c s.ledger.reads)

/-- `GetPathBuilder`. A failed template compilation leaves a freshly loaded config cached. -/
def getPathBuilder (s : FactoryState) : Except String PathBuilder × FactoryState :=
  match s.factory.pathBuilder with
  | some pb => (.ok pb, s)
  | none =>
    match ensureConfig env record s with
    | (.error e, s1) => (.error e, s1)
    | (.ok c, s1) =>
      match newPathBuilder env.templates c.pathTemplate s1.factory.configLoad with
      | .error e => (.error ("failed to create path builder: " ++ e), s1)
      | .ok pb => (.ok pb, s1.setPathBuilder pb)

/-- The getters that read one field of the (possibly freshly loaded) configuration. -/
def getConfigField (field : Config → String) (s : FactoryState) :
    Except String String × FactoryState :=
  match ensureConfig env record s with
  | (r, s1) => (r.map field, s1)

/-- `GetRegionLabelKey`. -/
def getRegionLabelKey : FactoryState → Except String String × FactoryState :=
  getConfigField env record Config.regionLabelKey

/-- `GetSyncLabel`. -/
def getSyncLabel : FactoryState → Except String String × FactoryState :=
  getConfigField env record Config.syncLabel

/-- `parseSecretEngineConfig`: one store and one template per engine, in order. On the
first failure the stores built so far are discarded without being closed. -/
def parseSecretEngineConfig (base : VaultConfigInternal) (load : Nat) :
    List SecretEngineConfig → FactoryState → Except String (List EngineBackend) × FactoryState
  | [], s => (.ok [], s)
  | engine :: rest, s =>
    match newVaultBackend env (base.engineClientConfig engine) load s with
    | (.error e, s1) =>
      (.error ("failed to create backend for engine " ++ engine.name ++ ": " ++ e), s1)
    | (.ok store, s1) =>
      match newPathBuilder env.templates (orDefault engine.pathTemplate defaultPathTemplate) load with
      | .error e =>
        (.error ("failed to create path builder for engine " ++ engine.name ++ ": " ++ e),
          s1.drop store)
      | .ok pb =>
        match parseSecretEngineConfig base load rest s1 with
        | (.error e, s2) => (.error e, s2.drop store)
        | (.ok ebs, s2) => (.ok (EngineBackend.ofSpec store engine.name pb engine.syncLabel :: ebs), s2)

/-- The engine list a successful registry read declares. -/
def declaredEngines (spec : SecretBackendConfigSpec) : List SecretEngineConfig :=
  (spec.vaultConfig.map (·.secretEngines)).getD []

/-- `GetEngineBackends`: the cached bindings filtered by `labels`; on a miss, the cached
config's vault settings combined with a fresh read of the record's engine list. -/
def getEngineBackends (labels : Labels) (s : FactoryState) :
    Except String (List EngineBackend) × FactoryState :=
  if !s.factory.engineBackends.isEmpty then
    (.ok (filterEnginesByLabels s.factory.engineBackends labels), s)
  else
    match ensureConfig env record s with
    | (.error e, s1) => (.error e, s1)
    | (.ok c, s1) =>
      match c.vaultConfig with
      | none => (.ok [], s1)
      | some base =>
        match readRecord env record s1 with
        | (.error _, s2) => (.ok [], s2)
        | (.ok spec, s2) =>
          if (declaredEngines spec).isEmpty then (.ok [], s2)
          else
            match parseSecretEngineConfig env base s1.factory.configLoad (declaredEngines spec) s2 with
            | (.error e, s3) => (.error ("failed to parse secret engine config: " ++ e), s3)
            | (.ok ebs, s3) => (.ok (filterEnginesByLabels ebs labels), s3.setEngineBackends ebs)

/-- `HasMultiEngineConfig`: any read error counts as "no engines"; it never errs. -/
def hasMultiEngineConfig (s : FactoryState) : Except String Bool × FactoryState :=
  match readRecord env record s with
  | (.error _, s1) => (.ok false, s1)
  | (.ok spec, s1) => (.ok !(declaredEngines spec).isEmpty, s1)

/-- Close every engine store in order, stopping at the first failure. -/
def closeEngines : List EngineBackend → FactoryState → Except String Unit × FactoryState
  | [], s => (.ok (), s)
  | eb :: rest, s =>
    match closeStore eb.backend s with
    | (.error e, s1) => (.error ("failed to close engine backend " ++ eb.engineName ++ ": " ++ e), s1)
    | (.ok (), s1) => closeEngines rest s1

/-- Close the default store and uncache it if the close succeeds: the block `Close` and
`InvalidateCache` share. -/
def closeBackend (s : FactoryState) : Except String Unit × FactoryState :=
  match s.factory.backend with
  | none => (.ok (), s)
  | some b =>
    match closeStore b s with
    | (.error e, s1) => (.error e, s1)
    | (.ok (), s1) => (.ok (), s1.clearBackend)

/-- `InvalidateCache`: returns at the first close error, clearing nothing further. -/
def invalidateCache (s : FactoryState) : Except String Unit × FactoryState :=
  match closeBackend s with
  | (.error e, s1) => (.error ("failed to close backend during cache invalidation: " ++ e), s1)
  | (.ok (), s1) =>
    match closeEngines s1.factory.engineBackends s1 with
    | (.error e, s2) => (.error e, s2)
    | (.ok (), s2) => (.ok (), s2.clearSnapshot)

/-- `Close`: closes and clears the default store only. -/
def close : FactoryState → Except String Unit × FactoryState :=
  closeBackend

end FactoryState

end BmcSecretOperator
