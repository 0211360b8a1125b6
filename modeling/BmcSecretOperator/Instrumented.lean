import BmcSecretOperator.VaultStore

/-!
# The metrics decorator of the stores

Source: interface.go:23-39 (`Backend`), factory.go:224-227 and :231-238, :340-403
(`newInstrumentedBackend` and `instrumentedBackend`), :241-336 and :506-511
(`newInstrumentedBackendWithEngine` around each engine's store), and metrics.go:26-29,
:120-144, :205-222 (the backend-operation series of `Collector`, `RecordBackendOperation`,
`recordBackendError`).

`createBackend` wraps the store it builds in `instrumentedBackend` when the factory has a
metrics collector, and `GetEngineBackends` wraps each engine's store in
`instrumentedBackendWithEngine`, which records the same way with `Collector`. The wrapper calls the store, then `RecordBackendOperation`: one
observation of the duration histogram, one increment of the operation counter labelled
success or error, and for an error one increment of the error counter labelled with
`classifyError` of its text. Durations are clock readings and are not modelled: a histogram
is its number of observations.
-/

set_option autoImplicit false

namespace BmcSecretOperator

/-- The `Backend` interface over a store's state `σ`. `Close` belongs to the factory's
bookkeeping and is not part of the record. -/
structure SecretBackend (σ : Type) where
  writeSecret : String → SecretData → σ → Except String Unit × σ
  readSecret : String → σ → Except String SecretData × σ
  deleteSecret : String → σ → Except String Unit × σ
  secretExists : String → σ → Except String Bool × σ

/-- The map store of the sync loop at one destination. -/
def Remote.secretBackend (fault : Nat → Option String) (store : Store) : SecretBackend Remote :=
  ⟨Remote.writeSecret fault store, Remote.readSecret fault store, Remote.deleteSecret fault store,
    Remote.secretExists fault store⟩

/-- `VaultBackend` over its server. -/
def VaultBackend.secretBackend (v : VaultBackend) (fault : Nat → Option String) :
    SecretBackend KVServer :=
  ⟨v.writeSecret fault, v.readSecret fault, v.deleteSecret fault, v.secretExists fault⟩

/-! ## The backend-operation series of `Collector` -/

/-- A counter or histogram vector: per label tuple, its count. -/
abbrev Counts (κ : Type) := κ → Nat

/-- `WithLabelValues(...).Inc()`, or one `Observe`. -/
def Counts.inc {κ : Type} [DecidableEq κ] (c : Counts κ) (k : κ) : Counts κ :=
  Function.update c k (c k + 1)

def resultSuccess : String := "success"

def resultError : String := "error"

/-- `bmcsecret_backend_operation_duration_seconds` by (operation, backend type),
`bmcsecret_backend_operation_total` by (operation, backend type, result) and
`bmcsecret_backend_errors_total` by (operation, backend type, error type). -/
structure BackendMetrics where
  backendOpDuration : Counts (String × String)
  backendOpTotal : Counts (String × String × String)
  backendErrorsTotal : Counts (String × String × String)

namespace BackendMetrics

/-- The series as `NewCollector` registers them. -/
def fresh : BackendMetrics := ⟨fun _ => 0, fun _ => 0, fun _ => 0⟩

/-- The error type `classifyError` gives an error's text. -/
def errorType (err : String) : String := classifyError (some (goBytes err))

/-- `recordBackendError`. -/
def recordBackendError (m : BackendMetrics) (operation backendType err : String) : BackendMetrics :=
  { m with backendErrorsTotal := m.backendErrorsTotal.inc (operation, backendType, errorType err) }

/-- `RecordBackendOperation`. -/
def recordBackendOperation (m : BackendMetrics) (operation backendType : String)
    (err : Option String) : BackendMetrics :=
  let m := { m with backendOpDuration := m.backendOpDuration.inc (operation, backendType) }
  let (result, m) := match err with
    | none => (resultSuccess, m)
    | some e => (resultError, m.recordBackendError operation backendType e)
  { m with backendOpTotal := m.backendOpTotal.inc (operation, backendType, result) }

/-- The result label of a call. -/
def resultOf (err : Option String) : String := if err.isSome then resultError else resultSuccess

end BackendMetrics

/-! ## The decorator -/

/-- The `err` a call returned, if any. -/
def returnedError {α : Type} : Except String α → Option String
  | .error e => some e
  | .ok _ => none

/-- The body every method of `instrumentedBackend` shares: call the store, then record the
call under its operation name. -/
def instrument {σ α : Type} (operation backendType : String) (call : σ → Except String α × σ)
    (s : σ × BackendMetrics) : Except String α × (σ × BackendMetrics) :=
  match call s.1 with
  | (r, inner) => (r, inner, s.2.recordBackendOperation operation backendType (returnedError r))

/-- `newInstrumentedBackend`. -/
def instrumentedBackend {σ : Type} (backend : SecretBackend σ) (backendType : String) :
    SecretBackend (σ × BackendMetrics) where
  writeSecret path data := instrument "write" backendType (backend.writeSecret path data)
  readSecret path := instrument "read" backendType (backend.readSecret path)
  deleteSecret path := instrument "delete" backendType (backend.deleteSecret path)
  secretExists path := instrument "exists" backendType (backend.secretExists path)

/-- `newInstrumentedBackendWithEngine`, the wrapper `GetEngineBackends` puts around each
engine's store. Each method records through `RecordBackendOperationWithEngine` when the
collector has that method, else through `RecordBackendOperation`. `Collector` has only the
second, so the engine's name reaches no series: an engine store's calls are recorded as the
default store's are, under the same labels. -/
def instrumentedBackendWithEngine {σ : Type} (backend : SecretBackend σ)
    (backendType _engineName : String) : SecretBackend (σ × BackendMetrics) :=
  instrumentedBackend backend backendType

end BmcSecretOperator
