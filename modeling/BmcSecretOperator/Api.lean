import Mathlib.Data.List.Basic

/-!
# Resource types read and written by the synchronization engine

Source: api/v1alpha1 (src/unnamed/part_007:24-79,139-277) for the configuration and
status records; metal-operator's `BMCSecret` and `BMC` as the controller reads them
(bmcsecret_controller.go:91-178, bmcresolver/resolver.go:27-72).

Only the fields a modelled function reads or writes are kept. Label maps are Go
`map[string]string`; a nil map answers every lookup like an empty one, so both are the
empty association list here.
-/

set_option autoImplicit false

namespace BmcSecretOperator

/-- A Go `map[string]string` of labels, as an association list. -/
abbrev Labels := List (String × String)

/-- `v, ok := m[k]`: `none` when the key is absent. -/
def Labels.find? (labels : Labels) (key : String) : Option String :=
  labels.lookup key

/-- `m[k]` in single-value form: the zero value `""` when the key is absent. -/
def Labels.get (labels : Labels) (key : String) : String :=
  (labels.find? key).getD ""

theorem Labels.get_eq_empty_iff (labels : Labels) (key : String) :
    labels.get key = "" ↔ labels.find? key = none ∨ labels.find? key = some "" := by
  unfold Labels.get
  cases labels.find? key <;> simp [eq_comm]

/-- `SecretEngineConfig`: one named destination mount with its template and predicate. -/
structure SecretEngineConfig where
  name : String
  mountPath : String
  pathTemplate : String
  syncLabel : String
  deriving DecidableEq, Repr

structure KubernetesAuthConfig where
  role : String
  path : String
  deriving DecidableEq, Repr

structure TLSConfig where
  skipVerify : Bool
  caCert : String
  deriving DecidableEq, Repr

/-- The `vaultConfig` block of the configuration record (`TokenAuth` is read by nothing). -/
structure VaultConfig where
  address : String
  authMethod : String
  kubernetesAuth : Option KubernetesAuthConfig
  mountPath : String
  tlsConfig : Option TLSConfig
  secretEngines : List SecretEngineConfig
  deriving DecidableEq, Repr

/-- `SecretBackendConfigSpec`, the spec of the record `default-backend-config`. -/
structure SecretBackendConfigSpec where
  backend : String
  vaultConfig : Option VaultConfig
  pathTemplate : String
  regionLabelKey : String
  syncLabel : String
  deriving DecidableEq, Repr

/-- The credential record. `deletionTimestamp` is the deletion marker; the record's name
is the registry key it is stored under. -/
structure BMCSecret where
  labels : Labels
  data : List (String × String)
  deletionTimestamp : Bool
  finalizers : List String
  deriving DecidableEq, Repr

/-- A device record: `spec.hostname` and `spec.endpointRef` are pointers in the source,
`none` being nil. -/
structure BMC where
  name : String
  labels : Labels
  hostname : Option String
  endpointRef : Option String
  bmcSecretRef : String
  deriving DecidableEq, Repr

/-- One per-(destination, device) entry of the status record. Times are opaque stamps. -/
structure BackendPath where
  path : String
  bmcName : String
  region : String
  hostname : String
  username : String
  lastSyncTime : Nat
  syncStatus : String
  errorMessage : String
  deriving DecidableEq, Repr

/-- `metav1.Condition`. -/
structure Condition where
  type : String
  status : String
  observedGeneration : Nat
  lastTransitionTime : Nat
  reason : String
  message : String
  deriving DecidableEq, Repr

/-- `BMCSecretSyncStatus`: spec reference, object generation and status block. -/
structure BMCSecretSyncStatus where
  bmcSecretRef : String
  generation : Nat
  backendPaths : List BackendPath
  lastSyncAttempt : Nat
  totalPaths : Nat
  successfulPaths : Nat
  failedPaths : Nat
  conditions : List Condition
  deriving DecidableEq, Repr

end BmcSecretOperator
