import BmcSecretOperator.Backend

/-!
# Backend configuration: from the registry record or from the environment

Source: secretbackend/config.go:26-165 (`Config`, `LoadConfigFromCRD`, `LoadConfigFromEnv`,
`getEnvOrDefault`), and the two conversions to `vault.Config` in factory.go:200-210 and
multi_engine.go:63-73.

`Config.OpenBaoConfig` is copied by `LoadConfigFromCRD` but read by no function of the
engine, so it is left out. The process environment is a function `getenv`, `""` standing
for an unset variable as `os.Getenv` does.
-/

set_option autoImplicit false

namespace BmcSecretOperator

def defaultBackendType : String := "vault"

/-- The default path template `bmc/{{.Region}}/{{.Hostname}}/{{.Username}}`. -/
def defaultPathTemplate : String :=
  "bmc/\x7b\x7b.Region\x7d\x7d/\x7b\x7b.Hostname\x7d\x7d/\x7b\x7b.Username\x7d\x7d"

/-- `VaultConfigInternal`. -/
structure VaultConfigInternal where
  address : String
  authMethod : String
  kubernetesAuthRole : String
  kubernetesAuthPath : String
  token : String
  mountPath : String
  skipVerify : Bool
  caCert : String
  deriving DecidableEq, Repr

/-- `Config`, the loaded configuration. -/
structure Config where
  backend : String
  vaultConfig : Option VaultConfigInternal
  pathTemplate : String
  regionLabelKey : String
  syncLabel : String
  deriving DecidableEq, Repr

/-- `x` unless it is empty, then the default. -/
def orDefault (x default : String) : String := if x = "" then default else x

/-- The `vaultConfig` block of `LoadConfigFromCRD`, with its defaults. -/
def loadVaultConfigFromCRD (vaultCfg : VaultConfig) : VaultConfigInternal :=
  { address := vaultCfg.address
    authMethod := orDefault vaultCfg.authMethod "kubernetes"
    kubernetesAuthRole := (vaultCfg.kubernetesAuth.map (·.role)).getD ""
    kubernetesAuthPath :=
      (vaultCfg.kubernetesAuth.map (fun k => orDefault k.path "kubernetes")).getD ""
    token := ""
    mountPath := orDefault vaultCfg.mountPath "secret"
    skipVerify := (vaultCfg.tlsConfig.map (·.skipVerify)).getD false
    caCert := (vaultCfg.tlsConfig.map (·.caCert)).getD "" }

/-- `LoadConfigFromCRD` for a non-nil record; the nil case cannot arise from a
successful registry read. -/
def loadConfigFromCRD (spec : SecretBackendConfigSpec) : Except String Config :=
  .ok { backend := spec.backend
        vaultConfig := spec.vaultConfig.map loadVaultConfigFromCRD
        pathTemplate := orDefault spec.pathTemplate defaultPathTemplate
        regionLabelKey := orDefault spec.regionLabelKey "region"
        syncLabel := spec.syncLabel }

/-- `getEnvOrDefault`. -/
def getEnvOrDefault (getenv : String → String) (key default : String) : String :=
  orDefault (getenv key) default

/-- `LoadConfigFromEnv`. -/
def loadConfigFromEnv (getenv : String → String) : Except String Config :=
  let backend := getEnvOrDefault getenv "SECRET_BACKEND_TYPE" defaultBackendType
  let base : Config :=
    { backend := backend
      vaultConfig := none
      pathTemplate := getEnvOrDefault getenv "PATH_TEMPLATE" defaultPathTemplate
      regionLabelKey := getEnvOrDefault getenv "REGION_LABEL_KEY" "region"
      syncLabel := getenv "SYNC_LABEL" }
  if backend = defaultBackendType then
    let vaultConfig : VaultConfigInternal :=
      { address := getenv "VAULT_ADDR"
        authMethod := getEnvOrDefault getenv "VAULT_AUTH_METHOD" "kubernetes"
        kubernetesAuthRole := getenv "VAULT_ROLE"
        kubernetesAuthPath := getEnvOrDefault getenv "VAULT_KUBERNETES_PATH" "kubernetes"
        token := getenv "VAULT_TOKEN"
        mountPath := getEnvOrDefault getenv "VAULT_MOUNT_PATH" "secret"
        skipVerify := getenv "VAULT_SKIP_VERIFY" = "true"
        caCert := "" }
    if vaultConfig.address = "" then .error "VAULT_ADDR environment variable is required"
    else .ok { base with vaultConfig := some vaultConfig }
  else if backend = "openbao" then .error "OpenBao backend not yet implemented"
  else .error ("unsupported backend type: " ++ backend)

/-- The `vault.Config` that `createBackend` builds from the loaded settings. -/
def VaultConfigInternal.toClientConfig (vc : VaultConfigInternal) : Vault.Config :=
  { address := vc.address, authMethod := vc.authMethod,
    kubernetesAuthRole := vc.kubernetesAuthRole, kubernetesAuthPath := vc.kubernetesAuthPath,
    token := vc.token, mountPath := vc.mountPath, skipVerify := vc.skipVerify,
    caCert := vc.caCert }

/-- The `vault.Config` of one secret engine: the base settings with the engine's mount. -/
def VaultConfigInternal.engineClientConfig (vc : VaultConfigInternal)
    (engine : SecretEngineConfig) : Vault.Config :=
  { vc.toClientConfig with mountPath := engine.mountPath }

/-- The record's fields a loaded configuration keeps: its kind, its vault settings and the
global sync label. -/
theorem loadConfigFromCRD_ok {spec : SecretBackendConfigSpec} {c : Config}
    (loaded : loadConfigFromCRD spec = .ok c) :
    c.backend = spec.backend ∧ c.vaultConfig = spec.vaultConfig.map loadVaultConfigFromCRD ∧
      c.syncLabel = spec.syncLabel := by
  cases loaded
  exact ⟨rfl, rfl, rfl⟩

/-- Every configuration the environment yields is a vault configuration with a server
address: the openbao and unknown kinds and a missing `VAULT_ADDR` are refused. -/
theorem loadConfigFromEnv_ok {getenv : String → String} {config : Config}
    (success : loadConfigFromEnv getenv = .ok config) :
    config.backend = defaultBackendType ∧
      ∃ vc, config.vaultConfig = some vc ∧ vc.address = getenv "VAULT_ADDR" ∧ vc.address ≠ "" := by
  unfold loadConfigFromEnv at success
  simp only at success
  split at success
  · split at success
    · cases success
    · rename_i kind hasAddress
      cases success
      exact ⟨kind, _, rfl, rfl, hasAddress⟩
  · split at success <;> cases success

end BmcSecretOperator
