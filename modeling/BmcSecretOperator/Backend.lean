import BmcSecretOperator.Api

/-!
# Stores, path builders and the store contract

Source: secretbackend/interface.go:24-43 (`Backend`), pathbuilder (src/unnamed/part_000:24-56),
vault/vault.go:30-50 (`vault.Config`, `VaultBackend`), and the map-backed store the
controller tests run against (src/unnamed/part_003:28-135).

A store is a handle the factory constructed; what it reads and writes is the remote
key-value store of its destination, the pair (address, mount path). Two handles built
for one destination see the same data. Each remote call may fail: the `fault` oracle
answers for the call of a given serial number, so quantifying over oracles covers every
pattern of failures. A call that fails changes nothing. The metrics decorator
(`instrumentedBackend`) forwards every call unchanged; its series are modelled in
`BmcSecretOperator.Instrumented`.

The text/template library is a parameter (`TemplateEngine`): `parse` reports the error
of a template that does not compile, `execute` renders one.
-/

set_option autoImplicit false

namespace BmcSecretOperator

/-- Results of fallible calls are compared in statements about concrete runs. -/
instance decidableEqExcept {ε α : Type} [DecidableEq ε] [DecidableEq α] :
    DecidableEq (Except ε α)
  | .error a, .error b => decidable_of_iff (a = b) (by simp)
  | .ok a, .ok b => decidable_of_iff (a = b) (by simp)
  | .error _, .ok _ => isFalse Except.noConfusion
  | .ok _, .error _ => isFalse Except.noConfusion

/-- `PathVariables`. -/
structure PathVariables where
  region : String
  hostname : String
  username : String
  deriving DecidableEq, Repr

/-- The template library: compile errors and rendering. -/
structure TemplateEngine where
  parse : String → Option String
  execute : String → PathVariables → Except String String

/-- `PathBuilder`: a compiled template. `load` records the configuration load it was
built from (bookkeeping of the model, not a source field). -/
structure PathBuilder where
  template : String
  load : Nat
  deriving DecidableEq, Repr

/-- `NewPathBuilder`. -/
def newPathBuilder (templates : TemplateEngine) (templateStr : String) (load : Nat) :
    Except String PathBuilder :=
  match templates.parse templateStr with
  | some e => .error ("failed to parse path template: " ++ e)
  | none => .ok ⟨templateStr, load⟩

/-- `(*PathBuilder).Build`; on error the source returns the path `""`. -/
def PathBuilder.build (templates : TemplateEngine) (pb : PathBuilder) (vars : PathVariables) :
    Except String String :=
  match templates.execute pb.template vars with
  | .error e => .error ("failed to execute path template: " ++ e)
  | .ok path => .ok path

theorem newPathBuilder_ok {templates : TemplateEngine} {templateStr : String} {load : Nat}
    {pb : PathBuilder} (success : newPathBuilder templates templateStr load = .ok pb) :
    pb = ⟨templateStr, load⟩ := by
  unfold newPathBuilder at success
  split at success <;> simp_all

namespace Vault

/-- `vault.Config`, the settings one `VaultBackend` is built from. -/
structure Config where
  address : String
  authMethod : String
  kubernetesAuthRole : String
  kubernetesAuthPath : String
  token : String
  mountPath : String
  skipVerify : Bool
  caCert : String
  deriving DecidableEq, Repr

end Vault

/-- Where a store's data lives: the server address and the KV mount. -/
structure Destination where
  address : String
  mountPath : String
  deriving DecidableEq, Repr

/-- A constructed store handle. `id` is its construction serial and `load` the
configuration load it was built from; both are bookkeeping of the model. -/
structure Store where
  id : Nat
  config : Vault.Config
  load : Nat
  deriving DecidableEq, Repr

def Store.destination (store : Store) : Destination :=
  ⟨store.config.address, store.config.mountPath⟩

/-- A value of a stored `map[string]any`; only the `.(string)` assertion is observed. -/
inductive SecretValue
  | str (value : String)
  | other
  deriving DecidableEq, Repr

abbrev SecretData := List (String × SecretValue)

/-- The record every sync pass writes: `{"username": u, "password": p}`. -/
def secretData (username password : String) : SecretData :=
  [("username", .str username), ("password", .str password)]

/-- The remote stores' contents, and the serial number of the next remote call. -/
structure Remote where
  data : Destination → String → Option SecretData
  calls : Nat

namespace Remote

variable (fault : Nat → Option String) (store : Store) (path : String)

/-- Consume one call serial. -/
def tick (r : Remote) : Remote := { r with calls := r.calls + 1 }

/-- `SecretExists`. -/
def secretExists (r : Remote) : Except String Bool × Remote :=
  match fault r.calls with
  | some e => (.error e, r.tick)
  | none => (.ok (r.data store.destination path).isSome, r.tick)

/-- `ReadSecret`. -/
def readSecret (r : Remote) : Except String SecretData × Remote :=
  match fault r.calls with
  | some e => (.error e, r.tick)
  | none =>
    match r.data store.destination path with
    | some data => (.ok data, r.tick)
    | none => (.error ("secret not found at " ++ path), r.tick)

/-- `WriteSecret`: on success the destination holds `data` at `path`. -/
def writeSecret (data : SecretData) (r : Remote) : Except String Unit × Remote :=
  match fault r.calls with
  | some e => (.error e, r.tick)
  | none =>
    (.ok (), { data := Function.update r.data store.destination
                (Function.update (r.data store.destination) path (some data)),
               calls := r.calls + 1 })

/-- `DeleteSecret`: on success the destination no longer holds `path`. -/
def deleteSecret (r : Remote) : Except String Unit × Remote :=
  match fault r.calls with
  | some e => (.error e, r.tick)
  | none =>
    (.ok (), { data := Function.update r.data store.destination
                (Function.update (r.data store.destination) path none),
               calls := r.calls + 1 })

@[simp] theorem tick_data (r : Remote) : r.tick.data = r.data := rfl

/-- Every store call takes one call serial. -/
@[simp] theorem secretExists_calls (r : Remote) :
    (secretExists fault store path r).2.calls = r.calls + 1 := by
  unfold secretExists; split <;> rfl

@[simp] theorem readSecret_calls (r : Remote) :
    (readSecret fault store path r).2.calls = r.calls + 1 := by
  unfold readSecret; split
  · rfl
  · split <;> rfl

@[simp] theorem writeSecret_calls (data : SecretData) (r : Remote) :
    (writeSecret fault store path data r).2.calls = r.calls + 1 := by
  unfold writeSecret; split <;> rfl

@[simp] theorem deleteSecret_calls (r : Remote) :
    (deleteSecret fault store path r).2.calls = r.calls + 1 := by
  unfold deleteSecret; split <;> rfl

@[simp] theorem secretExists_data (r : Remote) :
    (secretExists fault store path r).2.data = r.data := by
  unfold secretExists; split <;> rfl

@[simp] theorem readSecret_data (r : Remote) :
    (readSecret fault store path r).2.data = r.data := by
  unfold readSecret; split
  · rfl
  · split <;> rfl

theorem secretExists_ok {r : Remote} {b : Bool}
    (success : (secretExists fault store path r).1 = .ok b) :
    b = (r.data store.destination path).isSome := by
  unfold secretExists at success
  split at success <;> simp_all

theorem readSecret_ok {r : Remote} {data : SecretData}
    (success : (readSecret fault store path r).1 = .ok data) :
    r.data store.destination path = some data := by
  unfold readSecret at success
  split at success
  · simp at success
  · split at success <;> simp_all

/-- Setting one (destination, path) of the stores leaves every other as it was. -/
theorem update_at_apply (data : Destination → String → Option SecretData) (dest' : Destination)
    (path' : String) (v : Option SecretData) (dest : Destination) (p : String) :
    Function.update data dest' (Function.update (data dest') path' v) dest p =
      if dest = dest' ∧ p = path' then v else data dest p := by
  by_cases hd : dest = dest'
  · subst hd; by_cases hp : p = path' <;> simp [hp]
  · simp [Function.update_apply, hd]

/-- A write leaves every other (destination, path) as it was, and sets its own on success. -/
theorem writeSecret_data (data : SecretData) (r : Remote) (dest : Destination) (p : String) :
    (writeSecret fault store path data r).2.data dest p =
      if dest = store.destination ∧ p = path ∧ fault r.calls = none then some data
      else r.data dest p := by
  unfold writeSecret
  split <;> simp_all [update_at_apply]

theorem writeSecret_ok_iff (data : SecretData) (r : Remote) :
    (writeSecret fault store path data r).1 = .ok () ↔ fault r.calls = none := by
  unfold writeSecret; split <;> simp_all

theorem deleteSecret_ok_iff (r : Remote) :
    (deleteSecret fault store path r).1 = .ok () ↔ fault r.calls = none := by
  unfold deleteSecret; split <;> simp_all

theorem deleteSecret_data (r : Remote) (dest : Destination) (p : String) :
    (deleteSecret fault store path r).2.data dest p =
      if dest = store.destination ∧ p = path ∧ fault r.calls = none then none
      else r.data dest p := by
  unfold deleteSecret
  split <;> simp_all [update_at_apply]

end Remote

end BmcSecretOperator
