import BmcSecretOperator.Sync
import BmcSecretOperator.Reconcile
import BmcSecretOperator.Instrumented

/-!
# The device loop over the Vault store

Source: bmcsecret_controller.go:216-315 (the device loop of `reconcileSingleEngine`),
:587-609 (the delete loop of `handleDeletion`) and :620-645 (`needsUpdate`), all written
against the `Backend` interface (interface.go:23-39), and vault/vault.go:106-184 (the methods
of the Vault store).

`BmcSecretOperator.Sync` runs the loop against the map store `Remote`. The source writes it
against the interface, so here it is over any store (`syncDevicesOn`); the map store is one
instance (`syncDevices_eq_on`) and the Vault store another. The Vault store refines the map
store one call at a time (`VaultBackend.writeSecret_refines` and its siblings), and so over a
whole loop: from a server the map represents, the loop over the Vault store records the same
entries, counts and effects, error texts apart, and leaves a server that the map loop's stores
represent (`vault_sync_loop_refines`).

`SecretExists` is the call where the two may part: the Vault store reads a failed read whose
message mentions "secret not found" as absence, and the loop then writes where the map loop
records a failure. The refinement holds when no message of the loop can mention the phrase:
not the mount, not a rendered path, not an error text of the server.

That write is the only cost. Over any store that keeps the interface's contract
(`StoreLaws`), which the Vault store does, every entry the loop records `Success` has the
current password at its path when the loop ends (`vault_sync_success_holds`), whatever the
faults and their texts.

With no request of the server failing, a pass leaves every rendered path holding the password,
and the next pass only reads: it writes nothing, counts every device a success, and adds no
KV version anywhere on the server (`vault_second_pass_adds_no_version`). The cleanup of a
deleted record, with every delete answered, leaves no version, current or past, at any path it
renders and touches no other (`vault_cleanup_purges_versions`).
-/

set_option autoImplicit false

namespace BmcSecretOperator

variable {σ : Type}

/-- `needsUpdate` against any store. -/
def needsUpdateOn (backend : SecretBackend σ) (path password : String) (s : σ) :
    Except String Bool × σ :=
  match backend.secretExists path s with
  | (.error e, s1) => (.error e, s1)
  | (.ok false, s1) => (.ok true, s1)
  | (.ok true, s1) =>
    match backend.readSecret path s1 with
    | (.error e, s2) => (.error e, s2)
    | (.ok data, s2) =>
      match data.lookup "password" with
      | some (.str current) => (.ok (current ≠ password), s2)
      | _ => (.ok true, s2)

theorem needsUpdate_eq_on (fault : Nat → Option String) (store : Store) (path password : String)
    (r : Remote) :
    needsUpdate fault store path password r =
      needsUpdateOn (Remote.secretBackend fault store) path password r := by
  rw [needsUpdate_eq]
  unfold needsUpdateOn
  simp only [Remote.secretBackend, Remote.secretExists, Remote.readSecret, Remote.tick]
  cases asked : fault r.calls <;> cases stored : r.data store.destination path <;>
    cases read : fault (r.calls + 1) <;>
    simp only [asked, stored, read, Option.isSome_some, Option.isSome_none]
  rename_i data
  rcases found : data.lookup "password" with _ | _ | _ <;> simp [holdsPassword, found]

/-- The loop's accumulators over a store whose state is `σ`. -/
structure LoopState (σ : Type) where
  store : σ
  log : List Effect
  backendPaths : List BackendPath
  syncSuccess : Nat
  syncErrors : Nat

/-- Append the entry and count it. -/
def LoopState.record (st : LoopState σ) (entry : BackendPath) (s : σ) (effects : List Effect) :
    LoopState σ :=
  { store := s, log := st.log ++ effects, backendPaths := st.backendPaths ++ [entry],
    syncSuccess := if entry.syncStatus = "Success" then st.syncSuccess + 1 else st.syncSuccess,
    syncErrors := if entry.syncStatus = "Success" then st.syncErrors else st.syncErrors + 1 }

/-- The map loop's accumulators as a `LoopState`. -/
def SyncState.toLoop (st : SyncState) : LoopState Remote :=
  ⟨st.remote, st.log, st.backendPaths, st.syncSuccess, st.syncErrors⟩

section Loop

variable (env : Env) (regionLabelKey username password : String) (syncTime : Nat)

/-- One iteration of the device loop against `backend`, the store of `target`. -/
def syncPairCallsOn (backend : SecretBackend σ) (target : Target) (bmc : BMC) (s : σ) :
    BackendPath × σ × List Effect :=
  let vars := pathVariables regionLabelKey username bmc
  let entry := fun (path status message : String) =>
    ({ path, bmcName := bmc.name, region := vars.region, hostname := vars.hostname, username,
       lastSyncTime := syncTime, syncStatus := status, errorMessage := message } : BackendPath)
  match target.pathBuilder.build env.templates vars with
  | .error e => (entry "" "Failed" (target.tag e), s, [])
  | .ok path =>
    match needsUpdateOn backend path password s with
    | (.error e, s1) => (entry path "Failed" (target.tag e), s1, [])
    | (.ok false, s1) => (entry path "Success" "", s1, [])
    | (.ok true, s1) =>
      let written := Effect.write target.store.destination path (secretData username password)
      match backend.writeSecret path (secretData username password) s1 with
      | (.error e, s2) =>
        (entry path "Failed" (target.tag e), s2,
          [written, .event "Warning" "SyncFailed" (target.syncFailedMessage path e)])
      | (.ok (), s2) => (entry path "Success" "", s2, [written])

/-- The device loop of one destination against `backend`. -/
def syncDevicesOn (backend : SecretBackend σ) (target : Target) :
    List BMC → LoopState σ → LoopState σ
  | [], st => st
  | bmc :: rest, st =>
    let calls := syncPairCallsOn env regionLabelKey username password syncTime backend target bmc
      st.store
    syncDevicesOn backend target rest
      (st.record calls.1 calls.2.1 (Effect.attempt target.engine target.store.destination bmc.name :: calls.2.2))

theorem syncPairCalls_eq_on (target : Target) (bmc : BMC) (r : Remote) :
    syncPairCalls env regionLabelKey username password syncTime target bmc r =
      syncPairCallsOn env regionLabelKey username password syncTime
        (Remote.secretBackend env.remoteFault target.store) target bmc r := by
  unfold syncPairCalls syncPairCallsOn
  dsimp only
  rcases rendered : target.pathBuilder.build env.templates
    (pathVariables regionLabelKey username bmc) with _ | path
  · rfl
  · dsimp only
    rw [needsUpdate_eq_on]
    rcases need : needsUpdateOn (Remote.secretBackend env.remoteFault target.store) path password r
      with ⟨_ | _ | _, r1⟩
    · rfl
    · rfl
    · dsimp only
      simp only [Remote.secretBackend]
      rcases written : Remote.writeSecret env.remoteFault target.store path
        (secretData username password) r1 with ⟨_ | _, r2⟩ <;> rfl

/-- The loop of `BmcSecretOperator.Sync` is the loop over the map store. -/
theorem syncDevices_eq_on (target : Target) (bmcs : List BMC) (st : SyncState) :
    (syncDevices env regionLabelKey username password syncTime target bmcs st).toLoop =
      syncDevicesOn env regionLabelKey username password syncTime
        (Remote.secretBackend env.remoteFault target.store) target bmcs st.toLoop := by
  induction bmcs generalizing st with
  | nil => rfl
  | cons bmc rest ih =>
    simp only [syncDevices, syncDevicesOn, syncPair, ih]
    rw [syncPairCalls_eq_on]
    rfl

end Loop

/-! ## Agreement up to error texts -/

/-- A status entry without its error text. -/
def BackendPath.withoutMessage (e : BackendPath) : BackendPath := { e with errorMessage := "" }

/-- An effect without the text of its event. -/
def Effect.withoutMessage : Effect → Effect
  | .event type reason _ => .event type reason ""
  | e => e

/-- The loop over the Vault store and the loop over the map store agree: the server is what
the map holds at the store's destination, and the effects, entries and counts are the same,
error texts apart. -/
structure LoopAgrees (v : VaultBackend) (store : Store) (a : LoopState KVServer)
    (b : LoopState Remote) : Prop where
  represents : v.Represents store a.store b.store
  log : a.log.map Effect.withoutMessage = b.log.map Effect.withoutMessage
  backendPaths : a.backendPaths.map BackendPath.withoutMessage =
    b.backendPaths.map BackendPath.withoutMessage
  syncSuccess : a.syncSuccess = b.syncSuccess
  syncErrors : a.syncErrors = b.syncErrors

/-- Two results that agree but for error texts: both failed, or both the same value. -/
theorem toOption_eq_cases {α : Type} {a b : Except String α} (same : a.toOption = b.toOption) :
    (∃ e₁ e₂, a = .error e₁ ∧ b = .error e₂) ∨ ∃ x, a = .ok x ∧ b = .ok x := by
  cases a <;> cases b <;> simp_all [Except.toOption]

namespace VaultBackend

variable (v : VaultBackend) (fault : Nat → Option String) (store : Store)
variable {srv : KVServer} {r : Remote}

/-- `SecretExists` agrees with the map store, error texts apart, when the message of a failed
read at the path cannot mention "secret not found". -/
theorem secretExists_agrees (path : String) (rep : v.Represents store srv r)
    (quiet : ∀ e, fault srv.calls = some e → ¬ stringsContains (v.readFailure path e) secretNotFound) :
    (v.secretExists fault path srv).1.toOption = (Remote.secretExists fault store path r).1.toOption ∧
      v.Represents store (v.secretExists fault path srv).2 (Remote.secretExists fault store path r).2 := by
  refine ⟨?_, (v.secretExists_refines fault path rep).2⟩
  cases answer : fault srv.calls with
  | none => rw [(v.secretExists_refines fault path rep).1 answer]
  | some e =>
    rw [v.secretExists_failed fault answer, if_neg (quiet e answer)]
    unfold Remote.secretExists
    rw [rep.1, answer]
    rfl

theorem needsUpdateOn_agrees (path password : String) (rep : v.Represents store srv r)
    (quiet : ∀ e, fault srv.calls = some e → ¬ stringsContains (v.readFailure path e) secretNotFound) :
    (needsUpdateOn (v.secretBackend fault) path password srv).1.toOption =
        (needsUpdateOn (Remote.secretBackend fault store) path password r).1.toOption ∧
      v.Represents store (needsUpdateOn (v.secretBackend fault) path password srv).2
        (needsUpdateOn (Remote.secretBackend fault store) path password r).2 := by
  obtain ⟨exists_same, rep1⟩ := v.secretExists_agrees fault store path rep quiet
  unfold needsUpdateOn
  simp only [VaultBackend.secretBackend, Remote.secretBackend]
  generalize v.secretExists fault path srv = A at exists_same rep1 ⊢
  generalize Remote.secretExists fault store path r = B at exists_same rep1 ⊢
  obtain ⟨ra, sa⟩ := A
  obtain ⟨rb, sb⟩ := B
  rcases toOption_eq_cases exists_same with ⟨e₁, e₂, rfl, rfl⟩ | ⟨found, rfl, rfl⟩
  · exact ⟨rfl, rep1⟩
  · cases found
    · exact ⟨rfl, rep1⟩
    · obtain ⟨read_same, rep2⟩ := v.readSecret_refines fault path rep1
      dsimp only
      generalize v.readSecret fault path sa = C at read_same rep2 ⊢
      generalize Remote.readSecret fault store path sb = D at read_same rep2 ⊢
      obtain ⟨rc, sc⟩ := C
      obtain ⟨rd, sd⟩ := D
      rcases toOption_eq_cases read_same with ⟨e₁, e₂, rfl, rfl⟩ | ⟨data, rfl, rfl⟩
      · exact ⟨rfl, rep2⟩
      · dsimp only
        split <;> exact ⟨rfl, rep2⟩

end VaultBackend

section Refinement

variable {env : Env} {regionLabelKey username password : String} {syncTime : Nat}

/-- One iteration against the Vault store does what it does against the map store, error
texts apart. -/
theorem syncPairCallsOn_agrees (v : VaultBackend) (target : Target) (bmc : BMC)
    {srv : KVServer} {r : Remote} (rep : v.Represents target.store srv r)
    (quiet : ∀ path, pairPath env regionLabelKey username target bmc = .ok path →
      ∀ e, env.remoteFault srv.calls = some e →
        ¬ stringsContains (v.readFailure path e) secretNotFound) :
    (syncPairCallsOn env regionLabelKey username password syncTime (v.secretBackend env.remoteFault)
        target bmc srv).1.withoutMessage =
      (syncPairCallsOn env regionLabelKey username password syncTime
        (Remote.secretBackend env.remoteFault target.store) target bmc r).1.withoutMessage ∧
    v.Represents target.store
      (syncPairCallsOn env regionLabelKey username password syncTime (v.secretBackend env.remoteFault)
        target bmc srv).2.1
      (syncPairCallsOn env regionLabelKey username password syncTime
        (Remote.secretBackend env.remoteFault target.store) target bmc r).2.1 ∧
    (syncPairCallsOn env regionLabelKey username password syncTime (v.secretBackend env.remoteFault)
        target bmc srv).2.2.map Effect.withoutMessage =
      (syncPairCallsOn env regionLabelKey username password syncTime
        (Remote.secretBackend env.remoteFault target.store) target bmc r).2.2.map
        Effect.withoutMessage := by
  unfold syncPairCallsOn
  unfold pairPath at quiet
  dsimp only
  rcases rendered : target.pathBuilder.build env.templates (pathVariables regionLabelKey username bmc)
    with _ | path
  · exact ⟨rfl, rep, rfl⟩
  · obtain ⟨need_same, rep1⟩ :=
      v.needsUpdateOn_agrees env.remoteFault target.store path password rep (quiet path rendered)
    dsimp only
    generalize needsUpdateOn (v.secretBackend env.remoteFault) path password srv = A
      at need_same rep1 ⊢
    generalize needsUpdateOn (Remote.secretBackend env.remoteFault target.store) path password r = B
      at need_same rep1 ⊢
    obtain ⟨ra, sa⟩ := A
    obtain ⟨rb, sb⟩ := B
    rcases toOption_eq_cases need_same with ⟨e₁, e₂, rfl, rfl⟩ | ⟨need, rfl, rfl⟩
    · exact ⟨rfl, rep1, rfl⟩
    · cases need
      · exact ⟨rfl, rep1, rfl⟩
      · obtain ⟨write_same, rep2⟩ :=
          v.writeSecret_refines env.remoteFault path (secretData username password) rep1
        dsimp only
        simp only [VaultBackend.secretBackend, Remote.secretBackend]
        generalize v.writeSecret env.remoteFault path (secretData username password) sa = C
          at write_same rep2 ⊢
        generalize Remote.writeSecret env.remoteFault target.store path
          (secretData username password) sb = D at write_same rep2 ⊢
        obtain ⟨_ | ⟨⟩, sc⟩ := C <;> obtain ⟨_ | ⟨⟩, sd⟩ := D <;> simp at write_same
        · exact ⟨rfl, rep2, rfl⟩
        · exact ⟨rfl, rep2, rfl⟩

/-- Over a whole device loop of one destination, from a server its map represents: the loop
over the Vault store records the same entries, counts and effects as the loop over the map
store, error texts apart, and leaves a server the map loop's stores represent, provided no
message of the loop can mention "secret not found": the mount, the rendered paths and the
server's error texts do not contain it. -/
theorem vault_sync_loop_refines (v : VaultBackend) (target : Target) (bmcs : List BMC)
    (mount : ¬ stringsContains v.mountPath secretNotFound)
    (errors : ∀ n e, env.remoteFault n = some e → ¬ stringsContains e secretNotFound)
    (paths : ∀ bmc ∈ bmcs, ∀ path, pairPath env regionLabelKey username target bmc = .ok path →
      ¬ stringsContains path secretNotFound)
    (a : LoopState KVServer) (st : SyncState) (agree : LoopAgrees v target.store a st.toLoop) :
    LoopAgrees v target.store
      (syncDevicesOn env regionLabelKey username password syncTime (v.secretBackend env.remoteFault)
        target bmcs a)
      (syncDevices env regionLabelKey username password syncTime target bmcs st).toLoop := by
  rw [syncDevices_eq_on]
  generalize st.toLoop = b at agree
  induction bmcs generalizing a b with
  | nil => exact agree
  | cons bmc rest ih =>
    refine ih (fun d mem => paths d (.tail _ mem)) _ _ ?_
    have quiet : ∀ path, pairPath env regionLabelKey username target bmc = .ok path →
        ∀ e, env.remoteFault a.store.calls = some e →
          ¬ stringsContains (v.readFailure path e) secretNotFound :=
      fun path rendered e failed said =>
        (v.readFailure_mentions said).elim mount
          (Or.elim · (paths bmc (.head _) path rendered) (errors _ e failed))
    obtain ⟨entry, rep, effects⟩ := syncPairCallsOn_agrees v target bmc agree.represents quiet
    have status := congrArg BackendPath.syncStatus entry
    refine ⟨rep, ?_, ?_, ?_, ?_⟩
    · simp only [LoopState.record, List.map_append, List.map_cons, agree.log, effects]
    · simp only [LoopState.record, List.map_append, List.map_cons, List.map_nil,
        agree.backendPaths, entry]
    · simp only [LoopState.record, agree.syncSuccess]
      exact congrArg (fun s => if s = "Success" then _ else _) status
    · simp only [LoopState.record, agree.syncErrors]
      exact congrArg (fun s => if s = "Success" then _ else _) status

end Refinement

/-- The Vault store of the default target: KV v2 at mount `secret`. -/
def defaultVaultStore : VaultBackend := ⟨"secret", true⟩

/-- An empty server and an empty map, before any call. -/
def emptyServerLoop : LoopState KVServer := ⟨⟨fun _ _ => [], 0⟩, [], [], 0, 0⟩

def emptyMapLoop : SyncState := ⟨⟨fun _ _ => none, 0⟩, [], [], 0, 0⟩

theorem vault_sync_loop_refines_on_one_device :
    ¬ stringsContains defaultVaultStore.mountPath secretNotFound ∧
      (∀ n e, Env.reliable.remoteFault n = some e → ¬ stringsContains e secretNotFound) ∧
      (∀ bmc ∈ [deviceOne], ∀ path,
        pairPath Env.reliable "region" "admin" defaultVaultTarget bmc = .ok path →
          ¬ stringsContains path secretNotFound) ∧
      LoopAgrees defaultVaultStore defaultVaultTarget.store emptyServerLoop emptyMapLoop.toLoop ∧
      LoopAgrees defaultVaultStore defaultVaultTarget.store
        (syncDevicesOn Env.reliable "region" "admin" "pw" 0
          (defaultVaultStore.secretBackend Env.reliable.remoteFault) defaultVaultTarget [deviceOne]
          emptyServerLoop)
        (syncDevices Env.reliable "region" "admin" "pw" 0 defaultVaultTarget [deviceOne]
          emptyMapLoop).toLoop :=
  have mount : ¬ stringsContains defaultVaultStore.mountPath secretNotFound := by decide
  have errors : ∀ n e, Env.reliable.remoteFault n = some e → ¬ stringsContains e secretNotFound :=
    fun _ _ failed => nomatch failed
  have paths : ∀ bmc ∈ [deviceOne], ∀ path,
      pairPath Env.reliable "region" "admin" defaultVaultTarget bmc = .ok path →
        ¬ stringsContains path secretNotFound := by
    simp only [List.mem_singleton, forall_eq]
    intro path rendered
    cases rendered
    decide
  have agree : LoopAgrees defaultVaultStore defaultVaultTarget.store emptyServerLoop
      emptyMapLoop.toLoop := ⟨⟨rfl, fun _ => rfl⟩, rfl, rfl, rfl, rfl⟩
  ⟨mount, errors, paths, agree, vault_sync_loop_refines defaultVaultStore defaultVaultTarget
    [deviceOne] mount errors paths _ _ agree⟩

/-! ## No false success over a store that keeps the interface's contract

The loop needs little of a store to report `Success` only where the password is: reads and
existence checks change no data, a successful read returns the path's data, and a write stores
its data exactly when it succeeds. Whatever `SecretExists` answers, a wrong answer costs a
write, never a false `Success`: so over the Vault store the result holds with no condition on
error texts, where the refinement above needs one. -/

/-- What the device loop relies on from a store, read through `view`, the data the store holds
at each path: existence checks and reads change no data, a read that succeeds returns what the
path holds, and a write stores its data at its path when it succeeds and changes nothing when
it fails. -/
structure StoreLaws (backend : SecretBackend σ) (view : σ → String → Option SecretData) : Prop where
  secretExists_view : ∀ path s, view (backend.secretExists path s).2 = view s
  readSecret_view : ∀ path s, view (backend.readSecret path s).2 = view s
  readSecret_ok : ∀ path s data, (backend.readSecret path s).1 = .ok data → view s path = some data
  writeSecret_view : ∀ path data s p, view (backend.writeSecret path data s).2 p =
    if p = path ∧ (backend.writeSecret path data s).1 = .ok () then some data else view s p

/-- The Vault store keeps the contract, read at its mount. -/
theorem VaultBackend.storeLaws (v : VaultBackend) (fault : Nat → Option String) :
    StoreLaws (v.secretBackend fault) (fun srv => srv.current v.mountPath) where
  secretExists_view path s := by simp [VaultBackend.secretBackend]
  readSecret_view path s := by simp [VaultBackend.secretBackend]
  readSecret_ok path s data read := by
    simp only [VaultBackend.secretBackend] at read
    cases answer : fault s.calls with
    | none =>
      obtain ⟨e, -, answered⟩ : ∃ e, stringsContains e secretNotFound ∧
          v.readSecret fault path s = _ := v.readSecret_answered fault answer
      rw [answered] at read
      split at read <;> simp_all
    | some e => simp [v.readSecret_failed fault answer] at read
  writeSecret_view path data s p := by
    simp [VaultBackend.secretBackend, v.writeSecret_current, v.writeSecret_ok_iff]

/-- Every entry recorded `Success` has the current password at its path in the store. -/
def SuccessHolds (view : σ → String → Option SecretData) (password : String) (st : LoopState σ) :
    Prop :=
  ∀ entry ∈ st.backendPaths, entry.syncStatus = "Success" →
    holdsPassword (view st.store entry.path) password

namespace StoreLaws

variable {backend : SecretBackend σ} {view : σ → String → Option SecretData}
  (laws : StoreLaws backend view)
include laws

/-- `needsUpdate` changes no data, and answers that no write is needed only when the path
holds the password. -/
theorem needsUpdateOn_view (path password : String) (s : σ) :
    view (needsUpdateOn backend path password s).2 = view s ∧
      ((needsUpdateOn backend path password s).1 = .ok false →
        holdsPassword (view s path) password) := by
  have asked := laws.secretExists_view path s
  unfold needsUpdateOn
  rcases found : backend.secretExists path s with ⟨_ | _ | _, s1⟩ <;> rw [found] at asked
  · exact ⟨asked, nofun⟩
  · exact ⟨asked, nofun⟩
  · have read := laws.readSecret_view path s1
    have held := laws.readSecret_ok path s1
    dsimp only
    rcases answer : backend.readSecret path s1 with ⟨_ | data, s2⟩ <;> rw [answer] at read held
    · exact ⟨read.trans asked, nofun⟩
    · rw [← asked, held data rfl]
      dsimp only
      split
      · rename_i current stored
        refine ⟨read, fun same => ?_⟩
        simp_all [holdsPassword]
      · exact ⟨read, nofun⟩

section Loop

variable (env : Env) (regionLabelKey username password : String) (syncTime : Nat)

/-- An iteration changes the store's data only by writing the current record. -/
theorem syncPairCallsOn_view (target : Target) (bmc : BMC) (s : σ) (p : String) :
    view (syncPairCallsOn env regionLabelKey username password syncTime backend target bmc s).2.1 p =
        view s p ∨
      view (syncPairCallsOn env regionLabelKey username password syncTime backend target bmc s).2.1 p =
        some (secretData username password) := by
  unfold syncPairCallsOn
  dsimp only
  rcases rendered : target.pathBuilder.build env.templates (pathVariables regionLabelKey username bmc)
    with _ | path
  · exact .inl rfl
  · obtain ⟨same, -⟩ := laws.needsUpdateOn_view path password s
    dsimp only
    rcases need : needsUpdateOn backend path password s with ⟨_ | _ | _, s1⟩ <;> rw [need] at same
    · exact .inl (congrFun same p)
    · exact .inl (congrFun same p)
    · have written := laws.writeSecret_view path (secretData username password) s1 p
      dsimp only
      rcases write : backend.writeSecret path (secretData username password) s1 with ⟨_ | _, s2⟩ <;>
        rw [write] at written <;> dsimp only <;> rw [written, same] <;> split
      all_goals first | exact .inr rfl | exact .inl rfl

/-- A path holding the current password keeps holding it through an iteration. -/
theorem syncPairCallsOn_keeps_holds (target : Target) (bmc : BMC) (s : σ) {p : String}
    (holds : holdsPassword (view s p) password) :
    holdsPassword (view (syncPairCallsOn env regionLabelKey username password syncTime backend
      target bmc s).2.1 p) password := by
  rcases laws.syncPairCallsOn_view env regionLabelKey username password syncTime target bmc s p
    with same | written
  · rwa [same]
  · rw [written]; exact holdsPassword_secretData username password

/-- An entry recorded `Success` leaves the current password at its path. -/
theorem syncPairCallsOn_success (target : Target) (bmc : BMC) (s : σ) :
    (syncPairCallsOn env regionLabelKey username password syncTime backend target bmc
      s).1.syncStatus = "Success" →
    holdsPassword (view (syncPairCallsOn env regionLabelKey username password syncTime backend
      target bmc s).2.1 (syncPairCallsOn env regionLabelKey username password syncTime backend
      target bmc s).1.path) password := by
  unfold syncPairCallsOn
  dsimp only
  rcases rendered : target.pathBuilder.build env.templates (pathVariables regionLabelKey username bmc)
    with _ | path
  · simp
  · obtain ⟨same, unneeded⟩ := laws.needsUpdateOn_view path password s
    dsimp only
    rcases need : needsUpdateOn backend path password s with ⟨_ | _ | _, s1⟩ <;>
      rw [need] at same unneeded <;> dsimp only
    · simp
    · intro; rw [same]; exact unneeded rfl
    · have written := laws.writeSecret_view path (secretData username password) s1 path
      rcases write : backend.writeSecret path (secretData username password) s1 with ⟨_ | _, s2⟩ <;>
        rw [write] at written <;> dsimp only
      · simp
      · intro; simp [written, holdsPassword_secretData]

/-- One iteration keeps every entry recorded `Success` backed by the store, the one it
appends included. -/
theorem successHolds_record (target : Target) (bmc : BMC) (st : LoopState σ)
    (effects : List Effect) (holds : SuccessHolds view password st) :
    SuccessHolds view password (st.record
      (syncPairCallsOn env regionLabelKey username password syncTime backend target bmc st.store).1
      (syncPairCallsOn env regionLabelKey username password syncTime backend target bmc st.store).2.1
      effects) := by
  intro entry mem success
  simp only [LoopState.record, List.mem_append, List.mem_singleton] at mem ⊢
  rcases mem with old | rfl
  · exact laws.syncPairCallsOn_keeps_holds env regionLabelKey username password syncTime target bmc
      st.store (holds entry old success)
  · exact laws.syncPairCallsOn_success env regionLabelKey username password syncTime target bmc
      st.store success

/-- Over a whole device loop, every entry recorded `Success` stays backed by the store. -/
theorem syncDevicesOn_successHolds (target : Target) (bmcs : List BMC) (st : LoopState σ)
    (holds : SuccessHolds view password st) :
    SuccessHolds view password
      (syncDevicesOn env regionLabelKey username password syncTime backend target bmcs st) := by
  induction bmcs generalizing st with
  | nil => exact holds
  | cons bmc rest ih => exact ih _ (laws.successHolds_record env regionLabelKey username password
      syncTime target bmc st _ holds)

end Loop

end StoreLaws

/-- From any loop state whose `Success` entries the server backs, a device loop over the Vault
store leaves every entry it records `Success`, and every earlier one, with the current
password at its path on the server: no condition on the faults or their texts. -/
theorem vault_sync_success_holds (env : Env) (regionLabelKey username password : String)
    (syncTime : Nat) (v : VaultBackend) (target : Target) (bmcs : List BMC) (a : LoopState KVServer)
    (start : SuccessHolds (fun srv => srv.current v.mountPath) password a) :
    SuccessHolds (fun srv => srv.current v.mountPath) password
      (syncDevicesOn env regionLabelKey username password syncTime (v.secretBackend env.remoteFault)
        target bmcs a) :=
  (v.storeLaws env.remoteFault).syncDevicesOn_successHolds env regionLabelKey username password
    syncTime target bmcs a start

/-- The first request fails with a text that mentions "secret not found". -/
def Env.firstRequestNotFound : Env :=
  { Env.reliable with remoteFault := fun n => if n = 0 then some "secret not found" else none }

theorem vault_sync_success_holds_after_misread :
    SuccessHolds (fun srv => srv.current defaultVaultStore.mountPath) "pw" emptyServerLoop ∧
      SuccessHolds (fun srv => srv.current defaultVaultStore.mountPath) "pw"
        (syncDevicesOn Env.firstRequestNotFound "region" "admin" "pw" 0
          (defaultVaultStore.secretBackend Env.firstRequestNotFound.remoteFault) defaultVaultTarget
          [deviceOne] emptyServerLoop) :=
  have start : SuccessHolds (fun srv => srv.current defaultVaultStore.mountPath) "pw"
      emptyServerLoop := fun _ mem => nomatch mem
  ⟨start, vault_sync_success_holds Env.firstRequestNotFound "region" "admin" "pw" 0 defaultVaultStore
    defaultVaultTarget [deviceOne] emptyServerLoop start⟩

/-! ## A second pass over a reliable server

With every request answered, the store says truthfully whether a path holds data, returns it,
and accepts every write (`StoreAnswers`). A pass then leaves every rendered path holding the
password, so the next pass finds nothing to do: it only reads. On the Vault server reads add no
version, so the second pass leaves the KV version history of every path as it was. -/

/-- A store that answers every request: `SecretExists` says whether the path holds data, a
read of a path holding data returns it, and every write succeeds. -/
structure StoreAnswers (backend : SecretBackend σ) (view : σ → String → Option SecretData) :
    Prop where
  secretExists_answer : ∀ path s, (backend.secretExists path s).1 = .ok (view s path).isSome
  readSecret_answer : ∀ path s data, view s path = some data →
    (backend.readSecret path s).1 = .ok data
  writeSecret_answer : ∀ path data s, (backend.writeSecret path data s).1 = .ok ()

/-- With no request failing, the Vault store answers every request, read at its mount. -/
theorem VaultBackend.storeAnswers (v : VaultBackend) (fault : Nat → Option String)
    (reliable : ∀ n, fault n = none) :
    StoreAnswers (v.secretBackend fault) (fun srv => srv.current v.mountPath) where
  secretExists_answer path s := by
    simp [VaultBackend.secretBackend, v.secretExists_answered fault (reliable s.calls)]
  readSecret_answer path s data stored := by
    obtain ⟨e, -, answered⟩ : ∃ e, stringsContains e secretNotFound ∧
        v.readSecret fault path s = _ := v.readSecret_answered fault (reliable s.calls)
    simp [VaultBackend.secretBackend, answered, stored]
  writeSecret_answer path data s := (v.writeSecret_ok_iff fault data).mpr (reliable s.calls)

/-- `needsUpdate` keeps whatever existence checks and reads keep. -/
theorem needsUpdateOn_keeps {backend : SecretBackend σ} {β : Type} (hist : σ → β)
    (reads : ∀ path s, hist (backend.secretExists path s).2 = hist s ∧
      hist (backend.readSecret path s).2 = hist s)
    (path password : String) (s : σ) :
    hist (needsUpdateOn backend path password s).2 = hist s := by
  have asked := (reads path s).1
  unfold needsUpdateOn
  rcases found : backend.secretExists path s with ⟨_ | _ | _, s1⟩ <;> rw [found] at asked <;>
    dsimp only
  · exact asked
  · exact asked
  · have read := (reads path s1).2
    rcases answer : backend.readSecret path s1 with ⟨_ | data, s2⟩ <;> rw [answer] at read <;>
      dsimp only
    · exact read.trans asked
    · split <;> exact read.trans asked

namespace StoreLaws

variable {backend : SecretBackend σ} {view : σ → String → Option SecretData}
  (laws : StoreLaws backend view)
include laws

/-- Against an answering store, `needsUpdate` asks for a write exactly when the path does not
hold the password. -/
theorem needsUpdateOn_answered (answers : StoreAnswers backend view) (path password : String)
    (s : σ) :
    (needsUpdateOn backend path password s).1 = .ok !holdsPassword (view s path) password := by
  have kept := laws.secretExists_view path s
  unfold needsUpdateOn
  rw [Prod.fst_eq_iff.mp (answers.secretExists_answer path s)]
  rcases stored : view s path with _ | data
  · simp [holdsPassword]
  · have read := answers.readSecret_answer path _ data (by rw [kept, stored])
    simp only [Option.isSome_some]
    rw [Prod.fst_eq_iff.mp read]
    dsimp only
    split <;> simp_all [holdsPassword]

section Loop

variable (env : Env) (regionLabelKey username password : String) (syncTime : Nat)

/-- Against an answering store, an iteration whose path renders records `Success` at that
path. -/
theorem syncPairCallsOn_answered (answers : StoreAnswers backend view) (target : Target)
    (bmc : BMC) (s : σ) {path : String}
    (rendered : pairPath env regionLabelKey username target bmc = .ok path) :
    (syncPairCallsOn env regionLabelKey username password syncTime backend target bmc
      s).1.syncStatus = "Success" ∧
    (syncPairCallsOn env regionLabelKey username password syncTime backend target bmc
      s).1.path = path := by
  unfold syncPairCallsOn
  unfold pairPath at rendered
  dsimp only
  rw [rendered]
  dsimp only
  rw [Prod.fst_eq_iff.mp (laws.needsUpdateOn_answered answers path password s)]
  cases holdsPassword (view s path) password
  · simp only [Bool.not_false]
    rw [Prod.fst_eq_iff.mp (answers.writeSecret_answer path (secretData username password) _)]
    exact ⟨rfl, rfl⟩
  · exact ⟨rfl, rfl⟩

/-- Against an answering store, an iteration whose path holds the password writes nothing: it
appends no effect, and keeps the store's data and whatever reads keep. -/
theorem syncPairCallsOn_settled {β : Type} (hist : σ → β)
    (reads : ∀ path s, hist (backend.secretExists path s).2 = hist s ∧
      hist (backend.readSecret path s).2 = hist s)
    (answers : StoreAnswers backend view) (target : Target) (bmc : BMC) (s : σ)
    (settled : ∀ path, pairPath env regionLabelKey username target bmc = .ok path →
      holdsPassword (view s path) password) :
    (syncPairCallsOn env regionLabelKey username password syncTime backend target bmc s).2.2 = [] ∧
    hist (syncPairCallsOn env regionLabelKey username password syncTime backend target bmc
      s).2.1 = hist s ∧
    view (syncPairCallsOn env regionLabelKey username password syncTime backend target bmc
      s).2.1 = view s := by
  unfold syncPairCallsOn
  unfold pairPath at settled
  dsimp only
  rcases rendered : target.pathBuilder.build env.templates (pathVariables regionLabelKey username bmc)
    with _ | path
  · exact ⟨rfl, rfl, rfl⟩
  · have need := laws.needsUpdateOn_answered answers path password s
    rw [settled path rendered, Bool.not_true] at need
    dsimp only
    rw [Prod.fst_eq_iff.mp need]
    exact ⟨rfl, needsUpdateOn_keeps hist reads path password s,
      (laws.needsUpdateOn_view path password s).1⟩

/-- A path holding the current password keeps holding it through a loop. -/
theorem syncDevicesOn_keeps_holds (target : Target) (bmcs : List BMC) (st : LoopState σ)
    {p : String} (holds : holdsPassword (view st.store p) password) :
    holdsPassword (view (syncDevicesOn env regionLabelKey username password syncTime backend
      target bmcs st).store p) password := by
  induction bmcs generalizing st with
  | nil => exact holds
  | cons bmc rest ih =>
    exact ih _ (laws.syncPairCallsOn_keeps_holds env regionLabelKey username password syncTime
      target bmc st.store holds)

/-- Against an answering store, a loop leaves every device's rendered path holding the
password. -/
theorem syncDevicesOn_establishes (answers : StoreAnswers backend view) (target : Target)
    (bmcs : List BMC) (st : LoopState σ) :
    ∀ bmc ∈ bmcs, ∀ path, pairPath env regionLabelKey username target bmc = .ok path →
      holdsPassword (view (syncDevicesOn env regionLabelKey username password syncTime backend
        target bmcs st).store path) password := by
  induction bmcs generalizing st with
  | nil => exact fun _ member => nomatch member
  | cons bmc rest ih =>
    rintro d (_ | ⟨_, later⟩) path rendered
    · rw [syncDevicesOn]
      apply laws.syncDevicesOn_keeps_holds
      obtain ⟨success, onPath⟩ := laws.syncPairCallsOn_answered env regionLabelKey username password
        syncTime answers target bmc st.store rendered
      have holds := laws.syncPairCallsOn_success env regionLabelKey username password syncTime
        target bmc st.store success
      rwa [onPath] at holds
    · exact ih _ d later path rendered

/-- Against an answering store where every rendered path holds the password, a loop only
reads: its log gains the attempt markers and nothing else, and whatever reads keep, it keeps. -/
theorem syncDevicesOn_settled {β : Type} (hist : σ → β)
    (reads : ∀ path s, hist (backend.secretExists path s).2 = hist s ∧
      hist (backend.readSecret path s).2 = hist s)
    (answers : StoreAnswers backend view) (target : Target) (bmcs : List BMC) (st : LoopState σ)
    (settled : ∀ bmc ∈ bmcs, ∀ path, pairPath env regionLabelKey username target bmc = .ok path →
      holdsPassword (view st.store path) password) :
    hist (syncDevicesOn env regionLabelKey username password syncTime backend target bmcs
      st).store = hist st.store ∧
    (syncDevicesOn env regionLabelKey username password syncTime backend target bmcs st).log =
      st.log ++ bmcs.map (fun bmc => Effect.attempt target.engine target.store.destination bmc.name) := by
  induction bmcs generalizing st with
  | nil => simp [syncDevicesOn]
  | cons bmc rest ih =>
    obtain ⟨quiet, kept, same⟩ := laws.syncPairCallsOn_settled env regionLabelKey username password
      syncTime hist reads answers target bmc st.store (settled bmc (.head _))
    rcases calls : syncPairCallsOn env regionLabelKey username password syncTime backend target bmc
      st.store with ⟨entry, s1, effects⟩
    rw [calls] at quiet kept same
    dsimp only at quiet kept same
    subst quiet
    obtain ⟨unchanged, log⟩ := ih (st.record entry s1 [Effect.attempt target.engine target.store.destination bmc.name])
      fun d member path rendered => by
        simp only [LoopState.record, same]
        exact settled d (.tail _ member) path rendered
    simp only [syncDevicesOn, calls, unchanged, log]
    simp [LoopState.record, kept]

/-- Against an answering store, a loop whose every path renders counts every device a
success. -/
theorem syncDevicesOn_counts (answers : StoreAnswers backend view) (target : Target)
    (bmcs : List BMC) (st : LoopState σ)
    (rendered : ∀ bmc ∈ bmcs, ∃ path, pairPath env regionLabelKey username target bmc = .ok path) :
    (syncDevicesOn env regionLabelKey username password syncTime backend target bmcs
      st).syncSuccess = st.syncSuccess + bmcs.length ∧
    (syncDevicesOn env regionLabelKey username password syncTime backend target bmcs
      st).syncErrors = st.syncErrors := by
  induction bmcs generalizing st with
  | nil => exact ⟨rfl, rfl⟩
  | cons bmc rest ih =>
    obtain ⟨path, onPath⟩ := rendered bmc (.head _)
    obtain ⟨success, -⟩ := laws.syncPairCallsOn_answered env regionLabelKey username password
      syncTime answers target bmc st.store onPath
    rcases calls : syncPairCallsOn env regionLabelKey username password syncTime backend target bmc
      st.store with ⟨entry, s1, effects⟩
    rw [calls] at success
    dsimp only at success
    obtain ⟨succeeded, failed⟩ :=
      ih (st.record entry s1 (Effect.attempt target.engine target.store.destination bmc.name :: effects))
        fun d member => rendered d (.tail _ member)
    simp only [syncDevicesOn, calls]
    rw [succeeded, failed]
    simp only [LoopState.record, success, if_true, List.length_cons, and_true]
    omega

end Loop

end StoreLaws

/-- Sync over the Vault server is idempotent down to its version history. With no request of
the server failing and every path rendering, a pass over the server a previous pass left issues
no write, adds no version at any path of any mount, and counts every device a success. -/
theorem vault_second_pass_adds_no_version (env : Env) (regionLabelKey username password : String)
    (syncTime syncTime' : Nat) (v : VaultBackend) (target : Target) (bmcs : List BMC)
    (reliable : ∀ n, env.remoteFault n = none)
    (rendered : ∀ bmc ∈ bmcs, ∃ path, pairPath env regionLabelKey username target bmc = .ok path)
    (a b : LoopState KVServer)
    (again : b.store = (syncDevicesOn env regionLabelKey username password syncTime
      (v.secretBackend env.remoteFault) target bmcs a).store) :
    (syncDevicesOn env regionLabelKey username password syncTime'
        (v.secretBackend env.remoteFault) target bmcs b).store.versions = b.store.versions ∧
      (syncDevicesOn env regionLabelKey username password syncTime'
        (v.secretBackend env.remoteFault) target bmcs b).log =
        b.log ++ bmcs.map (fun bmc => Effect.attempt target.engine target.store.destination bmc.name) ∧
      (syncDevicesOn env regionLabelKey username password syncTime'
        (v.secretBackend env.remoteFault) target bmcs b).syncSuccess = b.syncSuccess + bmcs.length ∧
      (syncDevicesOn env regionLabelKey username password syncTime'
        (v.secretBackend env.remoteFault) target bmcs b).syncErrors = b.syncErrors := by
  have laws := v.storeLaws env.remoteFault
  have answers := v.storeAnswers env.remoteFault reliable
  have settled : ∀ bmc ∈ bmcs, ∀ path, pairPath env regionLabelKey username target bmc = .ok path →
      holdsPassword (b.store.current v.mountPath path) password := by
    rw [again]
    exact laws.syncDevicesOn_establishes env regionLabelKey username password syncTime answers
      target bmcs a
  have reads : ∀ path srv,
      ((v.secretBackend env.remoteFault).secretExists path srv).2.versions = srv.versions ∧
        ((v.secretBackend env.remoteFault).readSecret path srv).2.versions = srv.versions :=
    fun _ _ => by simp [VaultBackend.secretBackend]
  obtain ⟨versions, log⟩ := laws.syncDevicesOn_settled env regionLabelKey username password
    syncTime' KVServer.versions reads answers target bmcs b settled
  exact ⟨versions, log, laws.syncDevicesOn_counts env regionLabelKey username password syncTime'
    answers target bmcs b rendered⟩

/-- The server the first pass over an empty server leaves, as the second pass starts it:
fresh accumulators. -/
def vaultSecondPassStart : LoopState KVServer :=
  ⟨(syncDevicesOn Env.reliable "region" "admin" "pw" 0
      (defaultVaultStore.secretBackend Env.reliable.remoteFault) defaultVaultTarget [deviceOne]
      emptyServerLoop).store, [], [], 0, 0⟩

theorem vault_second_pass_adds_no_version_on_one_device :
    (∀ n, Env.reliable.remoteFault n = none) ∧
      (∀ bmc ∈ [deviceOne], ∃ path,
        pairPath Env.reliable "region" "admin" defaultVaultTarget bmc = .ok path) ∧
      vaultSecondPassStart.store = (syncDevicesOn Env.reliable "region" "admin" "pw" 0
        (defaultVaultStore.secretBackend Env.reliable.remoteFault) defaultVaultTarget [deviceOne]
        emptyServerLoop).store ∧
      (syncDevicesOn Env.reliable "region" "admin" "pw" 1
          (defaultVaultStore.secretBackend Env.reliable.remoteFault) defaultVaultTarget [deviceOne]
          vaultSecondPassStart).store.versions = vaultSecondPassStart.store.versions ∧
      (syncDevicesOn Env.reliable "region" "admin" "pw" 1
          (defaultVaultStore.secretBackend Env.reliable.remoteFault) defaultVaultTarget [deviceOne]
          vaultSecondPassStart).log =
        vaultSecondPassStart.log ++ [deviceOne].map
          (fun bmc => Effect.attempt defaultVaultTarget.engine defaultVaultTarget.store.destination bmc.name) ∧
      (syncDevicesOn Env.reliable "region" "admin" "pw" 1
          (defaultVaultStore.secretBackend Env.reliable.remoteFault) defaultVaultTarget [deviceOne]
          vaultSecondPassStart).syncSuccess = vaultSecondPassStart.syncSuccess + [deviceOne].length ∧
      (syncDevicesOn Env.reliable "region" "admin" "pw" 1
          (defaultVaultStore.secretBackend Env.reliable.remoteFault) defaultVaultTarget [deviceOne]
          vaultSecondPassStart).syncErrors = vaultSecondPassStart.syncErrors :=
  have reliable : ∀ n, Env.reliable.remoteFault n = none := fun _ => rfl
  have rendered : ∀ bmc ∈ [deviceOne], ∃ path,
      pairPath Env.reliable "region" "admin" defaultVaultTarget bmc = .ok path := by
    simp only [List.mem_singleton, forall_eq]
    exact ⟨_, rfl⟩
  have again : vaultSecondPassStart.store = (syncDevicesOn Env.reliable "region" "admin" "pw" 0
      (defaultVaultStore.secretBackend Env.reliable.remoteFault) defaultVaultTarget [deviceOne]
      emptyServerLoop).store := by simp only [vaultSecondPassStart]
  ⟨reliable, rendered, again, vault_second_pass_adds_no_version Env.reliable "region" "admin" "pw"
    0 1 defaultVaultStore defaultVaultTarget [deviceOne] reliable rendered emptyServerLoop
    vaultSecondPassStart again⟩

/-! ## Cleanup over the Vault store

The delete loop of `handleDeletion` is written against the interface too. Over the Vault store
a delete drops the metadata, so with every delete answered the cleanup leaves no version of the
password at any device's path, and touches no other path. -/

section Cleanup

variable (env : Env)

/-- The delete loop of `handleDeletion` against `backend`: a path that does not render, and a
failed delete, are skipped. -/
def deletePathsOn (backend : SecretBackend σ) (pathBuilder : PathBuilder)
    (regionLabelKey username : String) : List BMC → σ → σ
  | [], s => s
  | bmc :: rest, s =>
    match pathBuilder.build env.templates (pathVariables regionLabelKey username bmc) with
    | .error _ => deletePathsOn backend pathBuilder regionLabelKey username rest s
    | .ok path =>
      deletePathsOn backend pathBuilder regionLabelKey username rest (backend.deleteSecret path s).2

/-- The delete loop of `BmcSecretOperator.Reconcile` does to the map store what the loop over
it does. -/
theorem deletePaths_eq_on (backend : Store) (pathBuilder : PathBuilder)
    (regionLabelKey username : String) (bmcs : List BMC) (w : World) :
    (deletePaths env backend pathBuilder regionLabelKey username bmcs w).remote =
      deletePathsOn env (Remote.secretBackend env.remoteFault backend) pathBuilder regionLabelKey
        username bmcs w.remote := by
  induction bmcs generalizing w with
  | nil => rfl
  | cons bmc rest ih =>
    unfold deletePaths deletePathsOn
    rcases rendered : pathBuilder.build env.templates (pathVariables regionLabelKey username bmc)
      with _ | path
    · exact ih w
    · exact ih _

/-- A cleanup over the Vault store adds no version anywhere. -/
theorem vault_cleanup_adds_no_version (v : VaultBackend) (pathBuilder : PathBuilder)
    (regionLabelKey username : String) (bmcs : List BMC) (srv : KVServer) (mount p : String)
    (empty : srv.versions mount p = []) :
    (deletePathsOn env (v.secretBackend env.remoteFault) pathBuilder regionLabelKey username bmcs
      srv).versions mount p = [] := by
  induction bmcs generalizing srv with
  | nil => exact empty
  | cons bmc rest ih =>
    unfold deletePathsOn
    rcases rendered : pathBuilder.build env.templates (pathVariables regionLabelKey username bmc)
      with _ | path
    · exact ih srv empty
    · refine ih _ ?_
      simp only [VaultBackend.secretBackend, v.deleteSecret_versions, empty, ite_self]

/-- With every delete answered, a cleanup leaves no version at any path it renders. -/
theorem vault_cleanup_purges_rendered (v : VaultBackend) (pathBuilder : PathBuilder)
    (regionLabelKey username : String) (bmcs : List BMC) (srv : KVServer)
    (reliable : ∀ n, env.remoteFault n = none) :
    ∀ bmc ∈ bmcs, ∀ path,
      pathBuilder.build env.templates (pathVariables regionLabelKey username bmc) = .ok path →
      (deletePathsOn env (v.secretBackend env.remoteFault) pathBuilder regionLabelKey username bmcs
        srv).versions v.mountPath path = [] := by
  induction bmcs generalizing srv with
  | nil => exact fun _ member => nomatch member
  | cons bmc rest ih =>
    rintro d (_ | ⟨_, later⟩) path rendered
    · unfold deletePathsOn
      rw [rendered]
      apply vault_cleanup_adds_no_version
      simp [VaultBackend.secretBackend, v.deleteSecret_versions, reliable]
    · unfold deletePathsOn
      split
      · exact ih srv d later path rendered
      · exact ih _ d later path rendered

/-- A cleanup over the Vault store leaves every other path of every mount as it was. -/
theorem vault_cleanup_frame (v : VaultBackend) (pathBuilder : PathBuilder)
    (regionLabelKey username : String) (bmcs : List BMC) (srv : KVServer) (mount p : String)
    (elsewhere : ∀ bmc ∈ bmcs, ∀ path,
      pathBuilder.build env.templates (pathVariables regionLabelKey username bmc) = .ok path →
      ¬ (mount = v.mountPath ∧ p = path)) :
    (deletePathsOn env (v.secretBackend env.remoteFault) pathBuilder regionLabelKey username bmcs
      srv).versions mount p = srv.versions mount p := by
  induction bmcs generalizing srv with
  | nil => rfl
  | cons bmc rest ih =>
    have later := fun d member => elsewhere d (.tail _ member)
    unfold deletePathsOn
    rcases rendered : pathBuilder.build env.templates (pathVariables regionLabelKey username bmc)
      with _ | path
    · exact ih srv later
    · have other := elsewhere bmc (.head _) path rendered
      rw [ih _ later]
      simp only [VaultBackend.secretBackend, v.deleteSecret_versions]
      exact if_neg fun ⟨onMount, onPath, _⟩ => other ⟨onMount, onPath⟩

/-- The cleanup of `handleDeletion` over the Vault store, with every delete answered, leaves
no version, current or past, at the path of any device it renders, under either KV version,
and leaves every other path of every mount as it was. -/
theorem vault_cleanup_purges_versions (v : VaultBackend) (pathBuilder : PathBuilder)
    (regionLabelKey username : String) (bmcs : List BMC) (srv : KVServer)
    (reliable : ∀ n, env.remoteFault n = none) :
    (∀ bmc ∈ bmcs, ∀ path,
      pathBuilder.build env.templates (pathVariables regionLabelKey username bmc) = .ok path →
      (deletePathsOn env (v.secretBackend env.remoteFault) pathBuilder regionLabelKey username bmcs
        srv).versions v.mountPath path = []) ∧
    ∀ mount p, (∀ bmc ∈ bmcs, ∀ path,
      pathBuilder.build env.templates (pathVariables regionLabelKey username bmc) = .ok path →
      ¬ (mount = v.mountPath ∧ p = path)) →
      (deletePathsOn env (v.secretBackend env.remoteFault) pathBuilder regionLabelKey username bmcs
        srv).versions mount p = srv.versions mount p :=
  ⟨vault_cleanup_purges_rendered env v pathBuilder regionLabelKey username bmcs srv reliable,
    fun mount p => vault_cleanup_frame env v pathBuilder regionLabelKey username bmcs srv mount p⟩

end Cleanup

theorem vault_cleanup_purges_versions_after_sync :
    (∀ n, Env.reliable.remoteFault n = none) ∧
      (∀ bmc ∈ [deviceOne], ∀ path,
        defaultVaultTarget.pathBuilder.build Env.reliable.templates
          (pathVariables "region" "admin" bmc) = .ok path →
        (deletePathsOn Env.reliable (defaultVaultStore.secretBackend Env.reliable.remoteFault)
          defaultVaultTarget.pathBuilder "region" "admin" [deviceOne]
          vaultSecondPassStart.store).versions defaultVaultStore.mountPath path = []) ∧
      ∀ mount p, (∀ bmc ∈ [deviceOne], ∀ path,
        defaultVaultTarget.pathBuilder.build Env.reliable.templates
          (pathVariables "region" "admin" bmc) = .ok path →
        ¬ (mount = defaultVaultStore.mountPath ∧ p = path)) →
        (deletePathsOn Env.reliable (defaultVaultStore.secretBackend Env.reliable.remoteFault)
          defaultVaultTarget.pathBuilder "region" "admin" [deviceOne]
          vaultSecondPassStart.store).versions mount p = vaultSecondPassStart.store.versions mount p :=
  have reliable : ∀ n, Env.reliable.remoteFault n = none := fun _ => rfl
  ⟨reliable, vault_cleanup_purges_versions Env.reliable defaultVaultStore
    defaultVaultTarget.pathBuilder "region" "admin" [deviceOne] vaultSecondPassStart.store reliable⟩

end BmcSecretOperator
