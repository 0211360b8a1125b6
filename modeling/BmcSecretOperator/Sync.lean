import BmcSecretOperator.Factory

/-!
# The per-(destination, device) sync loop

Source: bmcsecret_controller.go:216-315 (the loop of `reconcileSingleEngine`), :374-477 (the
nested loops of `reconcileMultiEngine`), :620-645 (`needsUpdate`) and
bmcresolver/resolver.go:27-72 (`FindBMCsForSecret`, `ExtractRegionFromBMC`,
`GetHostnameFromBMC`).

The two loop bodies differ only in how an engine is named in error texts and events, so
one body runs on a `Target`: the default store and template (no engine), or an engine
binding. Each iteration records one status entry and counts it as a success or a failure;
what a pass does to the stores is in its log of `Effect`s. Logging is not modelled; the
log also marks each iteration with the engine, the store and the device it works on
(`Effect.attempt`), which is how the pairs a pass attempts, and where they go, are
observed (`attempts`, `routes`).

The loop only ever writes `{username, password}`, and it issues a write exactly when
`needsUpdate` finds no string password equal to the current one. From these two facts:
an entry recorded `Success` has its destination holding the current password at its path
(`syncPairs_success_holds`), and a pass over stores that already hold it, with nothing
failing, writes nothing (`syncPairs_settled`). Only the password is compared, so a stored
record under another username counts as up to date (`sync_success_keeps_stale_username`).
-/

set_option autoImplicit false

namespace BmcSecretOperator

/-- What a pass does that can be observed, in order. -/
inductive Effect
  | write (destination : Destination) (path : String) (data : SecretData)
  | delete (destination : Destination) (path : String)
  | attempt (engine : Option String) (destination : Destination) (bmcName : String)
  | event (type reason message : String)
  | updateFinalizers (finalizers : List String)
  deriving DecidableEq, Repr

def Effect.isWrite : Effect → Bool
  | .write .. => true
  | _ => false

def Effect.isFinalizerUpdate : Effect → Bool
  | .updateFinalizers _ => true
  | _ => false

/-- The (engine, device) pairs a log records as attempted. -/
def attempts : List Effect → List (Option String × String)
  | [] => []
  | .attempt engine _ bmc :: rest => (engine, bmc) :: attempts rest
  | _ :: rest => attempts rest

/-- The (engine, store, device) triples a log records as attempted. -/
def routes : List Effect → List (Option String × Destination × String)
  | [] => []
  | .attempt engine destination bmc :: rest => (engine, destination, bmc) :: routes rest
  | _ :: rest => routes rest

@[simp] theorem attempts_append (xs ys : List Effect) :
    attempts (xs ++ ys) = attempts xs ++ attempts ys := by
  induction xs with
  | nil => rfl
  | cons x xs ih => cases x <;> simp [attempts, ih]

@[simp] theorem routes_append (xs ys : List Effect) :
    routes (xs ++ ys) = routes xs ++ routes ys := by
  induction xs with
  | nil => rfl
  | cons x xs ih => cases x <;> simp [routes, ih]

/-- One destination of a pass. -/
structure Target where
  engine : Option String
  store : Store
  pathBuilder : PathBuilder
  deriving DecidableEq, Repr

def EngineBackend.target (eb : EngineBackend) : Target :=
  ⟨some eb.engineName, eb.backend, eb.pathBuilder⟩

/-- The `ErrorMessage` of a failed entry: prefixed with `[engine] ` for an engine. -/
def Target.tag (t : Target) (e : String) : String :=
  match t.engine with
  | none => e
  | some name => "[" ++ name ++ "] " ++ e

/-- The message of the `SyncFailed` event of a failed write. -/
def Target.syncFailedMessage (t : Target) (path e : String) : String :=
  match t.engine with
  | none => "Failed to sync to " ++ path ++ ": " ++ e
  | some name => "Failed to sync to " ++ path ++ " (engine " ++ name ++ "): " ++ e

/-- `ExtractRegionFromBMC`: the label's value, `"unknown"` when absent or empty. -/
def extractRegionFromBMC (bmc : BMC) (regionLabelKey : String) : String :=
  orDefault (bmc.labels.get regionLabelKey) "unknown"

/-- `GetHostnameFromBMC`: the first non-empty of hostname, endpoint name, device name. -/
def getHostnameFromBMC (bmc : BMC) : String :=
  orDefault (bmc.hostname.getD "") (orDefault (bmc.endpointRef.getD "") bmc.name)

/-- `FindBMCsForSecret`: the listed devices referencing the record, in list order. -/
def findBMCsForSecret (listFault : Option String) (bmcs : List BMC) (secretName : String) :
    Except String (List BMC) :=
  match listFault with
  | some e => .error ("failed to list BMC resources: " ++ e)
  | none => .ok (bmcs.filter (·.bmcSecretRef = secretName))

def pathVariables (regionLabelKey username : String) (bmc : BMC) : PathVariables :=
  ⟨extractRegionFromBMC bmc regionLabelKey, getHostnameFromBMC bmc, username⟩

/-- The stored record holds `password` as a string under `"password"`. -/
def holdsPassword (stored : Option SecretData) (password : String) : Bool :=
  match stored with
  | some data => data.lookup "password" = some (.str password)
  | none => false

/-- `needsUpdate`: absent, no string password, or a different one. -/
def needsUpdate (fault : Nat → Option String) (store : Store) (path password : String)
    (r : Remote) : Except String Bool × Remote :=
  match r.secretExists fault store path with
  | (.error e, r1) => (.error e, r1)
  | (.ok false, r1) => (.ok true, r1)
  | (.ok true, r1) =>
    match r1.readSecret fault store path with
    | (.error e, r2) => (.error e, r2)
    | (.ok data, r2) =>
      match data.lookup "password" with
      | some (.str current) => (.ok (current ≠ password), r2)
      | _ => (.ok true, r2)

/-- `needsUpdate` in closed form: an exists call, then, for a present path, a read. -/
theorem needsUpdate_eq (fault : Nat → Option String) (store : Store) (path password : String)
    (r : Remote) :
    needsUpdate fault store path password r =
      match fault r.calls, r.data store.destination path with
      | some e, _ => (.error e, r.tick)
      | none, none => (.ok true, r.tick)
      | none, some _ =>
        match fault (r.calls + 1) with
        | some e => (.error e, r.tick.tick)
        | none => (.ok !holdsPassword (r.data store.destination path) password, r.tick.tick) := by
  unfold needsUpdate Remote.secretExists Remote.readSecret
  cases fault r.calls with
  | some e => rfl
  | none =>
    cases stored : r.data store.destination path with
    | none => simp [stored]
    | some data =>
      simp only [stored, Option.isSome_some, Remote.tick]
      cases fault (r.calls + 1) with
      | some e => rfl
      | none =>
        simp only [holdsPassword]
        rcases data.lookup "password" with _ | (_ | _) <;> simp

/-- `needsUpdate` only reads. -/
@[simp] theorem needsUpdate_data (fault : Nat → Option String) (store : Store)
    (path password : String) (r : Remote) :
    (needsUpdate fault store path password r).2.data = r.data := by
  rw [needsUpdate_eq]; split
  · rfl
  · rfl
  · split <;> rfl

/-- A write is asked for exactly when the current password is not stored there. -/
theorem needsUpdate_ok {fault : Nat → Option String} {store : Store} {path password : String}
    {r : Remote} {b : Bool} (success : (needsUpdate fault store path password r).1 = .ok b) :
    b = !holdsPassword (r.data store.destination path) password := by
  rw [needsUpdate_eq] at success
  split at success
  · cases success
  · rename_i absent; cases success; simp [absent, holdsPassword]
  · split at success <;> cases success; rfl

/-- With no failing call, `needsUpdate` answers. -/
theorem needsUpdate_reliable {fault : Nat → Option String} (reliable : ∀ n, fault n = none)
    (store : Store) (path password : String) (r : Remote) :
    (needsUpdate fault store path password r).1 =
      .ok !holdsPassword (r.data store.destination path) password := by
  rw [needsUpdate_eq]
  split
  · simp_all
  · rename_i absent; simp [absent, holdsPassword]
  · simp [reliable]

theorem needsUpdate_inv {fault : Nat → Option String} {store : Store} {path password : String}
    {r r1 : Remote} {result : Except String Bool}
    (h : needsUpdate fault store path password r = (result, r1)) :
    r1.data = r.data ∧ ∀ b, result = .ok b → b = !holdsPassword (r.data store.destination path) password :=
  ⟨by rw [← needsUpdate_data fault store path password r, h],
    fun _ ok => needsUpdate_ok (by rw [h, ok])⟩

theorem holdsPassword_secretData (username password : String) :
    holdsPassword (some (secretData username password)) password = true := by
  simp [holdsPassword, secretData, List.lookup_cons]

/-- The accumulators of the loop, and the stores and log it threads. -/
structure SyncState where
  remote : Remote
  log : List Effect
  backendPaths : List BackendPath
  syncSuccess : Nat
  syncErrors : Nat

section Loop

variable (env : Env) (regionLabelKey username password : String) (syncTime : Nat)

/-- One iteration up to recording: its status entry, the stores after its calls, and the
effects of its calls. -/
def syncPairCalls (target : Target) (bmc : BMC) (r : Remote) :
    BackendPath × Remote × List Effect :=
  let vars := pathVariables regionLabelKey username bmc
  let entry := fun (path status message : String) =>
    ({ path, bmcName := bmc.name, region := vars.region, hostname := vars.hostname, username,
       lastSyncTime := syncTime, syncStatus := status, errorMessage := message } : BackendPath)
  match target.pathBuilder.build env.templates vars with
  | .error e => (entry "" "Failed" (target.tag e), r, [])
  | .ok path =>
    match needsUpdate env.remoteFault target.store path password r with
    | (.error e, r1) => (entry path "Failed" (target.tag e), r1, [])
    | (.ok false, r1) => (entry path "Success" "", r1, [])
    | (.ok true, r1) =>
      let written := Effect.write target.store.destination path (secretData username password)
      match r1.writeSecret env.remoteFault target.store path (secretData username password) with
      | (.error e, r2) =>
        (entry path "Failed" (target.tag e), r2,
          [written, .event "Warning" "SyncFailed" (target.syncFailedMessage path e)])
      | (.ok (), r2) => (entry path "Success" "", r2, [written])

/-- The path an iteration renders for its pair. -/
def pairPath (target : Target) (bmc : BMC) : Except String String :=
  target.pathBuilder.build env.templates (pathVariables regionLabelKey username bmc)

variable {env regionLabelKey username password syncTime}

/-- An iteration changes the stores at most by writing `{username, password}`. -/
theorem syncPairCalls_data {target : Target} {bmc : BMC} {r r' : Remote} {entry : BackendPath}
    {effects : List Effect}
    (h : syncPairCalls env regionLabelKey username password syncTime target bmc r = (entry, r', effects))
    (dest : Destination) (p : String) :
    r'.data dest p = r.data dest p ∨ r'.data dest p = some (secretData username password) := by
  simp only [syncPairCalls] at h
  split at h
  · cases h; exact .inl rfl
  · rename_i path _
    rcases h1 : needsUpdate env.remoteFault target.store path password r with ⟨_ | _ | _, r1⟩ <;>
      rw [h1] at h <;> dsimp only at h <;> obtain ⟨same, -⟩ := needsUpdate_inv h1
    · cases h; exact .inl (by rw [same])
    · cases h; exact .inl (by rw [same])
    · have written := Remote.writeSecret_data env.remoteFault target.store path
        (secretData username password) r1 dest p
      rcases h2 : r1.writeSecret env.remoteFault target.store path (secretData username password)
        with ⟨_ | _, r2⟩ <;> rw [h2] at h written <;> dsimp only at h written <;> cases h <;>
        rw [written] <;> split <;> simp [same]

/-- An entry recorded `Success` leaves the current password at its path. -/
theorem syncPairCalls_success {target : Target} {bmc : BMC} {r r' : Remote} {entry : BackendPath}
    {effects : List Effect}
    (h : syncPairCalls env regionLabelKey username password syncTime target bmc r = (entry, r', effects))
    (success : entry.syncStatus = "Success") :
    holdsPassword (r'.data target.store.destination entry.path) password := by
  simp only [syncPairCalls] at h
  split at h
  · cases h; simp at success
  · rename_i path _
    rcases h1 : needsUpdate env.remoteFault target.store path password r with ⟨_ | _ | _, r1⟩ <;>
      rw [h1] at h <;> dsimp only at h <;> obtain ⟨same, answer⟩ := needsUpdate_inv h1
    · cases h; simp at success
    · cases h; simpa [same] using answer false rfl
    · have written := Remote.writeSecret_data env.remoteFault target.store path
        (secretData username password) r1 target.store.destination path
      have ok := Remote.writeSecret_ok_iff env.remoteFault target.store path
        (secretData username password) r1
      rcases h2 : r1.writeSecret env.remoteFault target.store path (secretData username password)
        with ⟨_ | _, r2⟩ <;> rw [h2] at h written ok <;> dsimp only at h written ok <;> cases h
      · simp at success
      · simp [written, ok.mp rfl, holdsPassword_secretData]

/-- An iteration issues a write only to its rendered path, and only when that path does not
hold the current password. -/
theorem syncPairCalls_write_needed {target : Target} {bmc : BMC} {r r' : Remote}
    {entry : BackendPath} {effects : List Effect}
    (h : syncPairCalls env regionLabelKey username password syncTime target bmc r = (entry, r', effects))
    {e : Effect} (issued : e ∈ effects) (writes : e.isWrite) :
    ∃ path, pairPath env regionLabelKey username target bmc = .ok path ∧
      e = .write target.store.destination path (secretData username password) ∧
      holdsPassword (r.data target.store.destination path) password = false := by
  simp only [syncPairCalls] at h
  unfold pairPath
  split at h
  · cases h; cases issued
  · rename_i path rendered
    refine ⟨path, rendered, ?_⟩
    rcases h1 : needsUpdate env.remoteFault target.store path password r with ⟨_ | _ | _, r1⟩ <;>
      rw [h1] at h <;> dsimp only at h <;> obtain ⟨-, answer⟩ := needsUpdate_inv h1
    · cases h; cases issued
    · cases h; cases issued
    · have needed := answer true rfl
      split at h <;> cases h <;> simp only [List.mem_cons, List.not_mem_nil, or_false] at issued <;>
        rcases issued with rfl | rfl <;> simp_all [Effect.isWrite]

/-- With no failing call and a rendered path, an iteration succeeds, and it writes nothing
where the current password is already stored. -/
theorem syncPairCalls_reliable (reliable : ∀ n, env.remoteFault n = none) {target : Target}
    {bmc : BMC} {r r' : Remote} {entry : BackendPath} {effects : List Effect}
    (h : syncPairCalls env regionLabelKey username password syncTime target bmc r = (entry, r', effects))
    {path : String} (rendered : pairPath env regionLabelKey username target bmc = .ok path) :
    entry.syncStatus = "Success" ∧ entry.path = path ∧
      (holdsPassword (r.data target.store.destination path) password →
        effects = [] ∧ r'.data = r.data) := by
  unfold pairPath at rendered
  have answer := needsUpdate_reliable reliable target.store path password r
  simp only [syncPairCalls, rendered] at h
  rcases h1 : needsUpdate env.remoteFault target.store path password r with ⟨_ | _ | _, r1⟩ <;>
    rw [h1] at h answer <;> dsimp only at h <;> obtain ⟨same, -⟩ := needsUpdate_inv h1
  · cases answer
  · cases h; simp [same]
  · have ok := (Remote.writeSecret_ok_iff env.remoteFault target.store path
      (secretData username password) r1).mpr (reliable _)
    rcases h2 : r1.writeSecret env.remoteFault target.store path (secretData username password)
      with ⟨_ | _, r2⟩ <;> rw [h2] at h ok <;> dsimp only at h
    · cases ok
    · cases h
      simp only [Except.ok.injEq, Bool.not_eq_true'] at answer
      simp [answer]

/-- With no failing call, an iteration on a pair whose rendered path already holds the
current password writes nothing and changes no store. -/
theorem syncPairCalls_quiet (reliable : ∀ n, env.remoteFault n = none) {target : Target}
    {bmc : BMC} {r r' : Remote} {entry : BackendPath} {effects : List Effect}
    (h : syncPairCalls env regionLabelKey username password syncTime target bmc r = (entry, r', effects))
    (settled : ∀ path, pairPath env regionLabelKey username target bmc = .ok path →
      holdsPassword (r.data target.store.destination path) password) :
    effects = [] ∧ r'.data = r.data := by
  cases rendered : pairPath env regionLabelKey username target bmc with
  | ok path => exact (syncPairCalls_reliable reliable h rendered).2.2 (settled path rendered)
  | error e =>
    unfold pairPath at rendered
    simp only [syncPairCalls, rendered] at h
    cases h
    exact ⟨rfl, rfl⟩

/-- An iteration's own effects are writes and events: no marker, no finalizer update. -/
theorem syncPairCalls_effects {target : Target} {bmc : BMC} {r r' : Remote} {entry : BackendPath}
    {effects : List Effect}
    (h : syncPairCalls env regionLabelKey username password syncTime target bmc r = (entry, r', effects)) :
    routes effects = [] ∧ ∀ e ∈ effects, e.isFinalizerUpdate = false := by
  simp only [syncPairCalls] at h
  split at h
  · cases h; simp [routes]
  · rename_i path _
    rcases h1 : needsUpdate env.remoteFault target.store path password r with ⟨_ | _ | _, r1⟩ <;>
      rw [h1] at h <;> dsimp only at h
    · cases h; simp [routes]
    · cases h; simp [routes]
    · split at h <;> cases h <;> exact ⟨rfl, by simp [Effect.isFinalizerUpdate]⟩

/-- An iteration's entry names its device, with the device's region and hostname, and is
recorded `Success` or `Failed`. -/
theorem syncPairCalls_entry {target : Target} {bmc : BMC} {r r' : Remote} {entry : BackendPath}
    {effects : List Effect}
    (h : syncPairCalls env regionLabelKey username password syncTime target bmc r = (entry, r', effects)) :
    (entry.bmcName, entry.region, entry.hostname) =
        (bmc.name, extractRegionFromBMC bmc regionLabelKey, getHostnameFromBMC bmc) ∧
      (entry.syncStatus = "Success" ∨ entry.syncStatus = "Failed") := by
  simp only [syncPairCalls] at h
  split at h
  · cases h; exact ⟨rfl, .inr rfl⟩
  · rename_i path _
    rcases h1 : needsUpdate env.remoteFault target.store path password r with ⟨_ | _ | _, r1⟩ <;>
      rw [h1] at h <;> dsimp only at h
    · cases h; exact ⟨rfl, .inr rfl⟩
    · cases h; exact ⟨rfl, .inl rfl⟩
    · split at h <;> cases h
      exacts [⟨rfl, .inr rfl⟩, ⟨rfl, .inl rfl⟩]

variable (env regionLabelKey username password syncTime)

/-- Append the entry and count it (`syncSuccess++` or `syncErrors++` in the source). -/
def SyncState.record (st : SyncState) (entry : BackendPath) (remote : Remote)
    (effects : List Effect) : SyncState :=
  { remote, log := st.log ++ effects, backendPaths := st.backendPaths ++ [entry],
    syncSuccess := if entry.syncStatus = "Success" then st.syncSuccess + 1 else st.syncSuccess,
    syncErrors := if entry.syncStatus = "Success" then st.syncErrors else st.syncErrors + 1 }

/-- The loop body for one (destination, device) pair. -/
def syncPair (target : Target) (bmc : BMC) (st : SyncState) : SyncState :=
  let calls := syncPairCalls env regionLabelKey username password syncTime target bmc st.remote
  st.record calls.1 calls.2.1 (Effect.attempt target.engine target.store.destination bmc.name :: calls.2.2)

/-- The loop over the devices, for one destination. -/
def syncDevices (target : Target) : List BMC → SyncState → SyncState
  | [], st => st
  | bmc :: rest, st => syncDevices target rest (syncPair env regionLabelKey username password syncTime target bmc st)

/-- The outer loop over the matched engines of `reconcileMultiEngine`. -/
def syncEngines (targets : List Target) (bmcs : List BMC) (st : SyncState) : SyncState :=
  targets.foldl (fun st target => syncDevices env regionLabelKey username password syncTime target bmcs st) st

/-- Both loops as one loop over the pairs, destination-major. -/
def syncPairs : List (Target × BMC) → SyncState → SyncState
  | [], st => st
  | (target, bmc) :: rest, st => syncPairs rest (syncPair env regionLabelKey username password syncTime target bmc st)

/-- The pairs of a pass, destination-major and device-minor. -/
def pairs (targets : List Target) (bmcs : List BMC) : List (Target × BMC) :=
  targets.flatMap fun target => bmcs.map (target, ·)

theorem syncPairs_append (xs ys : List (Target × BMC)) (st : SyncState) :
    syncPairs env regionLabelKey username password syncTime (xs ++ ys) st =
      syncPairs env regionLabelKey username password syncTime ys
        (syncPairs env regionLabelKey username password syncTime xs st) := by
  induction xs generalizing st with
  | nil => rfl
  | cons x xs ih => obtain ⟨t, b⟩ := x; exact ih _

theorem syncDevices_eq (target : Target) (bmcs : List BMC) (st : SyncState) :
    syncDevices env regionLabelKey username password syncTime target bmcs st =
      syncPairs env regionLabelKey username password syncTime (bmcs.map (target, ·)) st := by
  induction bmcs generalizing st with
  | nil => rfl
  | cons b bs ih => exact ih _

theorem syncEngines_eq (targets : List Target) (bmcs : List BMC) (st : SyncState) :
    syncEngines env regionLabelKey username password syncTime targets bmcs st =
      syncPairs env regionLabelKey username password syncTime (pairs targets bmcs) st := by
  induction targets generalizing st with
  | nil => rfl
  | cons t ts ih =>
    simp only [syncEngines, List.foldl_cons] at ih ⊢
    rw [ih, syncDevices_eq, ← syncPairs_append]
    rfl

/-! ## The loop over a pass's pairs -/

section Unfold

variable (t : Target) (b : BMC) (st : SyncState)

@[simp] theorem syncPair_remote :
    (syncPair env regionLabelKey username password syncTime t b st).remote =
      (syncPairCalls env regionLabelKey username password syncTime t b st.remote).2.1 := rfl

@[simp] theorem syncPair_log :
    (syncPair env regionLabelKey username password syncTime t b st).log =
      st.log ++ Effect.attempt t.engine t.store.destination b.name ::
        (syncPairCalls env regionLabelKey username password syncTime t b st.remote).2.2 := rfl

@[simp] theorem syncPair_backendPaths :
    (syncPair env regionLabelKey username password syncTime t b st).backendPaths =
      st.backendPaths ++ [(syncPairCalls env regionLabelKey username password syncTime t b st.remote).1] :=
  rfl

@[simp] theorem syncPair_syncSuccess :
    (syncPair env regionLabelKey username password syncTime t b st).syncSuccess =
      if (syncPairCalls env regionLabelKey username password syncTime t b st.remote).1.syncStatus =
        "Success" then st.syncSuccess + 1 else st.syncSuccess := rfl

@[simp] theorem syncPair_syncErrors :
    (syncPair env regionLabelKey username password syncTime t b st).syncErrors =
      if (syncPairCalls env regionLabelKey username password syncTime t b st.remote).1.syncStatus =
        "Success" then st.syncErrors else st.syncErrors + 1 := rfl

theorem syncPairs_cons (rest : List (Target × BMC)) :
    syncPairs env regionLabelKey username password syncTime ((t, b) :: rest) st =
      syncPairs env regionLabelKey username password syncTime rest
        (syncPair env regionLabelKey username password syncTime t b st) := rfl

end Unfold

/-- The loop only appends, to the entries and to the log. -/
theorem syncPairs_prefix (ps : List (Target × BMC)) (st : SyncState) :
    (∃ fresh, (syncPairs env regionLabelKey username password syncTime ps st).backendPaths =
      st.backendPaths ++ fresh) ∧
    ∃ fresh, (syncPairs env regionLabelKey username password syncTime ps st).log = st.log ++ fresh := by
  induction ps generalizing st with
  | nil => exact ⟨⟨[], (List.append_nil _).symm⟩, ⟨[], (List.append_nil _).symm⟩⟩
  | cons p rest ih =>
    obtain ⟨t, b⟩ := p
    obtain ⟨⟨fresh, paths⟩, ⟨more, log⟩⟩ := ih (syncPair env regionLabelKey username password syncTime t b st)
    rw [syncPairs_cons, paths, log, syncPair_backendPaths, syncPair_log]
    exact ⟨⟨_, List.append_assoc _ _ _⟩, ⟨_, List.append_assoc _ _ _⟩⟩

/-- What a pass appends to the log: the first pair's marker and effects, then the rest's. -/
theorem syncPairs_newLog_cons (t : Target) (b : BMC) (rest : List (Target × BMC)) (st : SyncState) :
    (syncPairs env regionLabelKey username password syncTime ((t, b) :: rest) st).log.drop
        st.log.length =
      (Effect.attempt t.engine t.store.destination b.name ::
          (syncPairCalls env regionLabelKey username password syncTime t b st.remote).2.2) ++
        (syncPairs env regionLabelKey username password syncTime rest
          (syncPair env regionLabelKey username password syncTime t b st)).log.drop
          (syncPair env regionLabelKey username password syncTime t b st).log.length := by
  obtain ⟨-, fresh, log⟩ := syncPairs_prefix env regionLabelKey username password syncTime rest
    (syncPair env regionLabelKey username password syncTime t b st)
  rw [syncPairs_cons, log, List.drop_left, syncPair_log, List.append_assoc, List.drop_left]

/-- What a pass appends to the entries: the first pair's entry, then the rest's. -/
theorem syncPairs_newPaths_cons (t : Target) (b : BMC) (rest : List (Target × BMC))
    (st : SyncState) :
    (syncPairs env regionLabelKey username password syncTime ((t, b) :: rest) st).backendPaths.drop
        st.backendPaths.length =
      (syncPairCalls env regionLabelKey username password syncTime t b st.remote).1 ::
        (syncPairs env regionLabelKey username password syncTime rest
          (syncPair env regionLabelKey username password syncTime t b st)).backendPaths.drop
          (syncPair env regionLabelKey username password syncTime t b st).backendPaths.length := by
  obtain ⟨⟨fresh, paths⟩, -⟩ := syncPairs_prefix env regionLabelKey username password syncTime rest
    (syncPair env regionLabelKey username password syncTime t b st)
  rw [syncPairs_cons, paths, List.drop_left, syncPair_backendPaths, List.append_assoc,
    List.drop_left, List.singleton_append]

/-- A pass appends one marker per pair, in order, naming its engine, store and device, and
updates no finalizer. -/
theorem syncPairs_log_shape (ps : List (Target × BMC)) (st : SyncState) :
    ∃ fresh, (syncPairs env regionLabelKey username password syncTime ps st).log = st.log ++ fresh ∧
      routes fresh = ps.map (fun p => (p.1.engine, p.1.store.destination, p.2.name)) ∧
      ∀ e ∈ fresh, e.isFinalizerUpdate = false := by
  induction ps generalizing st with
  | nil => exact ⟨[], (List.append_nil _).symm, rfl, by simp⟩
  | cons p rest ih =>
    obtain ⟨t, b⟩ := p
    obtain ⟨fresh, log, marked, keep⟩ := ih (syncPair env regionLabelKey username password syncTime t b st)
    rcases calls : syncPairCalls env regionLabelKey username password syncTime t b st.remote
      with ⟨entry, r', effects⟩
    obtain ⟨quiet, own⟩ := syncPairCalls_effects calls
    refine ⟨_, by rw [syncPairs_cons, log, syncPair_log, calls, List.append_assoc], ?_, ?_⟩
    · simp [routes, quiet, marked]
    · intro e member
      simp only [List.cons_append, List.mem_cons, List.mem_append] at member
      rcases member with rfl | member | member
      exacts [rfl, own e member, keep e member]

/-- The entries a pass appends: one per pair, in order, each naming its pair's device with
the device's region and hostname, each `Success` or `Failed`; the accumulators count them. -/
theorem syncPairs_entries (ps : List (Target × BMC)) (st : SyncState) :
    ((syncPairs env regionLabelKey username password syncTime ps st).backendPaths.drop
        st.backendPaths.length).map (fun e => (e.bmcName, e.region, e.hostname)) =
      ps.map (fun p => (p.2.name, extractRegionFromBMC p.2 regionLabelKey, getHostnameFromBMC p.2)) ∧
    (∀ e ∈ (syncPairs env regionLabelKey username password syncTime ps st).backendPaths.drop
        st.backendPaths.length, e.syncStatus = "Success" ∨ e.syncStatus = "Failed") ∧
    (syncPairs env regionLabelKey username password syncTime ps st).syncSuccess = st.syncSuccess +
      ((syncPairs env regionLabelKey username password syncTime ps st).backendPaths.drop
        st.backendPaths.length).countP (·.syncStatus = "Success") ∧
    (syncPairs env regionLabelKey username password syncTime ps st).syncErrors = st.syncErrors +
      ((syncPairs env regionLabelKey username password syncTime ps st).backendPaths.drop
        st.backendPaths.length).countP (·.syncStatus = "Failed") := by
  induction ps generalizing st with
  | nil => simp [syncPairs]
  | cons p rest ih =>
    obtain ⟨t, b⟩ := p
    obtain ⟨names, statuses, successes, errors⟩ :=
      ih (syncPair env regionLabelKey username password syncTime t b st)
    rcases calls : syncPairCalls env regionLabelKey username password syncTime t b st.remote
      with ⟨entry, r', effects⟩
    obtain ⟨named, recorded⟩ := syncPairCalls_entry calls
    rw [syncPairs_newPaths_cons, syncPairs_cons, calls]
    refine ⟨by rw [List.map_cons, names, named]; rfl, ?_, ?_, ?_⟩
    · rintro e (_ | ⟨_, later⟩)
      exacts [recorded, statuses e later]
    · rw [successes, syncPair_syncSuccess, calls, List.countP_cons]
      rcases recorded with status | status
      · simp [status]; omega
      · simp [status]
    · rw [errors, syncPair_syncErrors, calls, List.countP_cons]
      rcases recorded with status | status
      · simp [status]
      · simp [status]; omega

/-- A path holding the current password keeps holding it: the loop writes nothing else. -/
theorem syncPairs_keeps_holds (ps : List (Target × BMC)) (st : SyncState) (dest : Destination)
    (path : String) (holds : holdsPassword (st.remote.data dest path) password) :
    holdsPassword ((syncPairs env regionLabelKey username password syncTime ps st).remote.data
      dest path) password := by
  induction ps generalizing st with
  | nil => exact holds
  | cons p rest ih =>
    obtain ⟨t, b⟩ := p
    apply ih
    rcases calls : syncPairCalls env regionLabelKey username password syncTime t b st.remote
      with ⟨entry, r', effects⟩
    rw [syncPair_remote, calls]
    rcases syncPairCalls_data calls dest path with same | written
    · rwa [same]
    · rw [written]; exact holdsPassword_secretData username password

/-- Every entry a pass records `Success`, with the destination of its pair, has that
destination holding the current password at the entry's path when the pass ends. -/
theorem syncPairs_success_holds (ps : List (Target × BMC)) (st : SyncState) :
    ∀ te ∈ (ps.map Prod.fst).zip
        ((syncPairs env regionLabelKey username password syncTime ps st).backendPaths.drop
          st.backendPaths.length),
      te.2.syncStatus = "Success" →
      holdsPassword ((syncPairs env regionLabelKey username password syncTime ps st).remote.data
        te.1.store.destination te.2.path) password := by
  induction ps generalizing st with
  | nil => simp [syncPairs]
  | cons p rest ih =>
    obtain ⟨t, b⟩ := p
    rw [syncPairs_newPaths_cons, List.map_cons, List.zip_cons_cons]
    rintro te (_ | ⟨_, later⟩) success
    · rcases calls : syncPairCalls env regionLabelKey username password syncTime t b st.remote
        with ⟨entry, r', effects⟩
      rw [calls] at success
      rw [syncPairs_cons]
      apply syncPairs_keeps_holds
      rw [syncPair_remote, calls]
      exact syncPairCalls_success calls success
    · exact ih _ te later success

/-- With no remote call failing, a pass leaves every pair's rendered path holding the
current password. -/
theorem syncPairs_establishes (reliable : ∀ n, env.remoteFault n = none)
    (ps : List (Target × BMC)) (st : SyncState) :
    ∀ p ∈ ps, ∀ path, pairPath env regionLabelKey username p.1 p.2 = .ok path →
      holdsPassword ((syncPairs env regionLabelKey username password syncTime ps st).remote.data
        p.1.store.destination path) password := by
  induction ps generalizing st with
  | nil => simp
  | cons p rest ih =>
    obtain ⟨t, b⟩ := p
    rintro q (_ | ⟨_, later⟩) path rendered
    · rcases calls : syncPairCalls env regionLabelKey username password syncTime t b st.remote
        with ⟨entry, r', effects⟩
      obtain ⟨success, onPath, -⟩ := syncPairCalls_reliable reliable calls rendered
      rw [syncPairs_cons]
      apply syncPairs_keeps_holds
      rw [syncPair_remote, calls, ← onPath]
      exact syncPairCalls_success calls success
    · exact ih _ q later path rendered

/-- With no remote call failing and every path rendering, a pass records every pair
`Success`. -/
theorem syncPairs_all_success (reliable : ∀ n, env.remoteFault n = none)
    (ps : List (Target × BMC))
    (rendered : ∀ p ∈ ps, ∃ path, pairPath env regionLabelKey username p.1 p.2 = .ok path)
    (st : SyncState) :
    ∀ entry ∈ (syncPairs env regionLabelKey username password syncTime ps st).backendPaths.drop
        st.backendPaths.length, entry.syncStatus = "Success" := by
  induction ps generalizing st with
  | nil => simp [syncPairs]
  | cons p rest ih =>
    obtain ⟨t, b⟩ := p
    rw [syncPairs_newPaths_cons]
    rintro entry (_ | ⟨_, later⟩)
    · obtain ⟨path, onPath⟩ := rendered (t, b) (List.mem_cons_self _ _)
      exact (syncPairCalls_reliable reliable rfl onPath).1
    · exact ih (fun p member => rendered p (List.mem_cons_of_mem _ member)) _ entry later

/-- A pass over stores where every rendered path already holds the current password, with
no remote call failing, writes nothing and changes no store. -/
theorem syncPairs_settled (reliable : ∀ n, env.remoteFault n = none)
    (ps : List (Target × BMC)) (st : SyncState)
    (settled : ∀ p ∈ ps, ∀ path, pairPath env regionLabelKey username p.1 p.2 = .ok path →
      holdsPassword (st.remote.data p.1.store.destination path) password) :
    (syncPairs env regionLabelKey username password syncTime ps st).remote.data = st.remote.data ∧
      ∀ e ∈ (syncPairs env regionLabelKey username password syncTime ps st).log.drop st.log.length,
        e.isWrite = false := by
  induction ps generalizing st with
  | nil => simp [syncPairs]
  | cons p rest ih =>
    obtain ⟨t, b⟩ := p
    rcases calls : syncPairCalls env regionLabelKey username password syncTime t b st.remote
      with ⟨entry, r', effects⟩
    obtain ⟨quiet, same⟩ := syncPairCalls_quiet reliable calls
      (settled (t, b) (List.mem_cons_self _ _))
    have unchanged : (syncPair env regionLabelKey username password syncTime t b st).remote.data =
        st.remote.data := by rw [syncPair_remote, calls, same]
    obtain ⟨data, later⟩ := ih (syncPair env regionLabelKey username password syncTime t b st)
      (fun p member => unchanged ▸ settled p (List.mem_cons_of_mem _ member))
    refine ⟨by rw [syncPairs_cons, data, unchanged], ?_⟩
    rw [syncPairs_newLog_cons, calls, quiet]
    intro e member
    rcases List.mem_append.mp member with marker | member
    · rw [List.mem_singleton.mp marker]; rfl
    · exact later e member

/-- The iteration of each pair runs on the stores the pairs before it left, and its marker
and effects stand in the log right after theirs. -/
theorem syncPairs_iteration (pre : List (Target × BMC)) (t : Target) (b : BMC)
    (post : List (Target × BMC)) (st : SyncState) :
    ∃ rest, (syncPairs env regionLabelKey username password syncTime (pre ++ (t, b) :: post) st).log =
      (syncPairs env regionLabelKey username password syncTime pre st).log ++
        Effect.attempt t.engine t.store.destination b.name ::
          (syncPairCalls env regionLabelKey username password syncTime t b
            (syncPairs env regionLabelKey username password syncTime pre st).remote).2.2 ++ rest := by
  obtain ⟨-, rest, log⟩ := syncPairs_prefix env regionLabelKey username password syncTime post
    (syncPair env regionLabelKey username password syncTime t b
      (syncPairs env regionLabelKey username password syncTime pre st))
  refine ⟨rest, ?_⟩
  rw [syncPairs_append, syncPairs_cons, log, syncPair_log]

/-- Every write a pass issues goes to the rendered path of one of its pairs, and the
path did not hold the current password when that pair was checked. -/
theorem syncPairs_write_needed (ps : List (Target × BMC)) (st : SyncState) :
    ∀ e ∈ (syncPairs env regionLabelKey username password syncTime ps st).log.drop st.log.length,
      e.isWrite →
      ∃ pre t b post path, ps = pre ++ (t, b) :: post ∧
        pairPath env regionLabelKey username t b = .ok path ∧
        e = .write t.store.destination path (secretData username password) ∧
        holdsPassword ((syncPairs env regionLabelKey username password syncTime pre st).remote.data
          t.store.destination path) password = false := by
  induction ps generalizing st with
  | nil => simp [syncPairs]
  | cons p rest ih =>
    obtain ⟨t, b⟩ := p
    rw [syncPairs_newLog_cons]
    rintro e member writes
    rcases List.mem_append.mp member with (_ | ⟨_, issued⟩) | later
    · cases writes
    · rcases calls : syncPairCalls env regionLabelKey username password syncTime t b st.remote
        with ⟨entry, r', effects⟩
      rw [calls] at issued
      obtain ⟨path, rendered, rfl, needed⟩ := syncPairCalls_write_needed calls issued writes
      exact ⟨[], t, b, rest, path, rfl, rendered, rfl, needed⟩
    · obtain ⟨pre, t', b', post, path, split, rendered, rfl, needed⟩ := ih _ e later writes
      exact ⟨(t, b) :: pre, t', b', post, path, by rw [split]; rfl, rendered, rfl, needed⟩

end Loop

/-! ## A sync pass -/

/-- After a sync pass over destinations `targets` and devices `bmcs` (the loop of
`reconcileSingleEngine` with the default destination, of `reconcileMultiEngine` with the
matched engines), every entry recorded `Success` has its destination holding, at the
entry's path, a record whose `password` is the current one, from any stores and under any
failures. With no remote call failing, every pair whose path renders ends so. -/
theorem sync_pass_success_holds_password (env : Env) (regionLabelKey username password : String)
    (syncTime : Nat) (targets : List Target) (bmcs : List BMC) :
    (∀ st : SyncState,
      ∀ te ∈ ((pairs targets bmcs).map Prod.fst).zip
          ((syncPairs env regionLabelKey username password syncTime (pairs targets bmcs) st).backendPaths.drop
            st.backendPaths.length),
        te.2.syncStatus = "Success" →
        holdsPassword ((syncPairs env regionLabelKey username password syncTime (pairs targets bmcs)
          st).remote.data te.1.store.destination te.2.path) password) ∧
    ((∀ n, env.remoteFault n = none) → ∀ st : SyncState,
      ∀ p ∈ pairs targets bmcs, ∀ path, pairPath env regionLabelKey username p.1 p.2 = .ok path →
        holdsPassword ((syncPairs env regionLabelKey username password syncTime (pairs targets bmcs)
          st).remote.data p.1.store.destination path) password) :=
  ⟨syncPairs_success_holds env regionLabelKey username password syncTime _,
    fun reliable => syncPairs_establishes env regionLabelKey username password syncTime reliable _⟩

/-- The default store at `https://vault`, mount `secret`, with the default template. -/
def defaultVaultTarget : Target :=
  ⟨none, ⟨0, ⟨"https://vault", "kubernetes", "", "kubernetes", "", "secret", false, ""⟩, 0⟩,
    ⟨defaultPathTemplate, 0⟩⟩

/-- A device `bmc-1` in region `eu` with hostname `host-1`, referencing `creds`. -/
def deviceOne : BMC := ⟨"bmc-1", [("region", "eu")], some "host-1", none, "creds"⟩

/-- The stores hold, at the device's path, the current password under another username. -/
def staleUsernameStores : Remote :=
  ⟨fun dest path => if dest = ⟨"https://vault", "secret"⟩ ∧ path = "bmc/eu/host-1/admin" then
      some [("username", .str "old"), ("password", .str "pw")] else none, 0⟩

/-- One pass for user `admin` with password `pw` over those stores. -/
def staleUsernamePass : SyncState :=
  syncPairs Env.reliable "region" "admin" "pw" 0 [(defaultVaultTarget, deviceOne)]
    ⟨staleUsernameStores, [], [], 0, 0⟩

/-- `needsUpdate` compares the password only: the pair is recorded `Success`, nothing is
written, and the stored username stays `old`. -/
theorem sync_success_keeps_stale_username :
    staleUsernamePass.backendPaths.map (fun e => (e.path, e.syncStatus)) =
        [("bmc/eu/host-1/admin", "Success")] ∧
      staleUsernamePass.remote.data ⟨"https://vault", "secret"⟩ "bmc/eu/host-1/admin" =
        some [("username", .str "old"), ("password", .str "pw")] ∧
      ∀ e ∈ staleUsernamePass.log, e.isWrite = false := by
  decide

/-- Sync is idempotent. A pass issues a write only to the rendered path of one of its
pairs, and only when, as that pair was checked, the path held no record, no string
password, or another password: the iteration of each pair runs on the stores the pairs
before it left, its effects stand in the log right after theirs, and each write among them
goes to the pair's own path, which did not hold the current password when the pair was
checked. With no remote call failing and every path rendering, a second pass over the
stores the first one left writes nothing and records every pair `Success`. -/
theorem sync_pass_idempotent (env : Env) (regionLabelKey username password : String)
    (ps : List (Target × BMC)) :
    (∀ (syncTime : Nat) (st : SyncState),
      ∀ e ∈ (syncPairs env regionLabelKey username password syncTime ps st).log.drop st.log.length,
        e.isWrite →
        ∃ pre t b post path, ps = pre ++ (t, b) :: post ∧
          pairPath env regionLabelKey username t b = .ok path ∧
          e = .write t.store.destination path (secretData username password) ∧
          holdsPassword ((syncPairs env regionLabelKey username password syncTime pre st).remote.data
            t.store.destination path) password = false) ∧
    (∀ (syncTime : Nat) (st : SyncState) pre t b post, ps = pre ++ (t, b) :: post →
      ∃ rest, (syncPairs env regionLabelKey username password syncTime ps st).log =
        (syncPairs env regionLabelKey username password syncTime pre st).log ++
          Effect.attempt t.engine t.store.destination b.name ::
            (syncPairCalls env regionLabelKey username password syncTime t b
              (syncPairs env regionLabelKey username password syncTime pre st).remote).2.2 ++ rest ∧
        ∀ e ∈ (syncPairCalls env regionLabelKey username password syncTime t b
            (syncPairs env regionLabelKey username password syncTime pre st).remote).2.2, e.isWrite →
          ∃ path, pairPath env regionLabelKey username t b = .ok path ∧
            e = .write t.store.destination path (secretData username password) ∧
            holdsPassword ((syncPairs env regionLabelKey username password syncTime pre st).remote.data
              t.store.destination path) password = false) ∧
    ((∀ n, env.remoteFault n = none) →
      (∀ p ∈ ps, ∃ path, pairPath env regionLabelKey username p.1 p.2 = .ok path) →
      ∀ (syncTime syncTime' : Nat) (st st' : SyncState),
        st'.remote.data = (syncPairs env regionLabelKey username password syncTime ps st).remote.data →
        (∀ e ∈ (syncPairs env regionLabelKey username password syncTime' ps st').log.drop
            st'.log.length, e.isWrite = false) ∧
        ∀ entry ∈ (syncPairs env regionLabelKey username password syncTime' ps st').backendPaths.drop
            st'.backendPaths.length, entry.syncStatus = "Success") := by
  refine ⟨fun syncTime => syncPairs_write_needed env regionLabelKey username password syncTime ps,
    fun syncTime st pre t b post split => ?_,
    fun reliable rendered syncTime syncTime' st st' again => ⟨?_, ?_⟩⟩
  · subst split
    obtain ⟨rest, log⟩ := syncPairs_iteration env regionLabelKey username password syncTime pre t b
      post st
    rcases calls : syncPairCalls env regionLabelKey username password syncTime t b
      (syncPairs env regionLabelKey username password syncTime pre st).remote with ⟨entry, r', effects⟩
    rw [calls] at log
    exact ⟨rest, log, fun e issued writes =>
      syncPairCalls_write_needed calls issued writes⟩
  · refine (syncPairs_settled env regionLabelKey username password syncTime' reliable ps st' ?_).2
    intro p member path onPath
    rw [again]
    exact syncPairs_establishes env regionLabelKey username password syncTime reliable ps st p member
      path onPath
  · exact syncPairs_all_success env regionLabelKey username password syncTime' reliable ps rendered st'

/-- The first pass over empty stores, as the second pass starts it: fresh accumulators. -/
def secondPassStart : SyncState :=
  { syncPairs Env.reliable "region" "admin" "pw" 0 [(defaultVaultTarget, deviceOne)]
      ⟨⟨fun _ _ => none, 0⟩, [], [], 0, 0⟩ with log := [], backendPaths := [] }

theorem sync_pass_idempotent_on_one_pair :
    (∀ n, Env.reliable.remoteFault n = none) ∧
      (∀ p ∈ [(defaultVaultTarget, deviceOne)],
        ∃ path, pairPath Env.reliable "region" "admin" p.1 p.2 = .ok path) ∧
      (∀ e ∈ (syncPairs Env.reliable "region" "admin" "pw" 1 [(defaultVaultTarget, deviceOne)]
          secondPassStart).log.drop secondPassStart.log.length, e.isWrite = false) ∧
      ∀ entry ∈ (syncPairs Env.reliable "region" "admin" "pw" 1 [(defaultVaultTarget, deviceOne)]
          secondPassStart).backendPaths.drop secondPassStart.backendPaths.length,
        entry.syncStatus = "Success" :=
  have reliable : ∀ n, Env.reliable.remoteFault n = none := fun _ => rfl
  have rendered : ∀ p ∈ [(defaultVaultTarget, deviceOne)],
      ∃ path, pairPath Env.reliable "region" "admin" p.1 p.2 = .ok path := by
    simp only [List.mem_singleton, forall_eq]
    exact ⟨_, rfl⟩
  ⟨reliable, rendered, (sync_pass_idempotent Env.reliable "region" "admin" "pw"
    [(defaultVaultTarget, deviceOne)]).2.2 reliable rendered 0 1 _ secondPassStart rfl⟩


end BmcSecretOperator
