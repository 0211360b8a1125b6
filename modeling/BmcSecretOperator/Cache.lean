import BmcSecretOperator.Factory

/-!
# Runs of the factory: where every constructed store ends up

Source: factory.go:60-175,404-515 and multi_engine.go:54-105, as modelled in
`BmcSecretOperator.Factory`.

A run interleaves the factory's operations with arbitrary changes of the registry
record, from a fresh factory, under any outcome oracle. Two invariants are proved once
per operation and carried along every run. `Keeps` says what an operation may do to the
stores: every store the factory constructed is closed, still cached, or one of the stores
a failed engine batch discarded (`accounted_of_reachable`). `Serials` is the serial
bookkeeping: every recorded store is one `NewVaultBackend` returned, no cached store is
closed, and every cached component comes from a load made after a given read. Since no
`Close` fails, `InvalidateCache` always completes, and the getters after it serve only
what later loads built (`invalidateCache_rebuilds_from_fresh_load`). The same runs exhibit
a cache mixing two configuration loads (`getBackend_reloads_under_cached_template`).
-/

set_option autoImplicit false

namespace BmcSecretOperator

/-- The store is one that `NewVaultBackend` returned, against the server its construction
found. -/
def Constructed (env : Env) (st : Store) : Prop :=
  ∃ v, (Vault.newVaultBackend (env.vaultServer st.id) st.config none).1 = .ok v

namespace FactoryState

variable (env : Env) (record : Option SecretBackendConfigSpec)

/-! ## Inversion lemmas of the sub-steps -/

theorem readRecord_snd (s : FactoryState) : (readRecord env record s).2 = s.bumpReads := by
  unfold readRecord; split <;> rfl

theorem loadConfig_snd (s : FactoryState) : (loadConfig env record s).2 = s.bumpReads := by
  have read := readRecord_snd env record s
  unfold loadConfig
  rcases h : readRecord env record s with ⟨_ | _, s1⟩ <;> simp_all

variable {env record}

/-- A construction adds exactly the store it returns, and nothing on failure. -/
theorem newVaultBackend_inv {config : Vault.Config} {load : Nat} {s s' : FactoryState}
    {r : Except String Store} (h : newVaultBackend env config load s = (r, s')) :
    s'.factory = s.factory ∧ s'.ledger.closed = s.ledger.closed ∧
      s'.ledger.dropped = s.ledger.dropped ∧
      s'.ledger.stores = s.ledger.stores ++ r.toOption.toList := by
  unfold newVaultBackend at h
  split at h <;> cases h <;> simp [Except.toOption]

/-- A construction takes the next serial without reading; the store it returns is
`NewVaultBackend`'s at that serial, built from this load. -/
theorem newVaultBackend_serial {config : Vault.Config} {load : Nat} {s s' : FactoryState}
    {r : Except String Store} (h : newVaultBackend env config load s = (r, s')) :
    s'.ledger.reads = s.ledger.reads ∧ s'.ledger.constructions = s.ledger.constructions + 1 ∧
      ∀ st, r = .ok st → st.id = s.ledger.constructions ∧ st.load = load ∧ Constructed env st := by
  unfold newVaultBackend at h
  split at h <;> cases h
  · exact ⟨rfl, rfl, nofun⟩
  · rename_i v built
    exact ⟨rfl, rfl, fun st ok => by cases ok; exact ⟨rfl, rfl, v, built⟩⟩

theorem createBackend_inv {config : Config} {load : Nat} {s s' : FactoryState}
    {r : Except String Store} (h : createBackend env config load s = (r, s')) :
    s'.factory = s.factory ∧ s'.ledger.closed = s.ledger.closed ∧
      s'.ledger.dropped = s.ledger.dropped ∧
      s'.ledger.stores = s.ledger.stores ++ r.toOption.toList := by
  unfold createBackend at h
  split at h
  · split at h
    · cases h; simp [Except.toOption]
    · exact newVaultBackend_inv h
  · split at h <;> cases h <;> simp [Except.toOption]

theorem createBackend_serial {config : Config} {load : Nat} {s s' : FactoryState}
    {r : Except String Store} (h : createBackend env config load s = (r, s')) :
    s'.ledger.reads = s.ledger.reads ∧ s.ledger.constructions ≤ s'.ledger.constructions ∧
      ∀ st, r = .ok st → st.id = s.ledger.constructions ∧ st.id < s'.ledger.constructions ∧
        st.load = load ∧ Constructed env st := by
  unfold createBackend at h
  split at h
  · split at h
    · cases h; exact ⟨rfl, le_rfl, nofun⟩
    · obtain ⟨reads, constructions, built⟩ := newVaultBackend_serial h
      exact ⟨reads, by omega, fun st ok =>
        have ⟨id, load, constructed⟩ := built st ok; ⟨id, by omega, load, constructed⟩⟩
  · split at h <;> cases h <;> exact ⟨rfl, le_rfl, nofun⟩

/-- `ensureConfig` touches only the cached config and the read serial. -/
theorem ensureConfig_inv {s s' : FactoryState} {r : Except String Config}
    (h : ensureConfig env record s = (r, s')) :
    s'.ledger.stores = s.ledger.stores ∧ s'.ledger.closed = s.ledger.closed ∧
      s'.ledger.dropped = s.ledger.dropped ∧ s'.factory.backend = s.factory.backend ∧
      s'.factory.pathBuilder = s.factory.pathBuilder ∧
      s'.factory.engineBackends = s.factory.engineBackends := by
  unfold ensureConfig at h
  split at h
  · cases h; simp
  · have load := loadConfig_snd env record s
    rcases h1 : loadConfig env record s with ⟨_ | _, s1⟩ <;> simp only [h1] at h load <;>
      subst load <;> cases h <;> simp [setConfig, bumpReads]

/-- An engine batch leaves the cache alone; on success it built exactly the stores of its
bindings, on failure every store it built is among the discarded ones. -/
theorem parseSecretEngineConfig_inv {base : VaultConfigInternal} {load : Nat} :
    ∀ {engines : List SecretEngineConfig} {s s' : FactoryState}
      {r : Except String (List EngineBackend)},
      parseSecretEngineConfig env base load engines s = (r, s') →
      s'.factory = s.factory ∧ s'.ledger.closed = s.ledger.closed ∧
        s.ledger.dropped ⊆ s'.ledger.dropped ∧
        ∃ fresh, s'.ledger.stores = s.ledger.stores ++ fresh ∧
          (∀ ebs, r = .ok ebs → fresh = ebs.map (·.backend)) ∧
          (∀ e, r = .error e → ∀ st ∈ fresh, st.id ∈ s'.ledger.dropped)
  | [], s, s', r, h => by
    simp only [parseSecretEngineConfig, Prod.mk.injEq] at h
    obtain ⟨rfl, rfl⟩ := h
    exact ⟨rfl, rfl, List.Subset.refl _, [], by simp, by simp, by simp⟩
  | engine :: rest, s, s', r, h => by
    rcases h1 : newVaultBackend env (base.engineClientConfig engine) load s with ⟨_ | store, s1⟩
    all_goals
      obtain ⟨factory1, closed1, dropped1, stores1⟩ := newVaultBackend_inv h1
      simp only [parseSecretEngineConfig, h1] at h
    · cases h
      exact ⟨factory1, closed1, fun x hx => by rwa [dropped1], [], by simpa [Except.toOption] using stores1,
        by simp, by simp⟩
    · simp only [Except.toOption, Option.toList_some] at stores1
      split at h
      · cases h
        exact ⟨factory1, closed1, by simp [drop, dropped1], [store], by simp [drop, stores1],
          by simp, by simp [drop]⟩
      · rcases h2 : parseSecretEngineConfig env base load rest s1 with ⟨r2, s2⟩
        obtain ⟨factory2, closed2, dropped2, fresh, stores2, ok2, error2⟩ :=
          parseSecretEngineConfig_inv h2
        rw [h2] at h
        cases r2 with
        | error e =>
          cases h
          refine ⟨by simp [drop, factory2, factory1], by simp [drop, closed2, closed1],
            fun x hx => by simp [drop, dropped2 (dropped1 ▸ hx)], store :: fresh,
            by simp [drop, stores2, stores1], by simp, fun _ _ st hst => ?_⟩
          rcases List.mem_cons.mp hst with rfl | hst
          · simp [drop]
          · exact List.mem_cons_of_mem _ (error2 e rfl st hst)
        | ok ebs =>
          cases h
          exact ⟨factory2.trans factory1, closed2.trans closed1, dropped1 ▸ dropped2,
            store :: fresh, by simp [stores2, stores1],
            fun _ eq => by cases eq; simp [ok2 ebs rfl, EngineBackend.ofSpec], by simp⟩

/-- No close fails: closing the engines marks every engine store closed, the last one
first. -/
theorem closeEngines_eq :
    ∀ (ebs : List EngineBackend) (s : FactoryState), closeEngines ebs s =
      (.ok (), { s with ledger := { s.ledger with
        closed := (ebs.map (·.backend.id)).reverse ++ s.ledger.closed } })
  | [], _ => rfl
  | eb :: rest, s => by
    simp only [closeEngines, closeStore, closeEngines_eq rest]
    simp

theorem closeBackend_eq (s : FactoryState) : closeBackend s =
    (.ok (), ⟨{ s.factory with backend := none },
      { s.ledger with closed := (s.factory.backend.map (·.id)).toList ++ s.ledger.closed }⟩) := by
  obtain ⟨⟨_ | b, _, _, _, _⟩, _⟩ := s <;> rfl

/-- `InvalidateCache` always completes: every cached store is marked closed, and all four
cached components are cleared. -/
theorem invalidateCache_eq (s : FactoryState) : invalidateCache s =
    (.ok (), ⟨{ s.factory with
        backend := none, pathBuilder := none, config := none, engineBackends := [] },
      { s.ledger with closed := (s.factory.engineBackends.map (·.backend.id)).reverse ++
        (s.factory.backend.map (·.id)).toList ++ s.ledger.closed }⟩) := by
  simp only [invalidateCache, closeBackend_eq, closeEngines_eq, clearSnapshot, List.append_assoc]

end FactoryState

/-! ## Where the constructed stores are -/

/-- The store is held by the cache: as the default store or by an engine binding. -/
def Referenced (f : BackendFactory) (st : Store) : Prop :=
  f.backend = some st ∨ ∃ eb ∈ f.engineBackends, eb.backend = st

/-- Every constructed store is closed, still cached, or one a failed engine batch
discarded. -/
def Accounted (s : FactoryState) : Prop :=
  ∀ st ∈ s.ledger.stores,
    st.id ∈ s.ledger.closed ∨ Referenced s.factory st ∨ st.id ∈ s.ledger.dropped

/-- What one operation may do to the stores: build new ones, each left closed, cached or
discarded, close stores, and uncache a store only once it is closed. -/
structure Keeps (s s' : FactoryState) : Prop where
  stores : ∃ fresh, s'.ledger.stores = s.ledger.stores ++ fresh ∧
    ∀ st ∈ fresh, st.id ∈ s'.ledger.closed ∨ Referenced s'.factory st ∨ st.id ∈ s'.ledger.dropped
  closed : s.ledger.closed ⊆ s'.ledger.closed
  dropped : s.ledger.dropped ⊆ s'.ledger.dropped
  cached : ∀ st, Referenced s.factory st → Referenced s'.factory st ∨ st.id ∈ s'.ledger.closed

theorem Keeps.accounted {s s' : FactoryState} (keeps : Keeps s s') (before : Accounted s) :
    Accounted s' := by
  obtain ⟨fresh, stores, placed⟩ := keeps.stores
  intro st member
  rw [stores, List.mem_append] at member
  rcases member with old | new
  · rcases before st old with closed | cached | dropped
    · exact .inl (keeps.closed closed)
    · rcases keeps.cached st cached with cached | closed
      · exact .inr (.inl cached)
      · exact .inl closed
    · exact .inr (.inr (keeps.dropped dropped))
  · exact placed st new

/-- An operation that builds no store, closes none, and keeps every cached store. -/
theorem Keeps.of_cache {s s' : FactoryState} (stores : s'.ledger.stores = s.ledger.stores)
    (closed : s.ledger.closed ⊆ s'.ledger.closed) (dropped : s.ledger.dropped ⊆ s'.ledger.dropped)
    (cached : ∀ st, Referenced s.factory st → Referenced s'.factory st) : Keeps s s' :=
  ⟨⟨[], by simp [stores], by simp⟩, closed, dropped, fun st h => .inl (cached st h)⟩

theorem Keeps.refl (s : FactoryState) : Keeps s s :=
  .of_cache rfl (List.Subset.refl _) (List.Subset.refl _) fun _ h => h

theorem Keeps.trans {s1 s2 s3 : FactoryState} (first : Keeps s1 s2) (second : Keeps s2 s3) :
    Keeps s1 s3 := by
  obtain ⟨fresh1, stores1, placed1⟩ := first.stores
  obtain ⟨fresh2, stores2, placed2⟩ := second.stores
  refine ⟨⟨fresh1 ++ fresh2, by simp [stores2, stores1], fun st member => ?_⟩,
    fun x hx => second.closed (first.closed hx), fun x hx => second.dropped (first.dropped hx),
    fun st cached => ?_⟩
  · rcases List.mem_append.mp member with old | new
    · rcases placed1 st old with closed | cached | dropped
      · exact .inl (second.closed closed)
      · exact (second.cached st cached).elim (fun c => .inr (.inl c)) .inl
      · exact .inr (.inr (second.dropped dropped))
    · exact placed2 st new
  · rcases first.cached st cached with cached | closed
    · exact second.cached st cached
    · exact .inr (second.closed closed)

/-- The default store and the engine bindings of the cache are unchanged. -/
theorem referenced_of_same {f f' : BackendFactory} (backend : f'.backend = f.backend)
    (engines : f'.engineBackends = f.engineBackends) (st : Store) (h : Referenced f st) :
    Referenced f' st := by
  unfold Referenced at *; rwa [backend, engines]

namespace FactoryState

variable (env : Env) (record : Option SecretBackendConfigSpec)

theorem ensureConfig_keeps (s : FactoryState) : Keeps s (ensureConfig env record s).2 := by
  obtain ⟨stores, closed, dropped, backend, -, engines⟩ := ensureConfig_inv (Prod.eta _).symm
  exact .of_cache stores (fun _ hx => by rwa [closed]) (fun _ hx => by rwa [dropped])
    (referenced_of_same backend engines)

theorem getBackend_keeps (s : FactoryState) : Keeps s (getBackend env record s).2 := by
  unfold getBackend
  split
  · exact .refl s
  · rename_i empty
    have load := loadConfig_snd env record s
    rcases h1 : loadConfig env record s with ⟨_ | config, s1⟩ <;> simp only [h1] at load ⊢ <;>
      subst load
    · exact .of_cache rfl (List.Subset.refl _) (List.Subset.refl _) fun _ h => h
    · rcases h2 : createBackend env config s.ledger.reads s.bumpReads with ⟨_ | b, s2⟩
      all_goals obtain ⟨factory2, closed2, dropped2, stores2⟩ := createBackend_inv h2
      · simpa [Except.toOption, factory2, closed2, dropped2] using
          (@Keeps.of_cache s s2 (by simpa [bumpReads, Except.toOption] using stores2)
            (by simp [closed2, bumpReads]) (by simp [dropped2, bumpReads])
            (referenced_of_same (by simp [factory2]) (by simp [factory2])))
      · refine ⟨⟨[b], by simp [setBackend, stores2, bumpReads, Except.toOption], ?_⟩,
          by simp [setBackend, closed2, bumpReads], by simp [setBackend, dropped2, bumpReads], ?_⟩
        · simp [Referenced, setBackend]
        · intro st cached
          left
          rcases cached with backend | engine
          · simp [empty] at backend
          · exact .inr (by simpa [setBackend, factory2, bumpReads] using engine)

theorem readRecord_keeps (s : FactoryState) : Keeps s (readRecord env record s).2 := by
  rw [readRecord_snd]
  exact .of_cache rfl (List.Subset.refl _) (List.Subset.refl _) fun _ h => h

theorem getPathBuilder_keeps (s : FactoryState) : Keeps s (getPathBuilder env record s).2 := by
  unfold getPathBuilder
  split
  · exact .refl s
  · have first := ensureConfig_keeps env record s
    rcases h1 : ensureConfig env record s with ⟨_ | c, s1⟩ <;> rw [h1] at first <;>
      dsimp only at first ⊢
    · exact first
    · split
      · exact first
      · exact first.trans (.of_cache rfl (List.Subset.refl _) (List.Subset.refl _)
          (referenced_of_same rfl rfl))

theorem getConfigField_keeps (field : Config → String) (s : FactoryState) :
    Keeps s (getConfigField env record field s).2 :=
  ensureConfig_keeps env record s

/-- The engine batch of a cache miss: its stores end up cached or discarded. -/
theorem installEngines_keeps (base : VaultConfigInternal) (load : Nat)
    (engines : List SecretEngineConfig) (labels : Labels) (s : FactoryState)
    (uncached : s.factory.engineBackends = []) :
    Keeps s (match parseSecretEngineConfig env base load engines s with
      | (.error e, s3) => ((.error ("failed to parse secret engine config: " ++ e) :
          Except String (List EngineBackend)), s3)
      | (.ok ebs, s3) => (.ok (filterEnginesByLabels ebs labels), s3.setEngineBackends ebs)).2 := by
  rcases h : parseSecretEngineConfig env base load engines s with ⟨_ | ebs, s3⟩
  all_goals obtain ⟨factory3, closed3, dropped3, fresh, stores3, ok3, error3⟩ :=
    parseSecretEngineConfig_inv h
  · refine ⟨⟨fresh, stores3, fun st member => .inr (.inr (error3 _ rfl st member))⟩,
      fun x hx => by rwa [closed3], dropped3, fun st cached => .inl ?_⟩
    exact referenced_of_same (by rw [factory3]) (by rw [factory3]) st cached
  · refine ⟨⟨fresh, by simpa [setEngineBackends] using stores3, fun st member => ?_⟩,
      fun x hx => by simpa [setEngineBackends, closed3] using hx,
      by simpa [setEngineBackends] using dropped3, fun st cached => .inl ?_⟩
    · rw [ok3 ebs rfl, List.mem_map] at member
      obtain ⟨eb, belongs, rfl⟩ := member
      exact .inr (.inl (.inr ⟨eb, by simpa [setEngineBackends] using belongs, rfl⟩))
    · rcases cached with backend | ⟨eb, belongs, _⟩
      · exact .inl (by simpa [setEngineBackends, factory3] using backend)
      · simp [uncached] at belongs

theorem getEngineBackends_keeps (labels : Labels) (s : FactoryState) :
    Keeps s (getEngineBackends env record labels s).2 := by
  unfold getEngineBackends
  split
  · exact .refl s
  · rename_i miss
    have first := ensureConfig_keeps env record s
    rcases h1 : ensureConfig env record s with ⟨_ | c, s1⟩ <;> rw [h1] at first <;>
      dsimp only at first ⊢
    · exact first
    · obtain ⟨-, -, -, -, -, engines1⟩ := ensureConfig_inv h1
      have uncached : s1.factory.engineBackends = [] := by simpa [engines1] using miss
      split
      · exact first
      · have second := first.trans (readRecord_keeps env record s1)
        rcases h2 : readRecord env record s1 with ⟨_ | spec, s2⟩ <;> rw [h2] at second <;>
          dsimp only at second ⊢
        · exact second
        · have read : s2 = s1.bumpReads := by rw [← readRecord_snd env record s1, h2]
          have uncached2 : s2.factory.engineBackends = [] := by simpa [read] using uncached
          split
          · exact second
          · exact second.trans (installEngines_keeps env _ _ _ labels s2 uncached2)

theorem hasMultiEngineConfig_keeps (s : FactoryState) :
    Keeps s (hasMultiEngineConfig env record s).2 := by
  have read := readRecord_keeps env record s
  unfold hasMultiEngineConfig
  rcases h : readRecord env record s with ⟨_ | _, s1⟩ <;> rw [h] at read <;> exact read

/-- Closing the default store uncaches it once it is closed. -/
theorem closeBackend_keeps (s : FactoryState) : Keeps s (closeBackend s).2 := by
  rw [closeBackend_eq]
  refine ⟨⟨[], by simp, by simp⟩, fun x hx => by simp [hx], List.Subset.refl _, fun st cached => ?_⟩
  rcases cached with backend | engine
  · exact .inr (by simp [backend])
  · exact .inl (.inr engine)

theorem invalidateCache_keeps (s : FactoryState) : Keeps s (invalidateCache s).2 := by
  rw [invalidateCache_eq]
  refine ⟨⟨[], by simp, by simp⟩, fun x hx => by simp [hx], List.Subset.refl _,
    fun st cached => .inr ?_⟩
  rcases cached with backend | ⟨eb, belongs, rfl⟩
  · simp [backend]
  · exact List.mem_append_left _ (List.mem_append_left _
      (List.mem_reverse.mpr (List.mem_map_of_mem _ belongs)))

end FactoryState

/-! ## Serials: constructions, closes and loads -/

/-- The serial bookkeeping of a reachable state, with the cache's loads made at read serial
`R` or later: every recorded store is one `NewVaultBackend` returned; closed and cached
stores carry serials already taken; no cached store is closed; and the default store is
none of the engine stores. -/
structure Serials (env : Env) (R : Nat) (s : FactoryState) : Prop where
  built : ∀ st ∈ s.ledger.stores, Constructed env st
  reads : R ≤ s.ledger.reads
  closed : ∀ id ∈ s.ledger.closed, id < s.ledger.constructions
  config : s.factory.config.isSome → R ≤ s.factory.configLoad
  backend : ∀ b ∈ s.factory.backend,
    R ≤ b.load ∧ b.id < s.ledger.constructions ∧ b.id ∉ s.ledger.closed
  pathBuilder : ∀ pb ∈ s.factory.pathBuilder, R ≤ pb.load
  engines : ∀ eb ∈ s.factory.engineBackends, R ≤ eb.backend.load ∧ R ≤ eb.pathBuilder.load ∧
    eb.backend.id < s.ledger.constructions ∧ eb.backend.id ∉ s.ledger.closed
  apart : ∀ b ∈ s.factory.backend, ∀ eb ∈ s.factory.engineBackends, b.id ≠ eb.backend.id

namespace Serials

variable {env : Env} {R : Nat} {s s' : FactoryState}

theorem initial : Serials env 0 ⟨.empty, .empty⟩ := by
  constructor <;> simp [BackendFactory.empty, Ledger.empty]

/-- A step that leaves the cache and the closed stores alone, only reads and constructs, and
records only stores `NewVaultBackend` returned. -/
theorem of_ledger (inv : Serials env R s) (factory : s'.factory = s.factory)
    (closed : s'.ledger.closed = s.ledger.closed) (reads : s.ledger.reads ≤ s'.ledger.reads)
    (constructions : s.ledger.constructions ≤ s'.ledger.constructions)
    (stores : ∀ st ∈ s'.ledger.stores, st ∈ s.ledger.stores ∨ Constructed env st) :
    Serials env R s' where
  built st member := (stores st member).elim (inv.built st) id
  reads := inv.reads.trans reads
  closed id member := (inv.closed id (closed ▸ member)).trans_le constructions
  config := factory ▸ inv.config
  backend b member :=
    have ⟨load, lt, unclosed⟩ := inv.backend b (factory ▸ member)
    ⟨load, lt.trans_le constructions, closed ▸ unclosed⟩
  pathBuilder := factory ▸ inv.pathBuilder
  engines eb member :=
    have ⟨load, pbLoad, lt, unclosed⟩ := inv.engines eb (factory ▸ member)
    ⟨load, pbLoad, lt.trans_le constructions, closed ▸ unclosed⟩
  apart := factory ▸ inv.apart

theorem bumpReads (inv : Serials env R s) : Serials env R s.bumpReads :=
  inv.of_ledger rfl rfl (Nat.le_succ _) le_rfl fun _ member => .inl member

theorem mono {R' : Nat} (inv : Serials env R' s) (le : R ≤ R') : Serials env R s where
  built := inv.built
  reads := le.trans inv.reads
  closed := inv.closed
  config held := le.trans (inv.config held)
  backend b member := have ⟨load, rest⟩ := inv.backend b member; ⟨le.trans load, rest⟩
  pathBuilder pb member := le.trans (inv.pathBuilder pb member)
  engines eb member :=
    have ⟨load, pbLoad, rest⟩ := inv.engines eb member; ⟨le.trans load, le.trans pbLoad, rest⟩
  apart := inv.apart

end Serials

theorem stores_of_append {env : Env} {stores stores' fresh : List Store}
    (grown : stores' = stores ++ fresh) (built : ∀ st ∈ fresh, Constructed env st) :
    ∀ st ∈ stores', st ∈ stores ∨ Constructed env st := by
  intro st member
  rw [grown, List.mem_append] at member
  exact member.imp id (built st)

namespace FactoryState

variable {env : Env} {record : Option SecretBackendConfigSpec}

theorem ensureConfig_ok {s s' : FactoryState} {c : Config}
    (h : ensureConfig env record s = (.ok c, s')) : s'.factory.config = some c := by
  unfold ensureConfig at h
  split at h
  · cases h; assumption
  · split at h <;> cases h; rfl

/-- An engine batch takes serials without reading; every store it records is one
`NewVaultBackend` returned, and on success each binding's store carries a serial of the
batch, and both of its components come from `load`. -/
theorem parseSecretEngineConfig_serial {base : VaultConfigInternal} {load : Nat} :
    ∀ {engines : List SecretEngineConfig} {s s' : FactoryState}
      {r : Except String (List EngineBackend)},
      parseSecretEngineConfig env base load engines s = (r, s') →
      s'.ledger.reads = s.ledger.reads ∧ s.ledger.constructions ≤ s'.ledger.constructions ∧
        (∀ st ∈ s'.ledger.stores, st ∈ s.ledger.stores ∨ Constructed env st) ∧
        ∀ ebs, r = .ok ebs → ∀ eb ∈ ebs, s.ledger.constructions ≤ eb.backend.id ∧
          eb.backend.id < s'.ledger.constructions ∧ eb.backend.load = load ∧
          eb.pathBuilder.load = load
  | [], s, s', r, h => by
    simp only [parseSecretEngineConfig, Prod.mk.injEq] at h
    obtain ⟨rfl, rfl⟩ := h
    exact ⟨rfl, le_rfl, fun st member => .inl member, by simp⟩
  | engine :: rest, s, s', r, h => by
    rcases h1 : newVaultBackend env (base.engineClientConfig engine) load s with ⟨_ | store, s1⟩
    all_goals
      obtain ⟨-, -, -, stores1⟩ := newVaultBackend_inv h1
      obtain ⟨reads1, constructions1, built1⟩ := newVaultBackend_serial h1
      simp only [parseSecretEngineConfig, h1] at h
    · cases h
      exact ⟨reads1, by omega, stores_of_append stores1 (by simp [Except.toOption]), by simp⟩
    · obtain ⟨id1, load1, constructed1⟩ := built1 store rfl
      have grown1 := stores_of_append stores1 (by simpa [Except.toOption] using constructed1)
      split at h
      · cases h
        exact ⟨reads1, by simp [drop]; omega, by simpa [drop] using grown1, by simp⟩
      · rename_i pb compiled
        rcases h2 : parseSecretEngineConfig env base load rest s1 with ⟨r2, s2⟩
        obtain ⟨reads2, constructions2, grown2, bound2⟩ := parseSecretEngineConfig_serial h2
        have grown : ∀ st ∈ s2.ledger.stores, st ∈ s.ledger.stores ∨ Constructed env st :=
          fun st member => (grown2 st member).elim (grown1 st) .inr
        rw [h2] at h
        cases r2 with
        | error e =>
          cases h
          exact ⟨reads2.trans reads1, by simp [drop]; omega, by simpa [drop] using grown, by simp⟩
        | ok ebs =>
          cases h
          refine ⟨reads2.trans reads1, by omega, grown, fun _ ok eb member => ?_⟩
          cases ok
          rcases List.mem_cons.mp member with rfl | later
          · exact ⟨by simp [EngineBackend.ofSpec, id1], by simp [EngineBackend.ofSpec]; omega,
              load1, by simp [EngineBackend.ofSpec, newPathBuilder_ok compiled]⟩
          · have ⟨low, high, loads⟩ := bound2 ebs rfl eb later
            exact ⟨by omega, high, loads⟩

variable (env record)

theorem ensureConfig_serials {R : Nat} {s : FactoryState} (inv : Serials env R s) :
    Serials env R (ensureConfig env record s).2 := by
  unfold ensureConfig
  split
  · exact inv
  · have load := loadConfig_snd env record s
    rcases h : loadConfig env record s with ⟨_ | c, s1⟩ <;> rw [h] at load <;> subst load
    · exact inv.bumpReads
    · exact { inv.bumpReads with config := fun _ => inv.reads }

theorem getBackend_serials {R : Nat} {s : FactoryState} (inv : Serials env R s) :
    Serials env R (getBackend env record s).2 := by
  unfold getBackend
  split
  · exact inv
  · have load := loadConfig_snd env record s
    rcases h1 : loadConfig env record s with ⟨_ | config, s1⟩ <;> simp only [h1] at load ⊢ <;>
      subst load
    · exact inv.bumpReads
    · rcases h2 : createBackend env config s.ledger.reads s.bumpReads with ⟨_ | b, s2⟩
      all_goals
        obtain ⟨factory2, closed2, -, stores2⟩ := createBackend_inv h2
        obtain ⟨reads2, constructions2, built2⟩ := createBackend_serial h2
      · exact inv.bumpReads.of_ledger factory2 closed2 reads2.ge constructions2
          (stores_of_append stores2 (by simp [Except.toOption]))
      · obtain ⟨id, lt, load, constructed⟩ := built2 b rfl
        have id : b.id = s.ledger.constructions := id
        have base := inv.bumpReads.of_ledger factory2 closed2 reads2.ge constructions2
          (stores_of_append stores2 (by simpa [Except.toOption] using constructed))
        refine { base with config := fun _ => inv.reads, backend := ?_, apart := ?_ }
        · rintro b' ⟨⟩
          refine ⟨load ▸ inv.reads, lt, fun closed => ?_⟩
          have := inv.closed _ (by simpa [setBackend, closed2, bumpReads] using closed)
          omega
        · rintro b' ⟨⟩ eb member
          have := (inv.engines eb (by simpa [setBackend, factory2] using member)).2.2.1
          omega

theorem getPathBuilder_serials {R : Nat} {s : FactoryState} (inv : Serials env R s) :
    Serials env R (getPathBuilder env record s).2 := by
  unfold getPathBuilder
  split
  · exact inv
  · have first := ensureConfig_serials env record inv
    rcases h1 : ensureConfig env record s with ⟨_ | c, s1⟩ <;> rw [h1] at first <;> dsimp only
    · exact first
    · split
      · exact first
      · rename_i pb compiled
        refine { first with pathBuilder := ?_ }
        rintro pb' ⟨⟩
        rw [newPathBuilder_ok compiled]
        exact first.config (by simp [ensureConfig_ok h1])

theorem getEngineBackends_serials (labels : Labels) {R : Nat} {s : FactoryState}
    (inv : Serials env R s) : Serials env R (getEngineBackends env record labels s).2 := by
  unfold getEngineBackends
  split
  · exact inv
  · have first := ensureConfig_serials env record inv
    rcases h1 : ensureConfig env record s with ⟨_ | c, s1⟩ <;> rw [h1] at first <;>
      dsimp only at first ⊢
    · exact first
    · have loaded := first.config (by simp [ensureConfig_ok h1])
      split
      · exact first
      · rename_i base _
        have read := readRecord_snd env record s1
        rcases h2 : readRecord env record s1 with ⟨_ | spec, s2⟩ <;> rw [h2] at read <;>
          subst read <;> dsimp only
        · exact first.bumpReads
        · split
          · exact first.bumpReads
          · rcases h3 : parseSecretEngineConfig env base s1.factory.configLoad (declaredEngines spec)
              s1.bumpReads with ⟨_ | ebs, s3⟩
            all_goals
              obtain ⟨factory3, closed3, -⟩ := parseSecretEngineConfig_inv h3
              obtain ⟨reads3, constructions3, grown3, bound3⟩ := parseSecretEngineConfig_serial h3
              have base3 := first.bumpReads.of_ledger factory3 closed3 reads3.ge constructions3 grown3
            · exact base3
            · refine { base3 with engines := fun eb member => ?_, apart := ?_ }
              · obtain ⟨low, high, load, pbLoad⟩ := bound3 ebs rfl eb member
                have low : s1.ledger.constructions ≤ eb.backend.id := low
                refine ⟨load ▸ loaded, pbLoad ▸ loaded, high, fun closed => ?_⟩
                have := first.closed _ (by simpa [setEngineBackends, closed3, bumpReads] using closed)
                omega
              · intro b held eb member
                have := (first.backend b (by simpa [setEngineBackends, factory3] using held)).2.1
                have low : s1.ledger.constructions ≤ eb.backend.id := (bound3 ebs rfl eb member).1
                omega

theorem hasMultiEngineConfig_serials {R : Nat} {s : FactoryState} (inv : Serials env R s) :
    Serials env R (hasMultiEngineConfig env record s).2 := by
  have read := readRecord_snd env record s
  unfold hasMultiEngineConfig
  rcases h : readRecord env record s with ⟨_ | _, s1⟩ <;> rw [h] at read <;> subst read <;>
    exact inv.bumpReads

theorem closeBackend_serials {R : Nat} {s : FactoryState} (inv : Serials env R s) :
    Serials env R (closeBackend s).2 := by
  rw [closeBackend_eq]
  refine { inv with closed := ?_, backend := by simp, engines := ?_, apart := by simp }
  · intro id member
    rcases List.mem_append.mp member with held | old
    · obtain ⟨b, cached, rfl⟩ : ∃ b, s.factory.backend = some b ∧ b.id = id := by simpa using held
      exact (inv.backend b cached).2.1
    · exact inv.closed id old
  · intro eb member
    obtain ⟨load, pbLoad, lt, unclosed⟩ := inv.engines eb member
    refine ⟨load, pbLoad, lt, fun closed => ?_⟩
    rcases List.mem_append.mp closed with held | old
    · obtain ⟨b, held, same⟩ : ∃ b, s.factory.backend = some b ∧ b.id = eb.backend.id := by
        simpa using held
      exact inv.apart b held eb member same
    · exact unclosed old

/-- After an invalidation the cache is empty, so every load it will hold comes from a read
made after it. -/
theorem invalidateCache_serials {R : Nat} {s : FactoryState} (inv : Serials env R s) :
    Serials env s.ledger.reads (invalidateCache s).2 := by
  rw [invalidateCache_eq]
  refine ⟨inv.built, le_rfl, fun id member => ?_, by simp, by simp, by simp, by simp, by simp⟩
  simp only [List.mem_append, List.mem_reverse, List.mem_map, Option.mem_toList,
    Option.mem_def, Option.map_eq_some'] at member
  rcases member with (⟨eb, member, rfl⟩ | ⟨b, held, rfl⟩) | old
  · exact (inv.engines eb member).2.2.1
  · exact (inv.backend b held).2.1
  · exact inv.closed id old

/-! ## What the getters return -/

variable {env record}

theorem getBackend_ok_cached {s : FactoryState} {b : Store}
    (ok : (getBackend env record s).1 = .ok b) : (getBackend env record s).2.factory.backend = some b := by
  unfold getBackend at ok ⊢
  split at ok
  · rename_i held; cases ok; exact held
  · rcases h1 : loadConfig env record s with ⟨_ | config, s1⟩ <;> simp only [h1] at ok ⊢
    · cases ok
    · rcases h2 : createBackend env config s.ledger.reads s1 with ⟨_ | b2, s2⟩ <;>
        simp only [h2] at ok ⊢
      · cases ok
      · cases ok; rfl

theorem getPathBuilder_ok_cached {s : FactoryState} {pb : PathBuilder}
    (ok : (getPathBuilder env record s).1 = .ok pb) :
    (getPathBuilder env record s).2.factory.pathBuilder = some pb := by
  unfold getPathBuilder at ok ⊢
  split at ok
  · rename_i held; cases ok; exact held
  · rcases h1 : ensureConfig env record s with ⟨_ | c, s1⟩ <;> simp only [h1] at ok ⊢
    · cases ok
    · rcases compiled : newPathBuilder env.templates c.pathTemplate s1.factory.configLoad with
        _ | pb' <;> simp only [compiled] at ok ⊢
      · cases ok
      · cases ok; rfl

theorem getEngineBackends_ok_cached {labels : Labels} {s : FactoryState} {ebs : List EngineBackend}
    (ok : (getEngineBackends env record labels s).1 = .ok ebs) :
    ∀ eb ∈ ebs, eb ∈ (getEngineBackends env record labels s).2.factory.engineBackends := by
  unfold getEngineBackends at ok ⊢
  split at ok <;> rename_i hit
  · rw [if_pos hit]; cases ok; exact fun eb member => (List.mem_filter.mp member).1
  rw [if_neg hit]
  rcases h1 : ensureConfig env record s with ⟨_ | c, s1⟩ <;> simp only [h1] at ok ⊢
  · cases ok
  rcases hv : c.vaultConfig with _ | base <;> simp only [hv] at ok ⊢
  · cases ok; simp
  rcases h2 : readRecord env record s1 with ⟨_ | spec, s2⟩ <;> simp only [h2] at ok ⊢
  · cases ok; simp
  by_cases declared : (declaredEngines spec).isEmpty
  · rw [if_pos declared] at ok ⊢; cases ok; simp
  rw [if_neg declared] at ok ⊢
  rcases h3 : parseSecretEngineConfig env base s1.factory.configLoad (declaredEngines spec) s2 with
    ⟨_ | all, s3⟩ <;> simp only [h3] at ok ⊢
  · cases ok
  cases ok
  exact fun eb member => (List.mem_filter.mp member).1

theorem getConfigField_ok_cached {field : Config → String} {s : FactoryState} {v : String}
    (ok : (getConfigField env record field s).1 = .ok v) :
    ∃ c, (getConfigField env record field s).2.factory.config = some c ∧ field c = v := by
  unfold getConfigField at ok ⊢
  rcases h : ensureConfig env record s with ⟨_ | c, s1⟩ <;> simp only [h] at ok ⊢
  · cases ok
  · cases ok; exact ⟨c, ensureConfig_ok h, rfl⟩

end FactoryState

/-- A vault configuration record at `https://vault` with the given template and engines. -/
def vaultRecord (template : String) (engines : List SecretEngineConfig) : SecretBackendConfigSpec :=
  { backend := "vault"
    vaultConfig := some { address := "https://vault", authMethod := "", kubernetesAuth := none,
                          mountPath := "", tlsConfig := none, secretEngines := engines }
    pathTemplate := template, regionLabelKey := "", syncLabel := "" }

/-- A factory operation, or an external change of the registry record. -/
inductive FactoryEvent
  | getBackend
  | getPathBuilder
  | getRegionLabelKey
  | getSyncLabel
  | getEngineBackends (labels : Labels)
  | hasMultiEngineConfig
  | invalidateCache
  | close
  | setRecord (record : Option SecretBackendConfigSpec)

/-- The factory together with the registry record it reads. -/
structure FactoryWorld where
  state : FactoryState
  record : Option SecretBackendConfigSpec

/-- A fresh factory (`NewBackendFactory`) over a given registry record. -/
def FactoryWorld.initial (record : Option SecretBackendConfigSpec) : FactoryWorld :=
  ⟨⟨.empty, .empty⟩, record⟩

def FactoryEvent.step (env : Env) : FactoryEvent → FactoryWorld → FactoryWorld
  | .getBackend, w => { w with state := (w.state.getBackend env w.record).2 }
  | .getPathBuilder, w => { w with state := (w.state.getPathBuilder env w.record).2 }
  | .getRegionLabelKey, w => { w with state := (w.state.getRegionLabelKey env w.record).2 }
  | .getSyncLabel, w => { w with state := (w.state.getSyncLabel env w.record).2 }
  | .getEngineBackends labels, w =>
    { w with state := (w.state.getEngineBackends env w.record labels).2 }
  | .hasMultiEngineConfig, w => { w with state := (w.state.hasMultiEngineConfig env w.record).2 }
  | .invalidateCache, w => { w with state := w.state.invalidateCache.2 }
  | .close, w => { w with state := w.state.close.2 }
  | .setRecord record, w => { w with record := record }

def runFactory (env : Env) : List FactoryEvent → FactoryWorld → FactoryWorld
  | [], w => w
  | event :: rest, w => runFactory env rest (event.step env w)

theorem FactoryEvent.step_keeps (env : Env) (event : FactoryEvent) (w : FactoryWorld) :
    Keeps w.state (event.step env w).state := by
  cases event
  case getBackend => exact FactoryState.getBackend_keeps _ _ _
  case getPathBuilder => exact FactoryState.getPathBuilder_keeps _ _ _
  case getRegionLabelKey => exact FactoryState.getConfigField_keeps _ _ Config.regionLabelKey _
  case getSyncLabel => exact FactoryState.getConfigField_keeps _ _ Config.syncLabel _
  case getEngineBackends labels => exact FactoryState.getEngineBackends_keeps _ _ labels _
  case hasMultiEngineConfig => exact FactoryState.hasMultiEngineConfig_keeps _ _ _
  case invalidateCache => exact FactoryState.invalidateCache_keeps _
  case close => exact FactoryState.closeBackend_keeps _
  case setRecord => exact Keeps.refl _

theorem runFactory_keeps (env : Env) :
    ∀ (events : List FactoryEvent) (w : FactoryWorld), Keeps w.state (runFactory env events w).state
  | [], _ => Keeps.refl _
  | event :: rest, w => (event.step_keeps env w).trans (runFactory_keeps env rest _)

theorem accounted_of_reachable (env : Env) (events : List FactoryEvent)
    (record : Option SecretBackendConfigSpec) :
    Accounted (runFactory env events (.initial record)).state :=
  (runFactory_keeps env events _).accounted (by simp [Accounted, FactoryWorld.initial, Ledger.empty])

theorem FactoryEvent.step_serials (env : Env) (event : FactoryEvent) (w : FactoryWorld) {R : Nat}
    (inv : Serials env R w.state) : Serials env R (event.step env w).state := by
  cases event
  case getBackend => exact FactoryState.getBackend_serials _ _ inv
  case getPathBuilder => exact FactoryState.getPathBuilder_serials _ _ inv
  case getRegionLabelKey => exact FactoryState.ensureConfig_serials _ _ inv
  case getSyncLabel => exact FactoryState.ensureConfig_serials _ _ inv
  case getEngineBackends labels => exact FactoryState.getEngineBackends_serials _ _ labels inv
  case hasMultiEngineConfig => exact FactoryState.hasMultiEngineConfig_serials _ _ inv
  case invalidateCache => exact (FactoryState.invalidateCache_serials env inv).mono inv.reads
  case close => exact FactoryState.closeBackend_serials env inv
  case setRecord => exact inv

theorem runFactory_serials (env : Env) {R : Nat} :
    ∀ (events : List FactoryEvent) (w : FactoryWorld), Serials env R w.state →
      Serials env R (runFactory env events w).state
  | [], _, inv => inv
  | event :: rest, w, inv => runFactory_serials env rest _ (event.step_serials env w inv)

/-- `Close` returns nil, having closed the default store it held and emptied the slot. -/
theorem close_ok (s : FactoryState) :
    s.close.1 = .ok () ∧ s.close.2.factory.backend = none ∧
      ∀ b, s.factory.backend = some b → b.id ∈ s.close.2.ledger.closed := by
  rw [FactoryState.close, FactoryState.closeBackend_eq]
  exact ⟨rfl, rfl, fun b held => by simp [held]⟩

/-- A `GetBackend` on an empty default slot that succeeds has constructed the store it
returns. -/
theorem getBackend_constructs (env : Env) (record : Option SecretBackendConfigSpec)
    (s : FactoryState) (empty : s.factory.backend = none) (st : Store)
    (success : (s.getBackend env record).1 = .ok st) :
    (s.getBackend env record).2.ledger.stores = s.ledger.stores ++ [st] := by
  unfold FactoryState.getBackend at *
  rw [empty] at success ⊢
  dsimp only at success ⊢
  have load := FactoryState.loadConfig_snd env record s
  rcases h1 : FactoryState.loadConfig env record s with ⟨_ | config, s1⟩ <;>
    simp only [h1] at load success ⊢ <;> subst load
  · cases success
  · rcases h2 : FactoryState.createBackend env config s.ledger.reads s.bumpReads with ⟨_ | b, s2⟩ <;>
      simp only [h2] at success ⊢
    · cases success
    · obtain ⟨-, -, -, stores2⟩ := FactoryState.createBackend_inv h2
      cases success
      simpa [FactoryState.setBackend, FactoryState.bumpReads, Except.toOption] using stores2

/-- Every store the factory constructed is closed, cached, or discarded by a failed engine
batch, in every reachable state; `Close` returning nil has closed and uncached the
default store; and `Close` is not terminal: a later successful `GetBackend` constructs a
new store. -/
theorem factory_stores_accounted (env : Env) (events : List FactoryEvent)
    (record : Option SecretBackendConfigSpec) :
    Accounted (runFactory env events (.initial record)).state ∧
      ∀ s : FactoryState, s.close.1 = .ok () →
        s.close.2.factory.backend = none ∧
        (∀ b, s.factory.backend = some b → b.id ∈ s.close.2.ledger.closed) ∧
        ∀ (later : Option SecretBackendConfigSpec) (st : Store),
          (s.close.2.getBackend env later).1 = .ok st →
          (s.close.2.getBackend env later).2.ledger.stores = s.close.2.ledger.stores ++ [st] :=
  ⟨accounted_of_reachable env events record, fun s _ =>
    ⟨(close_ok s).2.1, (close_ok s).2.2, fun later st =>
      getBackend_constructs env later _ (close_ok s).2.1 st⟩⟩

/-- A default store built, then `Close`, then `GetBackend` again. -/
def closeThenGetBackend : FactoryWorld :=
  runFactory Env.reliable [.getBackend, .close, .getBackend] (.initial (some (vaultRecord "" [])))

/-- `Close` is not terminal: the run's `Close` returns nil, and the `GetBackend` after it
constructs a second store. -/
theorem getBackend_after_close_constructs :
    (runFactory Env.reliable [.getBackend] (.initial (some (vaultRecord "" [])))).state.close.1 =
        .ok () ∧
      closeThenGetBackend.state.ledger.stores.length = 2 := by
  decide

/-- Every getter called in the world serves only what a configuration load at read serial
`R` or later built, and no closed store. -/
structure ServesFresh (env : Env) (R : Nat) (w : FactoryWorld) : Prop where
  backend : ∀ b, (w.state.getBackend env w.record).1 = .ok b →
    R ≤ b.load ∧ b.id ∉ w.state.ledger.closed
  pathBuilder : ∀ pb, (w.state.getPathBuilder env w.record).1 = .ok pb → R ≤ pb.load
  engines : ∀ labels ebs, (w.state.getEngineBackends env w.record labels).1 = .ok ebs →
    ∀ eb ∈ ebs, R ≤ eb.backend.load ∧ R ≤ eb.pathBuilder.load ∧
      eb.backend.id ∉ w.state.ledger.closed
  configField : ∀ field v, (w.state.getConfigField env w.record field).1 = .ok v →
    ∃ c, (w.state.getConfigField env w.record field).2.factory.config = some c ∧ field c = v ∧
      R ≤ (w.state.getConfigField env w.record field).2.factory.configLoad

/-- A getter returns what it caches, and caching keeps the bookkeeping; getters close
nothing. -/
theorem Serials.servesFresh {env : Env} {R : Nat} {w : FactoryWorld} (inv : Serials env R w.state) :
    ServesFresh env R w where
  backend b ok :=
    have ⟨load, _, unclosed⟩ := (FactoryState.getBackend_serials env w.record inv).backend b
      (FactoryState.getBackend_ok_cached ok)
    ⟨load, fun closed => unclosed ((FactoryState.getBackend_keeps env w.record w.state).closed closed)⟩
  pathBuilder pb ok := (FactoryState.getPathBuilder_serials env w.record inv).pathBuilder pb
    (FactoryState.getPathBuilder_ok_cached ok)
  engines labels ebs ok eb member :=
    have ⟨load, pbLoad, _, unclosed⟩ := (FactoryState.getEngineBackends_serials env w.record labels
      inv).engines eb (FactoryState.getEngineBackends_ok_cached ok eb member)
    ⟨load, pbLoad, fun closed =>
      unclosed ((FactoryState.getEngineBackends_keeps env w.record labels w.state).closed closed)⟩
  configField field v ok :=
    have ⟨c, cached, read⟩ := FactoryState.getConfigField_ok_cached ok
    ⟨c, cached, read, (FactoryState.ensureConfig_serials env w.record inv).config (by
      simp only [FactoryState.getConfigField] at cached; simp [cached])⟩

/-- From every reachable state, `InvalidateCache` returns nil, having closed every cached
store and cleared the default store, the path builder, the config and the engine
bindings; over any run after it, every getter serves only what a configuration load made
after the invalidation built, and never a closed store. -/
theorem invalidateCache_rebuilds_from_fresh_load (env : Env) (events₀ : List FactoryEvent)
    (record₀ : Option SecretBackendConfigSpec) :
    let s := (runFactory env events₀ (.initial record₀)).state
    s.invalidateCache.1 = .ok () ∧
      (∀ st, Referenced s.factory st → st.id ∈ s.invalidateCache.2.ledger.closed) ∧
      s.invalidateCache.2.factory.backend = none ∧ s.invalidateCache.2.factory.pathBuilder = none ∧
      s.invalidateCache.2.factory.config = none ∧ s.invalidateCache.2.factory.engineBackends = [] ∧
      ∀ (events : List FactoryEvent) (record : Option SecretBackendConfigSpec),
        ServesFresh env s.ledger.reads (runFactory env events ⟨s.invalidateCache.2, record⟩) := by
  intro s
  have cleared := FactoryState.invalidateCache_serials env
    (runFactory_serials env events₀ (.initial record₀) Serials.initial)
  refine ⟨by rw [FactoryState.invalidateCache_eq], fun st cached => ?_,
    by rw [FactoryState.invalidateCache_eq], by rw [FactoryState.invalidateCache_eq],
    by rw [FactoryState.invalidateCache_eq], by rw [FactoryState.invalidateCache_eq],
    fun events record => ?_⟩
  · rcases (FactoryState.invalidateCache_keeps s).cached st cached with ⟨held | ⟨_, belongs, _⟩⟩ | closed
    · simp [FactoryState.invalidateCache_eq] at held
    · simp [FactoryState.invalidateCache_eq] at belongs
    · exact closed
  · exact (runFactory_serials env events ⟨s.invalidateCache.2, record⟩ cleared).servesFresh

/-! ## Runs that break the snapshot -/

/-- Every cached component comes from the load the cached configuration came from. -/
def FromOneLoad (f : BackendFactory) : Prop :=
  (∀ b ∈ f.backend, b.load = f.configLoad) ∧ (∀ pb ∈ f.pathBuilder, pb.load = f.configLoad) ∧
    ∀ eb ∈ f.engineBackends, eb.backend.load = f.configLoad ∧ eb.pathBuilder.load = f.configLoad

/-- `GetPathBuilder`, a change of the record's template, then `GetBackend`. -/
def templateChangeRun : FactoryWorld :=
  runFactory Env.reliable
    [.getPathBuilder, .setRecord (some (vaultRecord "new/\x7b\x7b.Hostname\x7d\x7d" [])), .getBackend]
    (.initial (some (vaultRecord "old/\x7b\x7b.Hostname\x7d\x7d" [])))

/-- `GetPathBuilder` caches a template from one load; after the record changes, a
`GetBackend` loads again and overwrites the cached config under it. The reachable
snapshot mixes the two loads: the cached template is the old record's, the cached
config the new one's. -/
theorem getBackend_reloads_under_cached_template :
    templateChangeRun.state.factory.pathBuilder.map (·.template) =
        some "old/\x7b\x7b.Hostname\x7d\x7d" ∧
      templateChangeRun.state.factory.config.map (·.pathTemplate) =
        some "new/\x7b\x7b.Hostname\x7d\x7d" ∧
      ¬ FromOneLoad templateChangeRun.state.factory := by
  refine ⟨by decide, by decide, fun consistent => ?_⟩
  have mixed := consistent.2.1 ⟨"old/\x7b\x7b.Hostname\x7d\x7d", 0⟩ (by decide)
  exact absurd mixed (by decide)

end BmcSecretOperator
