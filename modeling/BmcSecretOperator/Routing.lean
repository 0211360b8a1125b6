import BmcSecretOperator.Config

/-!
# Label routing: engine predicates, the global gate and the watch filter

Source: secretbackend/multi_engine.go:27-52,107-116 (`EngineBackend`, `MatchesLabels`,
`parseSyncLabel`), factory.go:517-526 (`filterEnginesByLabels`),
bmcsecret_controller.go:102-116 (the global sync-label gate of `Reconcile`) and :655-665
(the watch-level event filter of `SetupWithManager`).

`MatchesLabels` first returns false on a nil map; a nil map answers every lookup as
absent, so both branches below already return false on it.

Two readings of a label predicate meet here. `labelSpecHolds` is the grammar of the
configuration's documentation (`key`, or `key=value`, a spec ending in `=` asking for the
key only); `matchesLabels_iff` shows the engine binding built by `parseSecretEngineConfig`
decides exactly it. The global gate and the watch filter differ on one kind of label set:
the key present with the empty value, which the filter admits and the gate refuses
(`labelPredicate_eq_syncLabelGate` is the agreement everywhere else).
-/

set_option autoImplicit false

namespace BmcSecretOperator

/-- Split at the first occurrence of `c`, as `strings.SplitN(s, c, 2)` does. -/
def splitFirst (c : Char) : List Char → Option (List Char × List Char)
  | [] => none
  | x :: xs => if x = c then some ([], xs) else (splitFirst c xs).map fun p => (x :: p.1, p.2)

/-- `parseSyncLabel`: `(key, value)`, the value empty when there is no `=`. -/
def parseSyncLabel (syncLabel : String) : String × String :=
  match splitFirst '=' syncLabel.toList with
  | some (key, value) => (String.mk key, String.mk value)
  | none => (syncLabel, "")

/-- `EngineBackend`: one secret engine's store, template and parsed predicate. -/
structure EngineBackend where
  backend : Store
  engineName : String
  pathBuilder : PathBuilder
  syncLabel : String
  syncLabelKey : String
  syncLabelVal : String
  deriving DecidableEq, Repr

/-- `(*EngineBackend).MatchesLabels`. -/
def EngineBackend.matchesLabels (e : EngineBackend) (labels : Labels) : Bool :=
  if e.syncLabelVal = "" then (labels.find? e.syncLabelKey).isSome
  else labels.find? e.syncLabelKey = some e.syncLabelVal

/-- `filterEnginesByLabels`: the matching engines, in configuration order. -/
def filterEnginesByLabels (engines : List EngineBackend) (labels : Labels) :
    List EngineBackend :=
  engines.filter (·.matchesLabels labels)

/-- The global sync-label gate of `Reconcile`: with a label configured, a record whose
value for it is `""` (absent, or present and empty) is skipped. -/
def syncLabelGate (syncLabel : String) (labels : Labels) : Bool :=
  syncLabel = "" || labels.get syncLabel ≠ ""

/-- The watch-level event filter: with a label configured, the key must be present. -/
def labelPredicate (syncLabel : String) (labels : Labels) : Bool :=
  syncLabel = "" || (labels.find? syncLabel).isSome

/-- The documented label-predicate grammar: `key` (or `key=`) asks for the key with any
value, `key=value` with a non-empty value for exactly that value. -/
def labelSpecHolds (labels : Labels) (spec : String) : Bool :=
  match splitFirst '=' spec.toList with
  | none => (labels.find? spec).isSome
  | some (key, value) =>
    if value = [] then (labels.find? (String.mk key)).isSome
    else labels.find? (String.mk key) = some (String.mk value)

/-- The binding `parseSecretEngineConfig` builds for one engine's label spec. -/
def EngineBackend.ofSpec (backend : Store) (engineName : String) (pathBuilder : PathBuilder)
    (syncLabel : String) : EngineBackend :=
  { backend, engineName, pathBuilder, syncLabel,
    syncLabelKey := (parseSyncLabel syncLabel).1, syncLabelVal := (parseSyncLabel syncLabel).2 }

theorem string_mk_eq_empty (cs : List Char) : String.mk cs = "" ↔ cs = [] := by
  constructor
  · intro h; simpa using congrArg String.data h
  · rintro rfl; rfl

/-- The engine binding decides the documented grammar. -/
theorem matchesLabels_iff (backend : Store) (engineName : String) (pathBuilder : PathBuilder)
    (syncLabel : String) (labels : Labels) :
    (EngineBackend.ofSpec backend engineName pathBuilder syncLabel).matchesLabels labels =
      labelSpecHolds labels syncLabel := by
  unfold EngineBackend.ofSpec EngineBackend.matchesLabels labelSpecHolds parseSyncLabel
  cases splitFirst '=' syncLabel.toList with
  | none => simp
  | some parts =>
    obtain ⟨key, value⟩ := parts
    by_cases empty : value = []
    · simp [empty]
    · have : String.mk value ≠ "" := fun h => empty ((string_mk_eq_empty value).mp h)
      simp [empty, this]

/-- Filtering keeps configuration order and exactly the engines whose predicate holds. -/
theorem mem_filterEnginesByLabels (engines : List EngineBackend) (labels : Labels)
    (e : EngineBackend) :
    e ∈ filterEnginesByLabels engines labels ↔ e ∈ engines ∧ e.matchesLabels labels := by
  simp [filterEnginesByLabels]

/-- The gate and the watch filter agree on every label set except one carrying the
configured key with the empty value. -/
theorem labelPredicate_eq_syncLabelGate (syncLabel : String) (labels : Labels)
    (nonEmpty : labels.find? syncLabel ≠ some "") :
    labelPredicate syncLabel labels = syncLabelGate syncLabel labels := by
  unfold labelPredicate syncLabelGate Labels.get
  cases found : labels.find? syncLabel with
  | none => simp
  | some value =>
    have : value ≠ "" := fun h => nonEmpty (h ▸ found)
    simp [this]

end BmcSecretOperator
