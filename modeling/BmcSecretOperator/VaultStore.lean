import BmcSecretOperator.Backend
import BmcSecretOperator.Metrics

/-!
# The Vault store behind the `Backend` interface

Source: vault/vault.go:44-50 (`VaultBackend`), :106-184 (`WriteSecret`, `ReadSecret`,
`DeleteSecret`, `SecretExists`) and :193-199 (`buildPath`).

The server is a versioned key-value store: each mount holds, for each logical path, the
versions written there, oldest first, `none` for a deleted version; a KV v1 path holds at
most its one current version. Every request may fail with any error text, answered by
serial number as for `Remote`. The client calls are those of the vault/api library the
source imports: `KVv2(mount).Get`, `Put` and `DeleteMetadata` for KV v2, `Logical()`
reads, writes and deletes for KV v1. Of the library's texts only one is modelled, the
`ErrSecretNotFound` ("secret not found") that `Get` returns for a path with no version; a
failed request's text is passed through as it is, since the source's own message around it
already names the full path.

`SecretExists` tells absence from failure by searching the error text of `ReadSecret` for
"secret not found", and that text holds the full path. A write sets the path's current
data and a delete clears it (`readSecret_after_writeSecret`,
`secretExists_after_deleteSecret`); each operation refines the map store `Remote` the sync
loop runs against, `SecretExists` only while its request is answered (`writeSecret_refines`
and its siblings). A failed read is reported as absence exactly when its message contains
the phrase (`secretExists_failed`). The phrase cannot straddle the message's separators, so
that is exactly when the mount, the path or the request's error contains it
(`secretExists_failed_iff`): at a path containing the phrase every failure reads as absence
(`secretExists_failure_at_path_mentioning_phrase`, `secretExists_misreads_failure`).
-/

set_option autoImplicit false

namespace BmcSecretOperator

/-- `strings.Contains`: `substr` occurs in `s`, byte for byte. -/
def stringsContains (s substr : String) : Bool := decide (goBytes substr <:+: goBytes s)

theorem goBytes_append (a b : String) : goBytes (a ++ b) = goBytes a ++ goBytes b := by
  simp [goBytes, String.toUTF8, List.flatMap_append]

/-- A text contains what its left part contains. -/
theorem stringsContains_append_left {a b word : String} (inLeft : stringsContains a word) :
    stringsContains (a ++ b) word := by
  simp only [stringsContains, decide_eq_true_eq, goBytes_append] at inLeft ⊢
  exact inLeft.trans (List.prefix_append _ _).isInfix

/-- A text contains what its right part contains. -/
theorem stringsContains_append_right {a b word : String} (inRight : stringsContains b word) :
    stringsContains (a ++ b) word := by
  simp only [stringsContains, decide_eq_true_eq, goBytes_append] at inRight ⊢
  exact inRight.trans (List.suffix_append _ _).isInfix

/-- The text `SecretExists` reads as absence. -/
def secretNotFound : String := "secret not found"

/-! ### Where an occurrence can lie

A word without the byte `c` occurs in `a ++ c :: b` only inside `a` or inside `b`; a word
whose first byte is not `c` occurs in `c :: b` only inside `b`. -/

section Occurrence

variable {α : Type} {w a b : List α} {c : α}

theorem prefix_of_prefix_append_cons (foreign : c ∉ w) (h : w <+: a ++ c :: b) : w <+: a := by
  induction a generalizing w with
  | nil =>
    rcases List.prefix_cons_iff.mp h with rfl | ⟨t, rfl, -⟩
    · exact List.nil_prefix
    · exact absurd (List.mem_cons_self c t) foreign
  | cons d a ih =>
    rcases List.prefix_cons_iff.mp h with rfl | ⟨t, rfl, rest⟩
    · exact List.nil_prefix
    · exact List.cons_prefix_cons.mpr ⟨rfl, ih (fun m => foreign (List.mem_cons_of_mem d m)) rest⟩

theorem infix_of_infix_append_cons (foreign : c ∉ w) (h : w <:+: a ++ c :: b) :
    w <:+: a ∨ w <:+: b := by
  induction a with
  | nil =>
    rcases List.infix_cons_iff.mp h with start | later
    · exact .inl (prefix_of_prefix_append_cons foreign (show w <+: [] ++ c :: b from start)).isInfix
    · exact .inr later
  | cons d a ih =>
    rcases List.infix_cons_iff.mp h with start | later
    · exact .inl (prefix_of_prefix_append_cons foreign start).isInfix
    · exact (ih later).imp_left List.infix_cons

theorem infix_of_infix_cons {d : α} (first : w.head? = some d) (differs : d ≠ c)
    (h : w <:+: c :: b) : w <:+: b := by
  rcases List.infix_cons_iff.mp h with start | later
  · rcases List.prefix_cons_iff.mp start with rfl | ⟨t, rfl, -⟩
    · cases first
    · exact absurd (Option.some.inj first).symm differs
  · exact later

end Occurrence

/-- The server's KV engine at every mount, and the number of requests answered so far. -/
structure KVServer where
  versions : String → String → List (Option SecretData)
  calls : Nat

namespace KVServer

def tick (srv : KVServer) : KVServer := { srv with calls := srv.calls + 1 }

/-- What a path holds now: its latest version, unless that version is deleted. -/
def current (srv : KVServer) (mount path : String) : Option SecretData :=
  (srv.versions mount path).getLast?.join

/-- Replace the versions of one path. -/
def setVersions (srv : KVServer) (mount path : String) (vs : List (Option SecretData)) :
    KVServer :=
  { srv with
    versions := Function.update srv.versions mount (Function.update (srv.versions mount) path vs) }

@[simp] theorem tick_calls (srv : KVServer) : srv.tick.calls = srv.calls + 1 := rfl
@[simp] theorem tick_versions (srv : KVServer) : srv.tick.versions = srv.versions := rfl
@[simp] theorem current_tick (srv : KVServer) : srv.tick.current = srv.current := rfl
@[simp] theorem setVersions_calls (srv : KVServer) (mount path : String)
    (vs : List (Option SecretData)) : (srv.setVersions mount path vs).calls = srv.calls := rfl

theorem versions_setVersions (srv : KVServer) (mount path : String)
    (vs : List (Option SecretData)) (mount' path' : String) :
    (srv.setVersions mount path vs).versions mount' path' =
      if mount' = mount ∧ path' = path then vs else srv.versions mount' path' := by
  unfold setVersions
  by_cases hm : mount' = mount
  · subst hm; by_cases hp : path' = path <;> simp [hp]
  · simp [hm]

theorem current_setVersions (srv : KVServer) (mount path : String) (vs : List (Option SecretData))
    (mount' path' : String) :
    (srv.setVersions mount path vs).current mount' path' =
      if mount' = mount ∧ path' = path then vs.getLast?.join else srv.current mount' path' := by
  unfold current setVersions
  by_cases hm : mount' = mount
  · subst hm; by_cases hp : path' = path <;> simp [hp]
  · simp [Function.update_apply, hm]

end KVServer

/-! ## The client library's calls -/

section Client

variable (fault : Nat → Option String) (mountPath path : String)

/-- `client.KVv2(mountPath).Get`: the latest version's data, `none` when it is deleted; a
path with no version is `ErrSecretNotFound`. -/
def kvV2Get (srv : KVServer) : Except String (Option SecretData) × KVServer :=
  match fault srv.calls with
  | some e => (.error e, srv.tick)
  | none =>
    match (srv.versions mountPath path).getLast? with
    | none => (.error ("secret not found: at " ++ mountPath ++ "/data/" ++ path), srv.tick)
    | some latest => (.ok latest, srv.tick)

/-- `client.KVv2(mountPath).Put`: a new version. -/
def kvV2Put (data : SecretData) (srv : KVServer) : Except String Unit × KVServer :=
  match fault srv.calls with
  | some e => (.error e, srv.tick)
  | none => (.ok (), (srv.setVersions mountPath path (srv.versions mountPath path ++ [some data])).tick)

/-- `client.KVv2(mountPath).DeleteMetadata`: every version goes. -/
def kvV2DeleteMetadata (srv : KVServer) : Except String Unit × KVServer :=
  match fault srv.calls with
  | some e => (.error e, srv.tick)
  | none => (.ok (), (srv.setVersions mountPath path []).tick)

/-- `client.Logical().ReadWithContext` on a KV v1 path: `nil` when it holds nothing. -/
def logicalRead (srv : KVServer) : Except String (Option SecretData) × KVServer :=
  match fault srv.calls with
  | some e => (.error e, srv.tick)
  | none => (.ok (srv.current mountPath path), srv.tick)

/-- `client.Logical().WriteWithContext` on a KV v1 path. -/
def logicalWrite (data : SecretData) (srv : KVServer) : Except String Unit × KVServer :=
  match fault srv.calls with
  | some e => (.error e, srv.tick)
  | none => (.ok (), (srv.setVersions mountPath path [some data]).tick)

/-- `client.Logical().DeleteWithContext` on a KV v1 path. -/
def logicalDelete (srv : KVServer) : Except String Unit × KVServer :=
  match fault srv.calls with
  | some e => (.error e, srv.tick)
  | none => (.ok (), (srv.setVersions mountPath path []).tick)

end Client

/-! ## `VaultBackend` -/

/-- `VaultBackend`: the mount it addresses and the KV version `detectKVVersion` found. -/
structure VaultBackend where
  mountPath : String
  isKVv2 : Bool
  deriving DecidableEq, Repr

namespace VaultBackend

variable (v : VaultBackend) (fault : Nat → Option String)

/-- `buildPath`. -/
def buildPath (path : String) : String :=
  if v.isKVv2 then v.mountPath ++ "/data/" ++ path else v.mountPath ++ "/" ++ path

/-- `WriteSecret`. -/
def writeSecret (path : String) (data : SecretData) (srv : KVServer) :
    Except String Unit × KVServer :=
  match if v.isKVv2 then kvV2Put fault v.mountPath path data srv
      else logicalWrite fault v.mountPath path data srv with
  | (.error e, srv') =>
    (.error ("failed to write secret to vault at " ++ v.buildPath path ++ ": " ++ e), srv')
  | (.ok (), srv') => (.ok (), srv')

/-- `ReadSecret`. -/
def readSecret (path : String) (srv : KVServer) : Except String SecretData × KVServer :=
  match if v.isKVv2 then kvV2Get fault v.mountPath path srv
      else logicalRead fault v.mountPath path srv with
  | (.error e, srv') =>
    (.error ("failed to read secret from vault at " ++ v.buildPath path ++ ": " ++ e), srv')
  | (.ok none, srv') => (.error ("secret not found at " ++ v.buildPath path), srv')
  | (.ok (some data), srv') => (.ok data, srv')

/-- `DeleteSecret`. -/
def deleteSecret (path : String) (srv : KVServer) : Except String Unit × KVServer :=
  match if v.isKVv2 then kvV2DeleteMetadata fault v.mountPath path srv
      else logicalDelete fault v.mountPath path srv with
  | (.error e, srv') =>
    (.error ("failed to delete secret from vault at " ++ v.buildPath path ++ ": " ++ e), srv')
  | (.ok (), srv') => (.ok (), srv')

/-- `SecretExists`: a read; an error whose text contains "secret not found" is absence. -/
def secretExists (path : String) (srv : KVServer) : Except String Bool × KVServer :=
  match v.readSecret fault path srv with
  | (.error e, srv') =>
    if stringsContains e secretNotFound then (.ok false, srv') else (.error e, srv')
  | (.ok _, srv') => (.ok true, srv')

/-! ## What each operation does -/

/-- The message of a read whose request failed with `e`. -/
def readFailure (path e : String) : String :=
  "failed to read secret from vault at " ++ v.buildPath path ++ ": " ++ e

theorem readSecret_failed {path : String} {srv : KVServer} {e : String}
    (failed : fault srv.calls = some e) :
    v.readSecret fault path srv = (.error (v.readFailure path e), srv.tick) := by
  have request : (if v.isKVv2 then kvV2Get fault v.mountPath path srv
      else logicalRead fault v.mountPath path srv) = (.error e, srv.tick) := by
    split <;> simp [kvV2Get, logicalRead, failed]
  unfold readSecret readFailure
  rw [request]

/-- With the read request answered, `ReadSecret` returns what the path holds now, or an
error whose text contains "secret not found". -/
theorem readSecret_answered {path : String} {srv : KVServer} (answered : fault srv.calls = none) :
    ∃ e, stringsContains e secretNotFound ∧
      v.readSecret fault path srv =
        ((match srv.current v.mountPath path with
          | some data => .ok data
          | none => .error e), srv.tick) := by
  have notFoundAt : stringsContains ("secret not found at " ++ v.buildPath path) secretNotFound :=
    stringsContains_append_left (by decide)
  unfold readSecret
  cases kv : v.isKVv2
  · simp only [Bool.false_eq_true, if_false, logicalRead, answered]
    cases now : srv.current v.mountPath path
    exacts [⟨_, notFoundAt, rfl⟩, ⟨secretNotFound, by decide, rfl⟩]
  · simp only [if_true, kvV2Get, answered]
    cases latest : (srv.versions v.mountPath path).getLast? with
    | none =>
      refine ⟨v.readFailure path ("secret not found: at " ++ v.mountPath ++ "/data/" ++ path),
        ?_, by simp [KVServer.current, latest, readFailure]⟩
      exact stringsContains_append_right (stringsContains_append_left
        (stringsContains_append_left (stringsContains_append_left (by decide))))
    | some version =>
      cases version
      · exact ⟨_, notFoundAt, by simp [KVServer.current, latest]⟩
      · exact ⟨secretNotFound, by decide, by simp [KVServer.current, latest]⟩

/-- With the read request answered, `SecretExists` reports whether the path holds data. -/
theorem secretExists_answered {path : String} {srv : KVServer} (answered : fault srv.calls = none) :
    v.secretExists fault path srv = (.ok (srv.current v.mountPath path).isSome, srv.tick) := by
  obtain ⟨e, notFound, read⟩ := v.readSecret_answered fault answered
  unfold secretExists
  rw [read]
  cases srv.current v.mountPath path
  · simp [notFound]
  · rfl

/-- A failed read request is reported as absence exactly when the read's message contains
"secret not found", and as that error otherwise. -/
theorem secretExists_failed {path : String} {srv : KVServer} {e : String}
    (failed : fault srv.calls = some e) :
    v.secretExists fault path srv =
      (if stringsContains (v.readFailure path e) secretNotFound then .ok false
        else .error (v.readFailure path e), srv.tick) := by
  unfold secretExists
  rw [v.readSecret_failed fault failed]
  by_cases mentions : stringsContains (v.readFailure path e) secretNotFound <;> simp [mentions]

/-- The read's message names the path: what the path contains, the message contains. -/
theorem readFailure_contains {path e word : String} (mentions : stringsContains path word) :
    stringsContains (v.readFailure path e) word := by
  unfold readFailure buildPath
  refine stringsContains_append_left (stringsContains_append_left
    (stringsContains_append_right ?_))
  split <;> exact stringsContains_append_right mentions

/-- The bytes of `buildPath`: the mount, the KV v2 infix, a slash, the path. -/
theorem goBytes_buildPath (path : String) :
    goBytes (v.buildPath path) =
      goBytes v.mountPath ++ (goBytes (if v.isKVv2 then "/data" else "") ++ 47 :: goBytes path) := by
  have slash : goBytes "/" = [47] := rfl
  have dataSlash : goBytes "/data/" = goBytes "/data" ++ [47] := rfl
  have empty : goBytes "" = [] := rfl
  unfold buildPath
  cases v.isKVv2 <;> simp [goBytes_append, slash, dataSlash, empty]

/-- "secret not found" straddles none of the separators of the read's message: it occurs
there only inside the mount, the path or the request's error. -/
theorem readFailure_mentions {path e : String}
    (mentions : stringsContains (v.readFailure path e) secretNotFound) :
    stringsContains v.mountPath secretNotFound ∨ stringsContains path secretNotFound ∨
      stringsContains e secretNotFound := by
  have lead : goBytes "failed to read secret from vault at " =
      goBytes "failed to read secret from vault " ++ [97, 116, 32] := rfl
  have colon : goBytes ": " = [58, 32] := rfl
  have data : goBytes "/data" = 47 :: goBytes "data" := rfl
  simp only [stringsContains, decide_eq_true_eq, readFailure, goBytes_append, goBytes_buildPath,
    lead, colon, List.append_assoc, List.cons_append, List.nil_append] at mentions ⊢
  have noA : (97 : UInt8) ∉ goBytes secretNotFound := by decide
  have noSlash : (47 : UInt8) ∉ goBytes secretNotFound := by decide
  have noColon : (58 : UInt8) ∉ goBytes secretNotFound := by decide
  have first : (goBytes secretNotFound).head? = some 115 := rfl
  -- past "failed to read secret from vault ", its last "a", "t" and " "
  rcases infix_of_infix_append_cons noA mentions with inLead | afterA
  · exact absurd inLead (by decide)
  have inTail := infix_of_infix_cons first (by decide) (infix_of_infix_cons first (by decide) afterA)
  -- after the last slash: the path, then ": " and the error
  have pathOrError : goBytes secretNotFound <:+: goBytes path ++ 58 :: 32 :: goBytes e →
      goBytes secretNotFound <:+: goBytes path ∨ goBytes secretNotFound <:+: goBytes e :=
    fun h => (infix_of_infix_append_cons noColon h).imp_right (infix_of_infix_cons first (by decide))
  cases kv : v.isKVv2
  · -- KV v1: the mount, "/", the path
    rw [kv, if_neg Bool.false_ne_true, show goBytes "" = [] from rfl, List.nil_append] at inTail
    rcases infix_of_infix_append_cons noSlash inTail with inMount | afterSlash
    exacts [.inl inMount, .inr (pathOrError afterSlash)]
  · -- KV v2: the mount, "/data/", the path
    rw [kv, if_pos rfl, data, List.cons_append] at inTail
    rcases infix_of_infix_append_cons noSlash inTail with inMount | afterMount
    · exact .inl inMount
    rcases infix_of_infix_append_cons noSlash afterMount with inData | afterSlash
    exacts [absurd inData (by decide), .inr (pathOrError afterSlash)]

/-- The read's message names the mount and the request's error as well. -/
theorem readFailure_contains_mount {path e word : String}
    (mentions : stringsContains v.mountPath word) : stringsContains (v.readFailure path e) word := by
  unfold readFailure buildPath
  refine stringsContains_append_left (stringsContains_append_left
    (stringsContains_append_right ?_))
  split <;> exact stringsContains_append_left (stringsContains_append_left mentions)

theorem readFailure_mentions_iff {path e : String} :
    stringsContains (v.readFailure path e) secretNotFound ↔
      stringsContains v.mountPath secretNotFound ∨ stringsContains path secretNotFound ∨
        stringsContains e secretNotFound := by
  refine ⟨v.readFailure_mentions, ?_⟩
  rintro (inMount | inPath | inError)
  exacts [v.readFailure_contains_mount inMount, v.readFailure_contains inPath,
    stringsContains_append_right inError]

/-- A failed read request is reported as absence exactly when the mount, the path or the
request's error text contains "secret not found", and as the read's error otherwise. -/
theorem secretExists_failed_iff {path : String} {srv : KVServer} {e : String}
    (failed : fault srv.calls = some e) :
    v.secretExists fault path srv =
      (if stringsContains v.mountPath secretNotFound ∨ stringsContains path secretNotFound ∨
          stringsContains e secretNotFound then .ok false
        else .error (v.readFailure path e), srv.tick) := by
  rw [v.secretExists_failed fault failed]
  simp only [v.readFailure_mentions_iff]

/-- At a path containing "secret not found", every failed read request, whatever its
error, is reported by `SecretExists` as absence, for both KV versions and every mount. -/
theorem secretExists_failure_at_path_mentioning_phrase {path : String} {srv : KVServer}
    {e : String} (mentions : stringsContains path secretNotFound)
    (failed : fault srv.calls = some e) :
    v.secretExists fault path srv = (.ok false, srv.tick) := by
  rw [v.secretExists_failed fault failed, if_pos (v.readFailure_contains mentions)]

/-- A server whose mount `secret` holds, at the path the default template renders for
device host-1 in region eu, the credentials of a user named "secret not found". -/
def phraseNamedServer : KVServer :=
  ⟨fun mount path => if mount = "secret" ∧ path = "bmc/eu/host-1/secret not found" then
    [some (secretData "secret not found" "pw")] else [], 0⟩

/-- On mount `secret`, under either KV version: the path holds data, and its read request
fails with permission denied, an error that is not absence; `ReadSecret` fails, and yet
`SecretExists` returns `(false, nil)`. -/
theorem secretExists_misreads_failure (isKVv2 : Bool) :
    phraseNamedServer.current "secret" "bmc/eu/host-1/secret not found" =
        some (secretData "secret not found" "pw") ∧
      stringsContains "permission denied" secretNotFound = false ∧
      (readSecret ⟨"secret", isKVv2⟩ (fun _ => some "permission denied")
          "bmc/eu/host-1/secret not found" phraseNamedServer).1 =
        .error (readFailure ⟨"secret", isKVv2⟩ "bmc/eu/host-1/secret not found" "permission denied") ∧
      secretExists ⟨"secret", isKVv2⟩ (fun _ => some "permission denied")
          "bmc/eu/host-1/secret not found" phraseNamedServer = (.ok false, phraseNamedServer.tick) :=
  ⟨by decide, by decide, by rw [readSecret_failed _ _ rfl],
    secretExists_failure_at_path_mentioning_phrase _ _ (by decide) rfl⟩

/-! ## Writes and deletes -/

section Effects

variable {path : String} {srv : KVServer}

/-- Every operation takes one request serial. -/
@[simp] theorem writeSecret_calls (data : SecretData) :
    (v.writeSecret fault path data srv).2.calls = srv.calls + 1 := by
  unfold writeSecret
  cases v.isKVv2 <;> cases answer : fault srv.calls <;> simp [kvV2Put, logicalWrite, answer]

@[simp] theorem deleteSecret_calls : (v.deleteSecret fault path srv).2.calls = srv.calls + 1 := by
  unfold deleteSecret
  cases v.isKVv2 <;> cases answer : fault srv.calls <;>
    simp [kvV2DeleteMetadata, logicalDelete, answer]

/-- A read, and so `SecretExists`, leaves the server as it was. -/
@[simp] theorem readSecret_server : (v.readSecret fault path srv).2 = srv.tick := by
  cases answer : fault srv.calls with
  | none =>
    obtain ⟨e, -, read⟩ := v.readSecret_answered fault answer
    rw [read]
  | some e => rw [v.readSecret_failed fault answer]

@[simp] theorem secretExists_server : (v.secretExists fault path srv).2 = srv.tick := by
  unfold secretExists
  rcases read : v.readSecret fault path srv with ⟨_ | _, srv'⟩
  all_goals
    have server : srv' = srv.tick := by rw [← v.readSecret_server fault, read]
    simp only [server]
  split <;> rfl

theorem writeSecret_ok_iff (data : SecretData) :
    (v.writeSecret fault path data srv).1 = .ok () ↔ fault srv.calls = none := by
  unfold writeSecret
  cases v.isKVv2 <;> cases answer : fault srv.calls <;> simp [kvV2Put, logicalWrite, answer]

theorem deleteSecret_ok_iff : (v.deleteSecret fault path srv).1 = .ok () ↔ fault srv.calls = none := by
  unfold deleteSecret
  cases v.isKVv2 <;> cases answer : fault srv.calls <;>
    simp [kvV2DeleteMetadata, logicalDelete, answer]

/-- A write whose request is answered makes `data` the path's current data, under either
KV version, and leaves every other (mount, path) as it was; a failed one changes nothing. -/
theorem writeSecret_current (data : SecretData) (mount p : String) :
    (v.writeSecret fault path data srv).2.current mount p =
      if mount = v.mountPath ∧ p = path ∧ fault srv.calls = none then some data
      else srv.current mount p := by
  unfold writeSecret
  cases v.isKVv2 <;> cases answer : fault srv.calls <;>
    simp [kvV2Put, logicalWrite, answer, KVServer.current_setVersions]

/-- A delete whose request is answered leaves the path without current data. -/
theorem deleteSecret_current (mount p : String) :
    (v.deleteSecret fault path srv).2.current mount p =
      if mount = v.mountPath ∧ p = path ∧ fault srv.calls = none then none
      else srv.current mount p := by
  unfold deleteSecret
  cases v.isKVv2 <;> cases answer : fault srv.calls <;>
    simp [kvV2DeleteMetadata, logicalDelete, answer, KVServer.current_setVersions]

/-- A delete whose request is answered drops every version of the path, under either KV
version: KV v2 deletes the metadata. -/
theorem deleteSecret_versions (mount p : String) :
    (v.deleteSecret fault path srv).2.versions mount p =
      if mount = v.mountPath ∧ p = path ∧ fault srv.calls = none then []
      else srv.versions mount p := by
  unfold deleteSecret
  cases v.isKVv2 <;> cases answer : fault srv.calls <;>
    simp [kvV2DeleteMetadata, logicalDelete, answer, KVServer.versions_setVersions]

/-- `ReadSecret` after a successful `WriteSecret(p, d)`, its own request answered, returns
`d`. -/
theorem readSecret_after_writeSecret (data : SecretData)
    (written : (v.writeSecret fault path data srv).1 = .ok ())
    (answered : fault (v.writeSecret fault path data srv).2.calls = none) :
    (v.readSecret fault path (v.writeSecret fault path data srv).2).1 = .ok data := by
  obtain ⟨e, -, read⟩ := v.readSecret_answered fault answered
  rw [read, v.writeSecret_current, if_pos ⟨rfl, rfl, (v.writeSecret_ok_iff fault data).mp written⟩]

/-- `SecretExists` after a successful `DeleteSecret(p)`, its own request answered, returns
`(false, nil)`. -/
theorem secretExists_after_deleteSecret
    (deleted : (v.deleteSecret fault path srv).1 = .ok ())
    (answered : fault (v.deleteSecret fault path srv).2.calls = none) :
    (v.secretExists fault path (v.deleteSecret fault path srv).2).1 = .ok false := by
  rw [v.secretExists_answered fault answered, v.deleteSecret_current,
    if_pos ⟨rfl, rfl, (v.deleteSecret_ok_iff fault).mp deleted⟩]
  rfl

end Effects

/-! ## Refinement of the map store

With its requests answered, the Vault store is the map store `Remote` the sync loop runs
against: `Represents` relates the two, every operation keeps it, and the results agree,
error texts apart. A failed request is an error in both, except for `SecretExists`, which
reads it as absence when the read's message contains "secret not found"
(`secretExists_failed`). -/

section Refinement

variable (store : Store)

/-- `srv` seen through `v` is the map store `r` at `store`'s destination: the same request
serial, and at every path the same current data. -/
def Represents (srv : KVServer) (r : Remote) : Prop :=
  r.calls = srv.calls ∧ ∀ p, r.data store.destination p = srv.current v.mountPath p

variable {store} {srv : KVServer} {r : Remote} (path : String)

theorem writeSecret_refines (data : SecretData) (rep : v.Represents store srv r) :
    ((v.writeSecret fault path data srv).1 = .ok () ↔
        (Remote.writeSecret fault store path data r).1 = .ok ()) ∧
      v.Represents store (v.writeSecret fault path data srv).2
        (Remote.writeSecret fault store path data r).2 := by
  obtain ⟨calls, same⟩ := rep
  refine ⟨by rw [v.writeSecret_ok_iff, Remote.writeSecret_ok_iff, calls],
    by simp [calls], fun p => ?_⟩
  rw [Remote.writeSecret_data, v.writeSecret_current, same, calls]
  simp

theorem deleteSecret_refines (rep : v.Represents store srv r) :
    ((v.deleteSecret fault path srv).1 = .ok () ↔ (Remote.deleteSecret fault store path r).1 = .ok ()) ∧
      v.Represents store (v.deleteSecret fault path srv).2 (Remote.deleteSecret fault store path r).2 := by
  obtain ⟨calls, same⟩ := rep
  refine ⟨by rw [v.deleteSecret_ok_iff, Remote.deleteSecret_ok_iff, calls],
    by simp [calls], fun p => ?_⟩
  rw [Remote.deleteSecret_data, v.deleteSecret_current, same, calls]
  simp

theorem readSecret_refines (rep : v.Represents store srv r) :
    (v.readSecret fault path srv).1.toOption = (Remote.readSecret fault store path r).1.toOption ∧
      v.Represents store (v.readSecret fault path srv).2 (Remote.readSecret fault store path r).2 := by
  refine ⟨?_, ?_⟩
  · unfold Remote.readSecret
    rw [rep.1, rep.2]
    cases answer : fault srv.calls with
    | none =>
      obtain ⟨e, -, read⟩ := v.readSecret_answered fault answer
      rw [read]
      cases srv.current v.mountPath path <;> rfl
    | some e => rw [v.readSecret_failed fault answer]; rfl
  · exact ⟨by simp [rep.1], by simpa using rep.2⟩

theorem secretExists_refines (rep : v.Represents store srv r) :
    (fault srv.calls = none →
      (v.secretExists fault path srv).1 = (Remote.secretExists fault store path r).1) ∧
      v.Represents store (v.secretExists fault path srv).2 (Remote.secretExists fault store path r).2 := by
  refine ⟨fun answered => ?_, ?_⟩
  · unfold Remote.secretExists
    rw [v.secretExists_answered fault answered, rep.1, answered, rep.2]
  · exact ⟨by simp [rep.1], by simpa using rep.2⟩

end Refinement

end VaultBackend

end BmcSecretOperator
