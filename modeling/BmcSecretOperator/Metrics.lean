import Mathlib.Data.List.Infix

/-!
# Error classification of the metrics collector

Source: internal/metrics/metrics.go:248-297 (`classifyError`, `contains`).

A Go string is a sequence of bytes, valid UTF-8 or not: it is modelled as `List UInt8`,
`len` as the length and `s[i:j]` as the bytes from `i` to `j`. A string literal of the
source is its UTF-8 encoding (`goBytes`), as the Go compiler stores it. A nil error is
`none`, and `err.Error()` is the byte string of `some`.

The hand-written search `contains` agrees with the reference, contiguous occurrence
(`List.IsInfix`), for every string and every list of substrings, the empty substring
included; so `classifyError` is the first category, in the order the source tests them,
whose keywords occur in the error text (`contains_agrees_with_infix`).
-/

set_option autoImplicit false

namespace BmcSecretOperator

/-- The bytes of a Go string literal. -/
def goBytes (s : String) : List UInt8 := s.toUTF8.data.toList

/-- `s[i:i+len(substr)] == substr`. -/
def matchesAt (s substr : List UInt8) (i : Nat) : Bool :=
  (s.drop i).take substr.length == substr

/-- The body of `contains` for one substring: when `len(s) >= len(substr)`, the index loop
`for i := 0; i <= len(s)-len(substr); i++`, true at the first match. -/
def containsOne (s substr : List UInt8) : Bool :=
  decide (s.length ≥ substr.length) &&
    (List.range (s.length - substr.length + 1)).any (matchesAt s substr)

/-- `contains`: true at the first substring the loop finds in `s`. -/
def contains (s : List UInt8) (substrings : List (List UInt8)) : Bool :=
  substrings.any (containsOne s)

/-- `classifyError`. -/
def classifyError (err : Option (List UInt8)) : String :=
  match err with
  | none => "none"
  | some errStr =>
    if contains errStr (["connection refused", "connection reset", "dial tcp", "no such host"].map
        goBytes) then "network"
    else if contains errStr (["authentication failed", "unauthorized", "permission denied",
        "forbidden", "invalid token"].map goBytes) then "auth"
    else if contains errStr (["not found", "does not exist"].map goBytes) then "not_found"
    else if contains errStr (["timeout", "deadline exceeded", "context canceled"].map goBytes) then
      "timeout"
    else if contains errStr (["invalid configuration", "missing", "required"].map goBytes) then
      "config"
    else "unknown"

/-! ## The reference -/

/-- The categories in the order the source tests them, each with its keywords. -/
def errorCategories : List (String × List String) :=
  [("network", ["connection refused", "connection reset", "dial tcp", "no such host"]),
   ("auth", ["authentication failed", "unauthorized", "permission denied", "forbidden",
     "invalid token"]),
   ("not_found", ["not found", "does not exist"]),
   ("timeout", ["timeout", "deadline exceeded", "context canceled"]),
   ("config", ["invalid configuration", "missing", "required"])]

/-- The classification by contiguous occurrence: `"none"` for a nil error, else the first
category with a keyword occurring in the error text, else `"unknown"`. -/
def firstCategory (err : Option (List UInt8)) : String :=
  match err with
  | none => "none"
  | some errStr =>
    match errorCategories.find? (fun c => c.2.any fun k => decide (goBytes k <:+: errStr)) with
    | some c => c.1
    | none => "unknown"

/-! ## The index loop finds every occurrence -/

/-- A match at a position of the loop is an occurrence. -/
theorem infix_of_matchesAt {s substr : List UInt8} {i : Nat} (found : matchesAt s substr i = true) :
    substr <:+: s := by
  have taken : (s.drop i).take substr.length = substr := by simpa [matchesAt] using found
  refine ⟨s.take i, (s.drop i).drop substr.length, ?_⟩
  calc s.take i ++ substr ++ (s.drop i).drop substr.length
      = s.take i ++ ((s.drop i).take substr.length ++ (s.drop i).drop substr.length) := by
        rw [taken, List.append_assoc]
    _ = s := by rw [List.take_append_drop, List.take_append_drop]

/-- An occurrence at offset `pre.length` is a match there, within the loop's bound. -/
theorem matchesAt_of_infix {s substr pre post : List UInt8} (split : pre ++ substr ++ post = s) :
    s.length ≥ substr.length ∧ pre.length < s.length - substr.length + 1 ∧
      matchesAt s substr pre.length = true := by
  subst split
  refine ⟨by simp; omega, by simp; omega, ?_⟩
  simp [matchesAt, List.append_assoc, List.drop_left, List.take_left]

theorem containsOne_iff_occurs (s substr : List UInt8) :
    containsOne s substr = true ↔ substr <:+: s := by
  constructor
  · intro found
    simp only [containsOne, Bool.and_eq_true, decide_eq_true_eq, List.any_eq_true] at found
    obtain ⟨-, i, -, matched⟩ := found
    exact infix_of_matchesAt matched
  · rintro ⟨pre, post, split⟩
    obtain ⟨long, bound, matched⟩ := matchesAt_of_infix split
    simp only [containsOne, Bool.and_eq_true, decide_eq_true_eq, List.any_eq_true, List.mem_range]
    exact ⟨long, pre.length, bound, matched⟩

theorem contains_iff_occurs (s : List UInt8) (substrings : List (List UInt8)) :
    contains s substrings = true ↔ ∃ substr ∈ substrings, substr <:+: s := by
  simp only [contains, List.any_eq_true, containsOne_iff_occurs]

theorem contains_map_goBytes (s : List UInt8) (keywords : List String) :
    contains s (keywords.map goBytes) = keywords.any fun k => decide (goBytes k <:+: s) := by
  rw [Bool.eq_iff_iff, contains_iff_occurs]
  simp

/-- The hand-written search agrees with contiguous occurrence, for every byte string and
every list of substrings, the empty one included. Hence `classifyError` is `"none"` for a
nil error, and otherwise the first category, in the order network, auth, not_found,
timeout, config, with a keyword occurring in the error text, else `"unknown"`. -/
theorem contains_agrees_with_infix :
    (∀ (s : List UInt8) (substrings : List (List UInt8)),
      contains s substrings = true ↔ ∃ substr ∈ substrings, substr <:+: s) ∧
    ∀ err : Option (List UInt8), classifyError err = firstCategory err := by
  refine ⟨contains_iff_occurs, fun err => ?_⟩
  cases err with
  | none => rfl
  | some errStr =>
    simp only [classifyError, firstCategory, errorCategories, contains_map_goBytes, List.find?]
    split_ifs <;> simp_all only [Bool.not_eq_true]

example : classifyError (some (goBytes "dial tcp: no route to host")) = "network" := by decide

end BmcSecretOperator
