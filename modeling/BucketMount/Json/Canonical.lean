import BucketMount.Dictionary
import BucketMount.Json.Basic

/-!
# Canonical trees

A tree is canonical when the members of every object stand in strictly ascending
order of their names. Every tree without faults has one canonical form: members
are sorted, and the last of several members with one name wins. A tree with
faults has none; the first fault in the order of the text is reported.
-/

namespace BucketMount.Json

mutual

/-- The canonical form of a tree. -/
def canonical : Json → Except Refusal Json
  | .array items tail => do
    let sorted ← canonicalItems items
    close tail
    pure (.array sorted none)
  | .object members tail => do
    let sorted ← canonicalMembers members
    close tail
    pure (.object (Dictionary.ofList sorted).entries none)
  | .fault cause => .error (.malformed cause.wanted)
  | scalar => .ok scalar

/-- The canonical forms of the items of a list. -/
def canonicalItems : List Json → Except Refusal (List Json)
  | [] => .ok []
  | item :: rest => do
    let first ← canonical item
    let others ← canonicalItems rest
    pure (first :: others)

/-- The canonical forms of the values of members, still in their order. -/
def canonicalMembers : List (String × Json) → Except Refusal (List (String × Json))
  | [] => .ok []
  | (key, value) :: rest => do
    let first ← canonical value
    let others ← canonicalMembers rest
    pure ((key, first) :: others)

end

mutual

/-- True if the members of every object ascend strictly and nothing is at fault. -/
def isCanonical : Json → Bool
  | .array items tail => tail.isNone && areCanonical items
  | .object members tail =>
    tail.isNone && haveCanonical members && (members.map Prod.fst).Pairwise (· < ·)
  | .fault _ => false
  | _ => true

/-- True if every item is canonical. -/
def areCanonical : List Json → Bool
  | [] => true
  | item :: rest => isCanonical item && areCanonical rest

/-- True if every member has a canonical value. -/
def haveCanonical : List (String × Json) → Bool
  | [] => true
  | (_, value) :: rest => isCanonical value && haveCanonical rest

end

end BucketMount.Json
