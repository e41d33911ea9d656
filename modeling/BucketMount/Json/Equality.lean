import BucketMount.Json.Basic

/-!
# Equality of trees

Two trees are equal when they are built alike: the order of members, repeated
names and faults all count. This is equality of written documents and not of what
they mean to a decoder.
-/

namespace BucketMount.Json

mutual

/-- True for trees that are built alike. -/
def same : Json → Json → Bool
  | .null, .null => true
  | .boolean left, .boolean right => left == right
  | .number left, .number right => left == right
  | .string left, .string right => left == right
  | .array items tail, .array others otherTail => sameItems items others && tail == otherTail
  | .object members tail, .object others otherTail =>
    sameMembers members others && tail == otherTail
  | .fault left, .fault right => left == right
  | _, _ => false

/-- True for lists of trees that are built alike. -/
def sameItems : List Json → List Json → Bool
  | [], [] => true
  | item :: rest, other :: others => same item other && sameItems rest others
  | _, _ => false

/-- True for lists of members that are built alike. -/
def sameMembers : List (String × Json) → List (String × Json) → Bool
  | [], [] => true
  | (key, value) :: rest, (otherKey, other) :: others =>
    key == otherKey && same value other && sameMembers rest others
  | _, _ => false

end

mutual

/-- Being built alike is equality. The cases follow the first tree; the second one
either has the same constructor or differs at once. -/
theorem same_iff : (left right : Json) → (same left right = true ↔ left = right)
  | .null, right => by cases right <;> simp [same]
  | .boolean _, right => by cases right <;> simp [same]
  | .number _, right => by cases right <;> simp [same]
  | .string _, right => by cases right <;> simp [same]
  | .array items _, right => by cases right <;> simp [same, sameItems_iff items]
  | .object members _, right => by cases right <;> simp [same, sameMembers_iff members]
  | .fault _, right => by cases right <;> simp [same]

/-- Lists of trees are built alike exactly if they are equal. -/
theorem sameItems_iff : (left right : List Json) → (sameItems left right = true ↔ left = right)
  | [], right => by cases right <;> simp [sameItems]
  | item :: rest, right => by
    cases right <;> simp [sameItems, same_iff item, sameItems_iff rest]

/-- Lists of members are built alike exactly if they are equal. -/
theorem sameMembers_iff :
    (left right : List (String × Json)) → (sameMembers left right = true ↔ left = right)
  | [], right => by cases right <;> simp [sameMembers]
  | (_, value) :: rest, right => by
    cases right with
    | nil => simp [sameMembers]
    | cons other others =>
      simp [sameMembers, same_iff value, sameMembers_iff rest, Prod.ext_iff, and_assoc]

end

instance : DecidableEq Json := fun left right =>
  decidable_of_iff (same left right = true) (same_iff left right)

end BucketMount.Json
