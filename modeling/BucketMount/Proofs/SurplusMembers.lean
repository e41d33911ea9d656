import BucketMount.Proofs.ReorderedMembers

/-!
# Members that nobody knows

A newer controller may write members that this library's records do not list. `Schema.core`
leaves them out, at every place where a schema tells of a record, and leaves everything else
as it is: the entries of dictionaries have no names of their own to be known by, and trees
of no fixed shape are not looked into.

A format overlooks surplus members if it makes no difference to it whether they are there,
not even to what it refuses a tree with. Each way of building a format keeps this, as long as
the members that are left out can be passed over.
-/

namespace BucketMount

namespace Schema

open Json (Reordered ReorderedItems)

mutual

/-- What is left of a tree when the members are left out that no record of the schema lists. -/
def core : Schema → Json → Json
  | .list item, tree => match tree with
    | .array items tail => .array (items.map (core item)) tail
    | other => other
  | .dictionary value, tree => match tree with
    | .object members tail =>
      .object (members.map fun member => (member.1, core value member.2)) tail
    | other => other
  | .record properties _, tree => match tree with
    | .object members tail =>
      .object (members.filterMap fun member =>
        (coreMember? properties member.1 member.2).map (member.1, ·)) tail
    | .array items tail => .array (coreItems properties items) tail
    | other => other
  | .described _ inner, tree | .defaulted _ inner, tree | .nullable inner, tree
  | .titled _ inner, tree => core inner tree
  | .string, tree | .boolean, tree | .choice _, tree | .unstructured, tree => tree

/-- What is left of a member's value, if the member is listed. -/
def coreMember? : List (String × Schema) → String → Json → Option Json
  | [], _, _ => none
  | (name, schema) :: rest, key, item =>
    if name = key then some (core schema item) else coreMember? rest key item

/-- What is left of the items of a record that is written as a list. -/
def coreItems : List (String × Schema) → List Json → List Json
  | [], items => items
  | (_, schema) :: rest, items => match items with
    | [] => []
    | item :: behind => core schema item :: coreItems rest behind

end

/-- Null is left of null alone. -/
theorem core_null_iff : (schema : Schema) → (tree : Json) →
    (schema.core tree = .null ↔ tree = .null)
  | .list _, tree | .dictionary _, tree | .record _ _, tree => by cases tree <;> simp [core]
  | .described _ inner, tree | .defaulted _ inner, tree | .nullable inner, tree
  | .titled _ inner, tree => by rw [core, core_null_iff inner]
  | .string, tree | .boolean, tree | .choice _, tree | .unstructured, tree => by rw [core]

/-- Leaving members out leaves the names of the others in their order. -/
theorem names_filterMap_sublist {image : String × Json → Option Json}
    (members : List (String × Json)) :
    ((members.filterMap fun member => (image member).map (member.1, ·)).map Prod.fst).Sublist
      (members.map Prod.fst) := by
  induction members with
  | nil => simp
  | cons member rest inductionHypothesis =>
    cases left : image member with
    | none => simpa [left] using inductionHypothesis.cons _
    | some item => simpa [left] using inductionHypothesis

mutual

/-- What is left of a well-formed tree is well-formed. -/
theorem core_wellFormed : (schema : Schema) → {tree : Json} → tree.WellFormed →
    (schema.core tree).WellFormed
  | .list item, tree, wellFormed => by
    cases tree with
    | array items tail =>
      obtain ⟨each, closed⟩ := Json.wellFormed_array_iff.mp wellFormed
      refine Json.wellFormed_array_iff.mpr ⟨?_, closed⟩
      exact List.forall_mem_map.mpr fun part listed => core_wellFormed item (each part listed)
    | _ => exact wellFormed
  | .dictionary value, tree, wellFormed => by
    cases tree with
    | object members tail =>
      obtain ⟨distinct, each, closed⟩ := Json.wellFormed_object_iff.mp wellFormed
      have names : ((members.map fun member => (member.1, core value member.2)).map
          Prod.fst).Nodup := by simpa [Function.comp_def] using distinct
      refine Json.wellFormed_object_iff.mpr ⟨names, ?_, closed⟩
      exact List.forall_mem_map.mpr fun member listed => core_wellFormed value (each member listed)
    | _ => exact wellFormed
  | .record properties _, tree, wellFormed => by
    cases tree with
    | array items tail =>
      obtain ⟨each, closed⟩ := Json.wellFormed_array_iff.mp wellFormed
      exact Json.wellFormed_array_iff.mpr ⟨coreItems_wellFormed properties each, closed⟩
    | object members tail =>
      obtain ⟨distinct, each, closed⟩ := Json.wellFormed_object_iff.mp wellFormed
      refine Json.wellFormed_object_iff.mpr ⟨?_, fun member listed => ?_, closed⟩
      · exact (names_filterMap_sublist members).nodup distinct
      · obtain ⟨old, oldListed, kept⟩ := List.mem_filterMap.mp listed
        obtain ⟨item, left, rfl⟩ := Option.map_eq_some_iff.mp kept
        exact coreMember?_wellFormed properties left (each old oldListed)
    | _ => exact wellFormed
  | .described _ inner, tree, wellFormed | .defaulted _ inner, tree, wellFormed
  | .nullable inner, tree, wellFormed | .titled _ inner, tree, wellFormed => by
    rw [core]
    exact core_wellFormed inner wellFormed
  | .string, tree, wellFormed | .boolean, tree, wellFormed | .choice _, tree, wellFormed
  | .unstructured, tree, wellFormed => by rwa [core]

/-- What is left of a member's value is well-formed if the value was. -/
theorem coreMember?_wellFormed : (properties : List (String × Schema)) → {key : String} →
    {item left : Json} → coreMember? properties key item = some left → item.WellFormed →
    left.WellFormed
  | [], _, _, _, found, _ => by simp [coreMember?] at found
  | (name, schema) :: rest, key, item, left, found, wellFormed => by
    rw [coreMember?] at found
    split at found
    · exact Option.some.inj found ▸ core_wellFormed schema wellFormed
    · exact coreMember?_wellFormed rest found wellFormed

/-- What is left of the items of a record is well-formed if the items were. -/
theorem coreItems_wellFormed : (properties : List (String × Schema)) → {items : List Json} →
    (∀ item ∈ items, item.WellFormed) → ∀ item ∈ coreItems properties items, item.WellFormed
  | [], _, each => by rwa [coreItems]
  | (_, schema) :: rest, [], _ => by simp [coreItems]
  | (_, schema) :: rest, item :: behind, each => by
    rw [List.forall_mem_cons] at each
    rw [coreItems, List.forall_mem_cons]
    exact ⟨core_wellFormed schema each.1, coreItems_wellFormed rest each.2⟩

end

mutual

/-- What is left of a tree is reordered as the tree is. -/
theorem core_reordered : (schema : Schema) → {tree other : Json} → tree.Reordered other →
    (schema.core tree).Reordered (schema.core other)
  | .list item, tree, other, reordered => by
    cases tree with
    | array items tail =>
      obtain ⟨others, rfl, itemwise⟩ := reordered
      refine ⟨_, rfl, Json.reorderedItems_iff.mpr ?_⟩
      rw [List.forall₂_map_left_iff, List.forall₂_map_right_iff]
      exact (Json.reorderedItems_iff.mp itemwise).imp fun _ _ => core_reordered item
    | object members tail =>
      obtain ⟨moved, others, rfl, memberwise, permuted⟩ := reordered
      exact ⟨moved, others, rfl, memberwise, permuted⟩
    | _ =>
      obtain rfl := reordered
      rfl
  | .dictionary value, tree, other, reordered => by
    cases tree with
    | array items tail =>
      obtain ⟨others, rfl, itemwise⟩ := reordered
      exact ⟨others, rfl, itemwise⟩
    | object members tail =>
      obtain ⟨moved, others, rfl, memberwise, permuted⟩ := reordered
      refine ⟨_, _, rfl, Json.reorderedMembers_iff.mpr ?_, permuted.map _⟩
      rw [List.forall₂_map_left_iff, List.forall₂_map_right_iff]
      exact (Json.reorderedMembers_iff.mp memberwise).imp fun _ _ same =>
        ⟨same.1, core_reordered value same.2⟩
    | _ =>
      obtain rfl := reordered
      rfl
  | .record properties _, tree, other, reordered => by
    cases tree with
    | array items tail =>
      obtain ⟨others, rfl, itemwise⟩ := reordered
      exact ⟨_, rfl, coreItems_reordered properties itemwise⟩
    | object members tail =>
      obtain ⟨moved, others, rfl, memberwise, permuted⟩ := reordered
      exact ⟨_, _, rfl, memberwise.filterMap fun key _ _ => coreMember?_reordered properties key,
        permuted.filterMap _⟩
    | _ =>
      obtain rfl := reordered
      rfl
  | .described _ inner, tree, other, reordered | .defaulted _ inner, tree, other, reordered
  | .nullable inner, tree, other, reordered | .titled _ inner, tree, other, reordered => by
    rw [core, core]
    exact core_reordered inner reordered
  | .string, tree, other, reordered | .boolean, tree, other, reordered
  | .choice _, tree, other, reordered | .unstructured, tree, other, reordered => by
    rwa [core, core]

/-- What is left of a member's value is reordered as the value is. -/
theorem coreMember?_reordered : (properties : List (String × Schema)) → (key : String) →
    {item other : Json} → item.Reordered other →
    Option.Rel Reordered (coreMember? properties key item) (coreMember? properties key other)
  | [], _, _, _, _ => .none
  | (name, schema) :: rest, key, item, other, reordered => by
    rw [coreMember?, coreMember?]
    split
    · exact .some (core_reordered schema reordered)
    · exact coreMember?_reordered rest key reordered

/-- What is left of the items of a record is reordered as the items are. -/
theorem coreItems_reordered : (properties : List (String × Schema)) → {items others : List Json} →
    ReorderedItems items others → ReorderedItems (coreItems properties items)
      (coreItems properties others)
  | [], _, _, itemwise => by rwa [coreItems, coreItems]
  | _ :: _, [], _, itemwise => by
    obtain rfl := itemwise
    rfl
  | (_, schema) :: rest, item :: behind, _, itemwise => by
    obtain ⟨other, others, first, later, rfl⟩ := itemwise
    exact ⟨_, _, core_reordered schema first, coreItems_reordered rest later, rfl⟩

end

/-- A member is left out if no property has its name. -/
theorem coreMember?_unlisted {properties : List (String × Schema)} {key : String}
    (unlisted : key ∉ properties.map Prod.fst) (item : Json) :
    coreMember? properties key item = none := by
  induction properties with
  | nil => rfl
  | cons property rest inductionHypothesis =>
    rw [List.map_cons, List.mem_cons, not_or] at unlisted
    rw [coreMember?, if_neg (Ne.symm unlisted.1), inductionHypothesis unlisted.2]

/-- It leaves nothing more of an object that a member has been added which no property names. -/
theorem core_added {properties : List (String × Schema)} {key : String}
    (unlisted : key ∉ properties.map Prod.fst) (item : Json) (required : List String)
    (front back : List (String × Json)) (tail : Option Json.Fault) :
    (record properties required).core (.object (front ++ (key, item) :: back) tail) =
      (record properties required).core (.object (front ++ back) tail) := by
  simp only [core, List.filterMap_append, List.filterMap_cons, coreMember?_unlisted unlisted,
    Option.map_none]

end Schema

/-- The description and the default of a field leave out nothing more. -/
@[simp]
theorem Field.core_schema {R : Type} (field : Field R) (tree : Json) :
    field.schema.core tree = field.format.schema.core tree := by
  simp only [schema]
  cases field.absent with
  | none => cases field.description <;> simp [Schema.core]
  | some value =>
    by_cases left : field.omits value = true <;> cases field.description <;>
      simp [left, Schema.core]

/-! ## Formats that overlook surplus members -/

namespace Format

variable {α : Type}

/-- It makes no difference to a format whether surplus members are there, provided that they
can be passed over. -/
def Overlooks (format : Format α) : Prop :=
  ∀ source tree, tree.skipFault = none →
    format.decode source (format.schema.core tree) = format.decode source tree

/-- A format whose schema tells of no records has no surplus members. -/
theorem overlooks_of_core {format : Format α} (whole : ∀ tree, format.schema.core tree = tree) :
    format.Overlooks := fun source tree _ => by rw [whole]

/-- A value that may be unset overlooks surplus members if the value does. -/
theorem optional_overlooks {inner : Format α} (overlooks : inner.Overlooks) :
    inner.optional.Overlooks := by
  intro source tree passes
  have same := overlooks source tree passes
  have null := inner.schema.core_null_iff tree
  change inner.optional.decode source (Schema.core (.nullable inner.schema) tree) = _
  rw [Schema.core]
  by_cases unset : tree = .null
  · rw [null.mpr unset, unset]
  · have decoded (part : Json) (set : part ≠ .null) :
        inner.optional.decode source part = (inner.decode source part).map some := by
      cases part with
      | null => exact absurd rfl set
      | _ => rfl
    rw [decoded _ (null.not.mpr unset), decoded _ unset, same]

/-- A value for which null stands for a default overlooks surplus members if the value does. -/
theorem nullAs_overlooks (absent : α) {inner : Format α} (overlooks : inner.Overlooks) :
    (nullAs absent inner).Overlooks := by
  intro source tree passes
  have same := overlooks source tree passes
  have null := inner.schema.core_null_iff tree
  change (nullAs absent inner).decode source (Schema.core (.nullable inner.schema) tree) = _
  rw [Schema.core]
  by_cases unset : tree = .null
  · rw [null.mpr unset, unset]
  · have decoded (part : Json) (set : part ≠ .null) :
        (nullAs absent inner).decode source part = inner.decode source part := by
      cases part with
      | null => exact absurd rfl set
      | _ => rfl
    rw [decoded _ (null.not.mpr unset), decoded _ unset, same]

/-- The items of a list are passed over if the list is. -/
theorem items_pass {items : List Json} (passes : Json.skipItems items = none) :
    ∀ item ∈ items, item.skipFault = none := by
  induction items with
  | nil => simp
  | cons item rest inductionHypothesis =>
    rw [Json.skipItems, Option.or_eq_none_iff] at passes
    exact List.forall_mem_cons.mpr ⟨passes.1, inductionHypothesis passes.2⟩

/-- The values of members are passed over if the object is. -/
theorem members_pass {members : List (String × Json)}
    (passes : Json.skipMembers members = none) :
    ∀ member ∈ members, member.2.skipFault = none := by
  induction members with
  | nil => simp
  | cons member rest inductionHypothesis =>
    rw [Json.skipMembers, Option.or_eq_none_iff] at passes
    exact List.forall_mem_cons.mpr ⟨passes.1, inductionHypothesis passes.2⟩

/-- Lists overlook surplus members if their items do. -/
theorem list_overlooks {inner : Format α} (overlooks : inner.Overlooks) :
    inner.list.Overlooks := by
  intro source tree passes
  change inner.list.decode source (Schema.core (.list inner.schema) tree) = _
  cases tree with
  | array items tail =>
    rw [Json.skipFault, Option.or_eq_none_iff] at passes
    have each := items_pass passes.1
    have itemwise : decodeItems inner source (items.map inner.schema.core) =
        decodeItems inner source items := by
      clear passes
      induction items with
      | nil => rfl
      | cons item rest inductionHypothesis =>
        rw [List.forall_mem_cons] at each
        rw [List.map_cons, decodeItems, decodeItems, overlooks source item each.1,
          inductionHypothesis each.2]
    simp only [Schema.core, list, itemwise]
  | _ => rfl

/-- Dictionaries overlook surplus members of their values if these do. -/
theorem dictionary_overlooks {inner : Format α} (overlooks : inner.Overlooks) :
    inner.dictionary.Overlooks := by
  intro source tree passes
  change inner.dictionary.decode source (Schema.core (.dictionary inner.schema) tree) = _
  cases tree with
  | object members tail =>
    rw [Json.skipFault, Option.or_eq_none_iff] at passes
    have each := members_pass passes.1
    have memberwise : decodeEntries inner source
        (members.map fun member => (member.1, inner.schema.core member.2)) =
        decodeEntries inner source members := by
      clear passes
      induction members with
      | nil => rfl
      | cons member rest inductionHypothesis =>
        rw [List.forall_mem_cons] at each
        rw [List.map_cons, decodeEntries, decodeEntries, overlooks source member.2 each.1,
          inductionHypothesis each.2]
    simp only [Schema.core, dictionary, memberwise]
  | _ => rfl

end Format

/-! ## Records that overlook surplus members -/

namespace Record

variable {R : Type} {record : Record R}

/-- The description of a record leaves out nothing more. -/
theorem core_schema (record : Record R) (tree : Json) :
    record.schema.core tree = (Schema.record record.properties []).core tree := by
  rw [schema]
  cases record.description <;> cases tree <;> rfl

/-- A member is listed if a field has its name, and then what is left of it is what the field
leaves. -/
theorem coreMember?_properties (fields : List (Field R)) (key : String) (item : Json) :
    Schema.coreMember? (fields.map fun field => (field.key, field.schema)) key item =
      (fields.find? fun field => field.key == key).map fun field =>
        field.format.schema.core item := by
  induction fields with
  | nil => rfl
  | cons field rest inductionHypothesis =>
    rw [List.map_cons, Schema.coreMember?, inductionHypothesis, List.find?_cons]
    by_cases same : field.key = key
    · simp [same]
    · rw [if_neg same, beq_false_of_ne same]

/-- Decoding members one by one, those of no field are passed over. -/
theorem decodeMembers_core (overlook : ∀ field ∈ record.fields, field.format.Overlooks)
    (repeats : Bool) (source : Source) {members : List (String × Json)}
    (passes : ∀ member ∈ members, member.2.skipFault = none) (seen : List String) (start : R) :
    record.decodeMembers repeats source seen start (members.filterMap fun member =>
        (Schema.coreMember? record.properties member.1 member.2).map (member.1, ·)) =
      record.decodeMembers repeats source seen start members := by
  induction members generalizing seen start with
  | nil => rfl
  | cons member rest inductionHypothesis =>
    obtain ⟨key, item⟩ := member
    rw [List.forall_mem_cons] at passes
    rw [List.filterMap_cons, properties, coreMember?_properties, decodeMembers]
    cases found : record.fields.find? fun field => field.key == key with
    | none =>
      have passed : item.skip = .ok () := by rw [Json.skip, passes.1]
      simp only [passed, Option.map_none]
      exact inductionHypothesis passes.2 seen start
    | some field =>
      have same := overlook field (List.mem_of_find?_eq_some found) source item passes.1
      simp only [Option.map_some, decodeMembers, found, same]
      split
      · rfl
      · refine bind_congr fun part => ?_
        exact inductionHypothesis passes.2 _ _

/-- Decoding items by position, each is decoded as it is without surplus members. -/
theorem decodeItems_core (source : Source) (count : Nat) (tail : Option Json.Fault)
    (fields : List (Field R)) (overlook : ∀ field ∈ fields, field.format.Overlooks)
    {items : List Json} (passes : ∀ item ∈ items, item.skipFault = none) (place : Nat)
    (start : R) :
    record.decodeItems source count tail fields
        (Schema.coreItems (fields.map fun field => (field.key, field.schema)) items) place start =
      record.decodeItems source count tail fields items place start := by
  induction fields generalizing items place start with
  | nil => rfl
  | cons field rest inductionHypothesis =>
    rw [List.forall_mem_cons] at overlook
    cases items with
    | nil => rfl
    | cons item behind =>
      rw [List.forall_mem_cons] at passes
      simp only [List.map_cons, Schema.coreItems, decodeItems, Field.core_schema,
        overlook.1 source item passes.1]
      refine bind_congr fun part => ?_
      exact inductionHypothesis overlook.2 passes.2 _ _

/-- Leaving out members of items leaves as many items. -/
theorem coreItems_length (properties : List (String × Schema)) (items : List Json) :
    (Schema.coreItems properties items).length = items.length := by
  induction properties generalizing items with
  | nil => rw [Schema.coreItems]
  | cons property rest inductionHypothesis =>
    cases items with
    | nil => rfl
    | cons item behind => simp [Schema.coreItems, inductionHypothesis]

/-- A record of the library's own resources overlooks surplus members if its fields do. -/
theorem format_overlooks (overlook : ∀ field ∈ record.fields, field.format.Overlooks) :
    record.format.Overlooks := by
  intro source tree passes
  change record.format.decode source (record.schema.core tree) = _
  rw [core_schema]
  cases tree with
  | array items tail =>
    rw [Json.skipFault, Option.or_eq_none_iff] at passes
    simp only [Schema.core, format, coreItems_length]
    exact decodeItems_core source _ tail record.fields overlook (Format.items_pass passes.1) 0 _
  | object members tail =>
    rw [Json.skipFault, Option.or_eq_none_iff] at passes
    simp only [Schema.core, format, decodeObject,
      decodeMembers_core overlook false source (Format.members_pass passes.1)]
  | _ => rfl

/-- A core type of the cluster overlooks surplus members if its fields do. -/
theorem coreFormat_overlooks (overlook : ∀ field ∈ record.fields, field.format.Overlooks) :
    record.coreFormat.Overlooks := by
  intro source tree passes
  change record.coreFormat.decode source (record.schema.core tree) = _
  rw [core_schema]
  cases tree with
  | object members tail =>
    rw [Json.skipFault, Option.or_eq_none_iff] at passes
    simp only [Schema.core, coreFormat, decodeObject,
      decodeMembers_core overlook true source (Format.members_pass passes.1)]
  | _ => rfl

end Record

end BucketMount
