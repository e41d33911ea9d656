import BucketMount.Json.Equality
import BucketMount.Proofs.RewrittenFields

/-!
# Trees that a schema admits

A store checks an object against the schema that it was given in a manifest, which is
itself a tree. `Json.admits` is this check, for the keywords that the manifests use: the
type of a value, whether it may be null, the values that a choice is made from, the items
of a list, the members of an object, listed and not, and the members that it has to have.
Titles, descriptions and defaults are not looked at, and a member that the schema does not
list is admitted as it is.

The check knows nothing of how the tree of a schema was put together. Behind it stands one
lemma for each sort of schema, which says in terms of its parts what its tree admits; no
later proof looks a keyword up.
-/

namespace BucketMount

namespace Json

/-! ## The check -/

/-- The schema leaves the type of a value open, or it names one of these. -/
def typed (schema : Json) (names : List String) : Bool :=
  match schema.get? "type" with
  | none => true
  | some (.string name) => names.contains name
  | some _ => false

/-- The schema lists no values to choose from, or this one is among them. -/
def enumerated (schema tree : Json) : Bool :=
  match schema.get? "enum" with
  | some (.array values _) => tree ∈ values
  | _ => true

/-- The names of the members that an object has to have. -/
def requiredNames (schema : Json) : List Json :=
  match schema.get? "required" with
  | some (.array names _) => names
  | _ => []

/-- The schema of a member: the one listed under its name, or else the one of all members
that are not listed. -/
def memberSchema? (schema : Json) (key : String) : Option Json :=
  ((schema.get? "properties").bind (get? key)).or (schema.get? "additionalProperties")

mutual

/-- True if the schema admits the tree. Null is admitted exactly if the schema says so. -/
def admits (schema : Json) : Json → Bool
  | .null => schema.get? "nullable" = some (.boolean true)
  | .boolean value => schema.typed ["boolean"] && schema.enumerated (.boolean value)
  | .number (.whole value) =>
    schema.typed ["integer", "number"] && schema.enumerated (.number (.whole value))
  | .number (.real value) => schema.typed ["number"] && schema.enumerated (.number (.real value))
  | .string value => schema.typed ["string"] && schema.enumerated (.string value)
  | .array items tail =>
    tail.isNone && schema.typed ["array"] && schema.enumerated (.array items tail) &&
      admitsItems (schema.get? "items") items
  | .object members tail =>
    tail.isNone && schema.typed ["object"] && schema.enumerated (.object members tail) &&
      (schema.requiredNames.all fun name => members.any fun member => .string member.1 == name) &&
      admitsMembers schema.memberSchema? members
  | .fault _ => false

/-- True if the schema of items, if there is one, admits every item. -/
def admitsItems (schema? : Option Json) : List Json → Bool
  | [] => true
  | item :: rest =>
    (match schema? with
      | some schema => admits schema item
      | none => true) && admitsItems schema? rest

/-- True if every member is admitted by the schema of its name, if there is one. -/
def admitsMembers (schema? : String → Option Json) : List (String × Json) → Bool
  | [] => true
  | (key, item) :: rest =>
    (match schema? key with
      | some schema => admits schema item
      | none => true) && admitsMembers schema? rest

end

/-- The items of a list are admitted one by one. -/
theorem admitsItems_iff (schema? : Option Json) (items : List Json) :
    admitsItems schema? items = true ↔
      ∀ schema ∈ schema?, ∀ item ∈ items, admits schema item = true := by
  induction items with
  | nil => simp [admitsItems]
  | cons item rest inductionHypothesis =>
    simp only [admitsItems, Bool.and_eq_true, inductionHypothesis, List.forall_mem_cons]
    cases schema? <;> simp

/-- The members of an object are admitted one by one. -/
theorem admitsMembers_iff (schema? : String → Option Json) (members : List (String × Json)) :
    admitsMembers schema? members = true ↔
      ∀ member ∈ members, ∀ schema ∈ schema? member.1, admits schema member.2 = true := by
  induction members with
  | nil => simp [admitsMembers]
  | cons member rest inductionHypothesis =>
    simp only [admitsMembers, Bool.and_eq_true, inductionHypothesis, List.forall_mem_cons]
    cases schema? member.1 <;> simp

/-- The keywords by which a value that is not null is checked. -/
def keywords : List String :=
  ["type", "enum", "items", "required", "properties", "additionalProperties"]

/-- Two schemas with the same keywords admit the same values besides null. -/
theorem admits_congr {schema other tree : Json} (notNull : tree ≠ .null)
    (same : ∀ key ∈ keywords, schema.get? key = other.get? key) :
    schema.admits tree = other.admits tree := by
  simp only [keywords, List.forall_mem_cons, List.not_mem_nil, false_implies, implies_true,
    and_true] at same
  obtain ⟨types, values, items, names, listed, others⟩ := same
  have typed : schema.typed = other.typed := by
    funext expected
    rw [Json.typed, types, Json.typed]
  have enumerated : schema.enumerated = other.enumerated := by
    funext value
    rw [Json.enumerated, values, Json.enumerated]
  have required : schema.requiredNames = other.requiredNames := by
    rw [requiredNames, names, requiredNames]
  have members : schema.memberSchema? = other.memberSchema? := by
    funext key
    rw [memberSchema?, listed, others, memberSchema?]
  rcases tree with _ | _ | (_ | _) | _ | _ | _ | _ <;>
    simp_all only [admits, ne_eq, not_true_eq_false]

section Types

variable {schema : Json} (notNull : schema.get? "nullable" = none) (tree : Json)

include notNull

/-- A schema of flags admits the flags that it lists, or all of them. -/
theorem admits_flag (type : schema.get? "type" = some (.string "boolean")) :
    schema.admits tree = true ↔ ∃ flag, tree = .boolean flag ∧ schema.enumerated tree = true := by
  rcases tree with _ | _ | (_ | _) | _ | _ | _ | _ <;> simp [admits, typed, type, notNull]

/-- A schema of texts admits the texts that it lists, or all of them. -/
theorem admits_text (type : schema.get? "type" = some (.string "string")) :
    schema.admits tree = true ↔ ∃ text, tree = .string text ∧ schema.enumerated tree = true := by
  rcases tree with _ | _ | (_ | _) | _ | _ | _ | _ <;> simp [admits, typed, type, notNull]

/-- A schema of lists admits the lists whose items are all admitted. -/
theorem admits_array (type : schema.get? "type" = some (.string "array"))
    (open? : schema.get? "enum" = none) :
    schema.admits tree = true ↔ ∃ items, tree = .array items none ∧
      ∀ part ∈ schema.get? "items", ∀ item ∈ items, part.admits item = true := by
  rcases tree with _ | _ | (_ | _) | _ | _ | _ | _ <;>
    simp [admits, typed, enumerated, type, notNull, open?, admitsItems_iff]

/-- A schema of objects admits the objects that have the required members and whose members
are all admitted. -/
theorem admits_object (type : schema.get? "type" = some (.string "object"))
    (open? : schema.get? "enum" = none) :
    schema.admits tree = true ↔ ∃ members, tree = .object members none ∧
      (∀ name ∈ schema.requiredNames, ∃ member ∈ members, .string member.1 = name) ∧
      ∀ member ∈ members, ∀ part ∈ schema.memberSchema? member.1, part.admits member.2 = true := by
  rcases tree with _ | _ | (_ | _) | _ | _ | _ | _ <;>
    simp [admits, typed, enumerated, type, notNull, open?, admitsMembers_iff, and_assoc]

end Types

end Json

/-- The members of an object that was made of a dictionary are the values of its keys. -/
theorem Dictionary.get?_entries (dictionary : Dictionary Json) (key : String) :
    Json.get? key (.object dictionary.entries none) = dictionary.get? key := by
  have found := get?_ofList dictionary.entries key
  rw [ofList_entries] at found
  exact found.symm

namespace Schema

/-! ## The tree of a schema -/

/-- The members of a schema's tree are those of its description. -/
theorem get?_tree (schema : Schema) (key : String) :
    schema.tree.get? key = schema.members.get? key := schema.members.get?_entries key

/-- The tree of a property is found under its name, of several with one name the first. -/
theorem get?_propertyMembers (properties : List (String × Schema)) (key : String) :
    (propertyMembers properties).get? key =
      (properties.find? fun property => property.1 == key).map fun property => property.2.tree := by
  induction properties with
  | nil => rfl
  | cons property rest inductionHypothesis =>
    obtain ⟨name, schema⟩ := property
    rw [propertyMembers, Dictionary.get?_insert, inductionHypothesis]
    by_cases same : name = key <;> simp [same, tree]

/-- The members of a tree whose description names a type. -/
theorem get?_typed (schema : Schema) {name : String} {others : List (String × Json)}
    (written : schema.members = typed name others) (key : String) :
    schema.tree.get? key =
      Dictionary.lastValue key (if "type" = key then some (.string name) else none) others := by
  rw [get?_tree, written, typed, Dictionary.get?_ofList]
  rfl

/-- An annotation that is no keyword changes nothing. -/
theorem admits_annotated (inner annotated : Schema) (key : String) (value : Json)
    (written : annotated.members = inner.members.insert key value)
    (other : key ∉ "nullable" :: Json.keywords) (tree : Json) :
    annotated.tree.admits tree = inner.tree.admits tree := by
  have kept (keyword : String) (listed : keyword ∈ "nullable" :: Json.keywords) :
      annotated.tree.get? keyword = inner.tree.get? keyword := by
    have differs : key ≠ keyword := fun same => other (same ▸ listed)
    rw [get?_tree, get?_tree, written, Dictionary.get?_insert, if_neg differs]
  by_cases null : tree = .null
  · rw [null, Json.admits, Json.admits, kept "nullable" (.head _)]
  · exact Json.admits_congr null fun keyword listed => kept keyword (.tail _ listed)

/-- A description changes nothing. -/
@[simp]
theorem admits_described (description : String) (inner : Schema) (tree : Json) :
    (described description inner).tree.admits tree = inner.tree.admits tree :=
  admits_annotated inner _ "description" _ (by rw [members]) (by decide) tree

/-- A default changes nothing. -/
@[simp]
theorem admits_defaulted (value : Json) (inner : Schema) (tree : Json) :
    (defaulted value inner).tree.admits tree = inner.tree.admits tree :=
  admits_annotated inner _ "default" _ (by rw [members]) (by decide) tree

/-- A title changes nothing. -/
@[simp]
theorem admits_titled (title : String) (inner : Schema) (tree : Json) :
    (titled title inner).tree.admits tree = inner.tree.admits tree :=
  admits_annotated inner _ "title" _ (by rw [members]) (by decide) tree

/-- Permission to be null admits null and changes nothing else. -/
theorem admits_nullable (inner : Schema) (tree : Json) :
    (nullable inner).tree.admits tree = true ↔ tree = .null ∨ inner.tree.admits tree = true := by
  have written (key : String) : (nullable inner).tree.get? key =
      if "nullable" = key then some (.boolean true) else inner.tree.get? key := by
    rw [get?_tree, members, Dictionary.get?_insert, get?_tree]
  by_cases null : tree = .null
  · simp [null, Json.admits, written]
  · have kept : ∀ key ∈ Json.keywords, (nullable inner).tree.get? key = inner.tree.get? key := by
      intro key listed
      have differs : "nullable" ≠ key := by
        rintro rfl
        exact absurd listed (by decide)
      rw [written, if_neg differs]
    rw [Json.admits_congr null kept]
    simp [null]

section Types

variable (tree : Json)

/-- The schema of texts admits every text and nothing else. -/
theorem admits_string : string.tree.admits tree = true ↔ ∃ text, tree = .string text := by
  have keyword := get?_typed string rfl
  rw [Json.admits_text (keyword "nullable") tree (keyword "type"), Json.enumerated, keyword "enum"]
  simp [Dictionary.lastValue]

/-- The schema of flags admits every flag and nothing else. -/
theorem admits_boolean : boolean.tree.admits tree = true ↔ ∃ flag, tree = .boolean flag := by
  have keyword := get?_typed boolean rfl
  rw [Json.admits_flag (keyword "nullable") tree (keyword "type"), Json.enumerated, keyword "enum"]
  simp [Dictionary.lastValue]

/-- The schema of a choice admits the names and nothing else. -/
theorem admits_choice (names : List String) :
    (choice names).tree.admits tree = true ↔ ∃ name ∈ names, tree = .string name := by
  have keyword := get?_typed (choice names) rfl
  have values : (choice names).tree.get? "enum" = some (.array (names.map Json.string) none) :=
    keyword "enum"
  rw [Json.admits_text (keyword "nullable") tree (keyword "type"), Json.enumerated, values]
  simp only [List.mem_map, decide_eq_true_eq]
  constructor
  · rintro ⟨_, _, name, listed, rfl⟩
    exact ⟨name, listed, rfl⟩
  · rintro ⟨name, listed, rfl⟩
    exact ⟨name, rfl, name, listed, rfl⟩

/-- The schema of lists admits the lists whose items are all admitted. -/
theorem admits_list (item : Schema) :
    (list item).tree.admits tree = true ↔ ∃ items, tree = .array items none ∧
      ∀ part ∈ items, item.tree.admits part = true := by
  have keyword := get?_typed (list item) rfl
  have items : (list item).tree.get? "items" = some item.tree := keyword "items"
  rw [Json.admits_array (keyword "nullable") tree (keyword "type") (keyword "enum"), items]
  simp

/-- The schema of dictionaries admits the objects whose members are all admitted. -/
theorem admits_dictionary (value : Schema) :
    (dictionary value).tree.admits tree = true ↔ ∃ members, tree = .object members none ∧
      ∀ member ∈ members, value.tree.admits member.2 = true := by
  have keyword := get?_typed (dictionary value) rfl
  have parts (key : String) : (dictionary value).tree.memberSchema? key = some value.tree := by
    rw [Json.memberSchema?, keyword, keyword]
    rfl
  have required : (dictionary value).tree.requiredNames = [] := by
    rw [Json.requiredNames, keyword]
    rfl
  rw [Json.admits_object (keyword "nullable") tree (keyword "type") (keyword "enum"), required]
  simp [parts]

/-- The schema of a record admits the objects that have the required members and whose
listed members are all admitted. -/
theorem admits_record (properties : List (String × Schema)) (required : List String) :
    (record properties required).tree.admits tree = true ↔
      ∃ members, tree = .object members none ∧
        (∀ name ∈ required, name ∈ members.map Prod.fst) ∧
        ∀ member ∈ members,
          ∀ property ∈ properties.find? fun property => property.1 == member.1,
            property.2.tree.admits member.2 = true := by
  have keyword := get?_typed (record properties required) rfl
  have names : (record properties required).tree.requiredNames = required.map Json.string := by
    rw [Json.requiredNames, keyword]
    cases required <;> simp [Dictionary.lastValue]
  have parts (key : String) : (record properties required).tree.memberSchema? key =
      (properties.find? fun property => property.1 == key).map fun property => property.2.tree := by
    have listed : Json.get? key (.object (propertyMembers properties).entries none) =
        (propertyMembers properties).get? key := Dictionary.get?_entries _ key
    rw [Json.memberSchema?, keyword, keyword, ← get?_propertyMembers, ← listed]
    cases required <;> simp [Dictionary.lastValue]
  have plain (key : String) (other : key ∉ ["type", "properties", "required"]) :
      (record properties required).tree.get? key = none := by
    simp only [List.mem_cons, List.not_mem_nil, or_false, not_or] at other
    rw [keyword]
    cases required <;> simp [Dictionary.lastValue, Ne.symm, other]
  have type : (record properties required).tree.get? "type" = some (.string "object") := by
    rw [keyword]
    cases required <;> simp [Dictionary.lastValue]
  rw [Json.admits_object (plain "nullable" (by decide)) tree type (plain "enum" (by decide)),
    names]
  simp only [parts, List.mem_map, Option.mem_def, Option.map_eq_some_iff, forall_exists_index,
    and_imp, forall_apply_eq_imp_iff₂, Json.string.injEq]

end Types

end Schema

end BucketMount
