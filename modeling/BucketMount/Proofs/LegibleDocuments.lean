import BucketMount.Proofs.RewrittenFields

/-!
# Documents that are read as they were written

The tree that is written of a value is legible if its parts are: a record's if those of its
fields are that are not left out. Texts, flags and times are legible wherever they stand, and
so are whole numbers that were read. Trees of any shape may hold binary numbers, whose texts
are not read exactly, so legibility of a manager's fields is asked for.

`BucketAccess.legible` says this of the document of a grant.
-/

namespace BucketMount

namespace Format

variable {α : Type} {depth : Nat}

/-- What is written of a value is legible inside so many lists and objects. -/
def Legible (format : Format α) (depth : Nat) (value : α) : Prop :=
  Json.Legible depth (format.encode value)

/-- Texts are legible. -/
@[simp]
theorem legible_string (value : String) : string.Legible depth value := by
  simp [Legible, string, Json.Legible]

/-- Flags are legible. -/
@[simp]
theorem legible_boolean (value : Bool) : boolean.Legible depth value := by
  simp [Legible, boolean, Json.Legible]

/-- Points in time are legible. -/
@[simp]
theorem legible_timestamp (value : Timestamp) : timestamp.Legible depth value := by
  simp [Legible, timestamp, Json.Legible]

/-- Whole numbers of 64 bits with a sign are legible. -/
theorem legible_integer {value : Int} (low : -9223372036854775808 ≤ value)
    (high : value ≤ 9223372036854775807) : integer.Legible depth value :=
  Json.whole_legible value low (by omega)

/-- A value that may be unset is legible if it is where it is set. -/
@[simp]
theorem legible_optional {inner : Format α} {value : Option α}
    (part : ∀ part ∈ value, inner.Legible depth part) : inner.optional.Legible depth value := by
  cases value with
  | none => simp [Legible, optional, Json.Legible]
  | some value => exact part value rfl

/-- A list is legible if its items are. -/
theorem legible_list {inner : Format α} (shallow : depth < Json.deepest) {values : List α}
    (each : ∀ value ∈ values, inner.Legible (depth + 1) value) :
    inner.list.Legible depth values := by
  refine ⟨rfl, shallow, (Json.legibleItems_iff _).mpr fun item listed => ?_⟩
  obtain ⟨value, member, rfl⟩ := List.mem_map.mp listed
  exact each value member

/-- A dictionary of texts is legible. -/
theorem legible_texts (shallow : depth < Json.deepest) (values : Dictionary String) :
    (dictionary string).Legible depth values := by
  refine ⟨rfl, shallow, (Json.legibleMembers_iff _).mpr fun member listed => ?_⟩
  obtain ⟨entry, _, rfl⟩ := List.mem_map.mp listed
  exact legible_string entry.2

end Format

/-- A record is legible if its fields are that are not left out. -/
theorem Record.legible {R : Type} {record : Record R} {value : R} {depth : Nat}
    (shallow : depth < Json.deepest)
    (fields : ∀ field ∈ record.fields, field.omits (field.get value) = false →
      field.format.Legible (depth + 1) (field.get value)) :
    Json.Legible depth (.object (record.encodedMembers value) none) := by
  refine ⟨rfl, shallow, (Json.legibleMembers_iff _).mpr fun member listed => ?_⟩
  obtain ⟨field, fieldListed, kept, rfl⟩ := (mem_encodedMembers member).mp listed
  exact fields field fieldListed kept

section Parts

variable {depth : Nat}

/-- References are legible. -/
theorem Reference.legible (shallow : depth < Json.deepest) (value : Reference) :
    record.format.Legible depth value := by
  refine Record.legible shallow ?_
  simp [record, Field.optional, Field.elided]

/-- What is wanted of a grant is legible. -/
theorem BucketAccessSpec.legible (shallow : depth + 1 < Json.deepest) (value : BucketAccessSpec) :
    record.format.Legible depth value := by
  refine Record.legible (by omega) ?_
  simp [record, Field.optional, Field.elided, Field.defaulted, Reference.legible shallow,
    Format.legible_texts shallow]

/-- What is reported of a grant is legible. -/
theorem BucketAccessStatus.legible (shallow : depth < Json.deepest) (value : BucketAccessStatus) :
    record.format.Legible depth value := by
  refine Record.legible shallow ?_
  simp [record, Field.defaulted]

/-- Owners are legible. -/
theorem OwnerReference.legible (shallow : depth < Json.deepest) (value : OwnerReference) :
    record.coreFormat.Legible depth value := by
  have text (text : String) : ((Format.string).nullAs "").Legible (depth + 1) text :=
    Format.legible_string text
  refine Record.legible shallow ?_
  simp [record, textField, Field.optional, Field.elided, text]

/-- The fields of a manager are legible if the tree among them is. -/
theorem ManagedFields.legible (shallow : depth < Json.deepest) {value : ManagedFields}
    (tree : ∀ tree ∈ value.fields, Json.Legible (depth + 1) tree) :
    record.coreFormat.Legible depth value := by
  have fields : Format.unstructured.optional.Legible (depth + 1) value.fields :=
    Format.legible_optional tree
  refine Record.legible shallow ?_
  simp [record, Field.optional, Field.elided, fields]

/-- A number that may be unset has 64 bits if it was read. -/
theorem Record.FieldFrom.number {R : Type} {source : Source} {members : List (String × Json)}
    {value : R} {key : String} {description : Option String} {get : R → Option Int}
    {set : R → Option Int → R}
    (come : Record.FieldFrom source members value (.optional key description .integer get set)) :
    ∀ number ∈ get value, -9223372036854775808 ≤ number ∧ number ≤ 9223372036854775807 := by
  intro number present
  rcases come.cases with ⟨item, _, decoded⟩ | ⟨_, unset⟩
  · rcases (Format.optional_decode_iff _ _ _ _).mp decoded with ⟨_, unset⟩ | ⟨_, part, read, same⟩
    · simp [unset] at present
    · obtain rfl : part = number := Option.some.inj (same.symm.trans present)
      exact (Format.whole_decoded read).2
  · simp [unset] at present

/-- Metadata is read from an object. -/
theorem Metadata.object_decoded {source : Source} {tree : Json} {value : Metadata}
    (decoded : format.decode source tree = .ok value) :
    ∃ members tail, tree = .object members tail ∧
      record.decodeObject true source members tail = .ok value := by
  cases tree <;> simp_all [format, Record.coreFormat]

/-- Metadata is legible if its numbers have 64 bits and the trees of its managers' fields
are legible. -/
theorem Metadata.legible (shallow : depth + 2 < Json.deepest) {value : Metadata}
    (period : ∀ number ∈ value.deletionGracePeriodSeconds,
      -9223372036854775808 ≤ number ∧ number ≤ 9223372036854775807)
    (generation : ∀ number ∈ value.generation,
      -9223372036854775808 ≤ number ∧ number ≤ 9223372036854775807)
    (managed : ∀ entries ∈ value.managedFields, ∀ entry ∈ entries, ∀ tree ∈ entry.fields,
      Json.Legible (depth + 3) tree) :
    format.Legible depth value := by
  have within : depth + 1 < Json.deepest := by omega
  have number (number : Int)
      (bounds : -9223372036854775808 ≤ number ∧ number ≤ 9223372036854775807) :
      Format.integer.Legible (depth + 1) number := Format.legible_integer bounds.1 bounds.2
  have markers (markers : List String) : (Format.list .string).Legible (depth + 1) markers :=
    Format.legible_list within fun marker _ => Format.legible_string marker
  have owners (owners : List OwnerReference) :
      (Format.list OwnerReference.record.coreFormat).Legible (depth + 1) owners :=
    Format.legible_list within fun owner _ => OwnerReference.legible shallow owner
  have managers (entries : List ManagedFields) (listed : entries ∈ value.managedFields) :
      (Format.list ManagedFields.record.coreFormat).Legible (depth + 1) entries :=
    Format.legible_list within fun entry member =>
      ManagedFields.legible shallow (managed entries listed entry member)
  have periodLegible := Format.legible_optional fun part member => number part (period part member)
  have generationLegible :=
    Format.legible_optional fun part member => number part (generation part member)
  refine Record.legible (by omega) ?_
  simp +contextual [record, Field.optional, Field.elided, Format.legible_texts within,
    periodLegible, generationLegible, markers, owners, managers]

end Parts

/-- The numbers in the metadata of a grant have 64 bits if it was read from no list. -/
theorem BucketAccess.numbers_decoded {source : Source} {tree : Json} {access : BucketAccess}
    (decoded : kind.format.decode source tree = .ok access) (named : ¬ tree.IsList) :
    (∀ number ∈ access.metadata.deletionGracePeriodSeconds,
      -9223372036854775808 ≤ number ∧ number ≤ 9223372036854775807) ∧
    ∀ number ∈ access.metadata.generation,
      -9223372036854775808 ≤ number ∧ number ≤ 9223372036854775807 := by
  obtain ⟨members, tail, rfl, _⟩ := Record.decoded_by_name decoded named
  obtain ⟨_, ⟨item, _, metadata⟩, _⟩ := CustomKind.parts_decoded decoded
  obtain ⟨_, _, rfl, object⟩ := Metadata.object_decoded metadata
  have come := (Record.decodeObject_ok Metadata.lawful object).2
  exact ⟨(come Metadata.record.fields[2] (List.getElem_mem _)).number,
    (come Metadata.record.fields[6] (List.getElem_mem _)).number⟩

/-- The document of a grant is legible if its metadata is. -/
theorem BucketAccess.legible {access : BucketAccess}
    (metadata : Metadata.format.Legible 1 access.metadata) : kind.format.Legible 0 access := by
  have members : ∀ field ∈ kind.envelope.fields, field.omits (field.get access) = false →
      field.format.Legible 1 (field.get access) := by
    have spec := BucketAccessSpec.legible (show 1 + 1 < Json.deepest by decide) access.spec
    have status : BucketAccessStatus.record.format.optional.Legible 1 access.status :=
      Format.legible_optional fun part _ => BucketAccessStatus.legible (by decide) part
    simp [CustomKind.envelope, Field.required, metadata, spec, status, kind]
  have written : Json.Legible 0 (.object (kind.envelope.encodedMembers access) none) :=
    Record.legible (by decide) members
  obtain ⟨_, shallow, legible⟩ := written
  refine ⟨rfl, shallow, ?_, ?_, legible⟩ <;> simp [Json.Legible]

end BucketMount
