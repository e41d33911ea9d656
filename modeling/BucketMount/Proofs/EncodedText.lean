import BucketMount.Proofs.RecordLaws
import BucketMount.Proofs.WrittenText

/-!
# Reading back what was written

A value comes back if the text that is written of it is read as a tree that is decoded
to the value again. The tree need not be the one that was written, and the text may
stand inside lists and objects, where there is less room for nesting.

Each format passes this on: a list comes back if its items do, a record if the fields
do that are not left out. Metadata comes back if its numbers fit, its times are read from
their own texts and its managers' fields are canonical (`Metadata.comesBack`).

`encoded_documents_read_back` says that every document of a stored object is read back as
what it was written of, its metadata granted. Secrets are not told of.
-/

namespace BucketMount

/-! ## Dictionaries -/

namespace Dictionary

variable {α : Type}

/-- An entry whose key is above all others is put behind them. -/
theorem insertEntry_last (key : String) (value : α) (entries : List (String × α))
    (above : ∀ entry ∈ entries, entry.1 < key) :
    insertEntry key value entries = entries ++ [(key, value)] := by
  induction entries with
  | nil => rfl
  | cons first rest inductionHypothesis =>
    obtain ⟨other, old⟩ := first
    have below : other < key := above (other, old) List.mem_cons_self
    have notBefore : ¬ key < other := String.lt_asymm below
    have notSame : key ≠ other := fun same => String.lt_irrefl key (same ▸ below)
    rw [insertEntry, if_neg notBefore, if_neg notSame,
      inductionHypothesis fun entry member => above entry (List.mem_cons_of_mem _ member)]
    rfl

/-- A dictionary is determined by its entries. -/
theorem eq_of_entries {left right : Dictionary α} (same : left.entries = right.entries) :
    left = right := by
  cases left
  cases right
  exact (mk.injEq ..).mpr same

/-- The entries of a dictionary, collected again, are the dictionary. -/
theorem ofList_entries (dictionary : Dictionary α) : ofList dictionary.entries = dictionary := by
  have collected (start : Dictionary α) (entries : List (String × α))
      (ascending : (start.entries ++ entries).Pairwise fun left right => left.1 < right.1) :
      (entries.foldl (fun dictionary entry => dictionary.insert entry.1 entry.2) start).entries =
        start.entries ++ entries := by
    induction entries generalizing start with
    | nil => simp
    | cons entry rest inductionHypothesis =>
      have above : ∀ other ∈ start.entries, other.1 < entry.1 := fun other member =>
        (List.pairwise_append.mp ascending).2.2 other member entry List.mem_cons_self
      have inserted : (start.insert entry.1 entry.2).entries = start.entries ++ [entry] :=
        insertEntry_last _ _ _ above
      have later : ((start.insert entry.1 entry.2).entries ++ rest).Pairwise
          fun left right => left.1 < right.1 := by
        rw [inserted]
        simpa using ascending
      rw [List.foldl_cons, inductionHypothesis _ later, inserted]
      simp
  exact eq_of_entries (collected .empty dictionary.entries dictionary.ascending)

/-- Entries whose keys ascend are collected in the order they stand in. -/
theorem ofList_ascending {entries : List (String × α)}
    (ascends : (entries.map Prod.fst).Pairwise (· < ·)) : (ofList entries).entries = entries :=
  congrArg Dictionary.entries (ofList_entries ⟨entries, List.pairwise_map.mp ascends⟩)

end Dictionary

/-! ## Formats -/

namespace Format

variable {α : Type} {depth : Nat}

/-- A value comes back from its own text where this stands inside so many lists and
objects. -/
def ComesBack (format : Format α) (depth : Nat) (value : α) : Prop :=
  ∃ tree, Json.ReadsAs depth (format.encode value).written tree ∧
    format.decode .text tree = .ok value

/-- Null stands for no value of the format. -/
def RefusesNull (format : Format α) : Prop :=
  ∀ source value, format.decode source .null ≠ .ok value

/-- Null stands for no text. -/
@[simp]
theorem string_refusesNull : string.RefusesNull := by simp [RefusesNull, string]

/-- Null stands for no flag. -/
@[simp]
theorem boolean_refusesNull : boolean.RefusesNull := by simp [RefusesNull, boolean]

/-- Null stands for no whole number. -/
@[simp]
theorem integer_refusesNull : integer.RefusesNull := by simp [RefusesNull, integer, whole]

/-- Null stands for no point in time. -/
@[simp]
theorem timestamp_refusesNull : timestamp.RefusesNull := by simp [RefusesNull, timestamp]

/-- Null stands for no list. -/
@[simp]
theorem list_refusesNull (inner : Format α) : inner.list.RefusesNull := by
  simp [RefusesNull, list]

/-- Null stands for no dictionary. -/
@[simp]
theorem dictionary_refusesNull (inner : Format α) : inner.dictionary.RefusesNull := by
  simp [RefusesNull, dictionary]

/-- What comes back is read from its own document. -/
theorem ComesBack.of_document {format : Format α} {value : α} (back : format.ComesBack 0 value) :
    format.ofText (format.toText value) = .ok value := by
  obtain ⟨tree, reads, decoded⟩ := back
  simp [ofText, toText, reads.read_text, decoded, Json.finish, Json.skipBlanks, bind, Except.bind,
    pure, Except.pure]

/-- Texts come back. -/
@[simp]
theorem comesBack_string (depth : Nat) (value : String) : string.ComesBack depth value :=
  ⟨.string value, Json.reads_string depth value, rfl⟩

/-- Flags come back. -/
@[simp]
theorem comesBack_boolean (depth : Nat) (value : Bool) : boolean.ComesBack depth value :=
  ⟨.boolean value, Json.reads_boolean depth value, rfl⟩

/-- Whole numbers of 64 bits with a sign come back. -/
theorem comesBack_integer (depth : Nat) (value : Int) (low : -9223372036854775808 ≤ value)
    (high : value ≤ 9223372036854775807) : integer.ComesBack depth value :=
  ⟨.number (.whole value), Json.reads_number depth (Json.whole_legible value low (by omega)),
    if_pos ⟨low, high⟩⟩

/-- A point in time comes back if it is read from its own text. -/
theorem comesBack_timestamp (depth : Nat) (value : Timestamp)
    (readable : Timestamp.ofText value.text = .ok value) : timestamp.ComesBack depth value :=
  ⟨.string value.text, Json.reads_string depth value.text, by simp [timestamp, readable,
    Except.mapError]⟩

/-- A variant comes back if it is the one of its name. -/
theorem comesBack_choice (variants : List (String × α)) (name : α → String) (depth : Nat)
    (value : α) (named : variantNamed variants (name value) = .ok value) :
    (choice variants name).ComesBack depth value :=
  ⟨.string (name value), Json.reads_string depth _, named⟩

/-- An unset value comes back as null. -/
theorem comesBack_none (inner : Format α) (depth : Nat) : inner.optional.ComesBack depth none :=
  ⟨.null, Json.reads_null depth, rfl⟩

/-- A tree that is decoded to a value is not null where null stands for none. -/
theorem RefusesNull.not_null {inner : Format α} (refuses : inner.RefusesNull) {source : Source}
    {tree : Json} {value : α} (decoded : inner.decode source tree = .ok value) : tree ≠ .null := by
  rintro rfl
  exact refuses source value decoded

/-- A set value comes back as itself, unless null could stand for it. -/
theorem comesBack_some {inner : Format α} {value : α} (refuses : inner.RefusesNull)
    (back : inner.ComesBack depth value) : inner.optional.ComesBack depth (some value) := by
  obtain ⟨tree, reads, decoded⟩ := back
  refine ⟨tree, reads, ?_⟩
  have set := refuses.not_null decoded
  cases tree <;> simp_all [optional, Except.map]

/-- A value comes back that may be unset, if it does where it is set. -/
@[simp]
theorem comesBack_optional {inner : Format α} (refuses : inner.RefusesNull) (value : Option α)
    (back : ∀ part ∈ value, inner.ComesBack depth part) : inner.optional.ComesBack depth value := by
  cases value with
  | none => exact comesBack_none inner depth
  | some part => exact comesBack_some refuses (back part rfl)

/-- A value comes back for which null has another meaning. -/
theorem comesBack_nullAs {inner : Format α} {absent value : α} (refuses : inner.RefusesNull)
    (back : inner.ComesBack depth value) : (inner.nullAs absent).ComesBack depth value := by
  obtain ⟨tree, reads, decoded⟩ := back
  refine ⟨tree, reads, ?_⟩
  have set := refuses.not_null decoded
  cases tree <;> simp_all [nullAs]

/-- A list comes back if its items do. -/
theorem comesBack_list {inner : Format α} (values : List α) (shallow : depth < Json.deepest)
    (back : ∀ value ∈ values, inner.ComesBack (depth + 1) value) :
    inner.list.ComesBack depth values := by
  choose! tree reads using back
  have decoded (rest : List α) (part : ∀ value ∈ rest, value ∈ values) :
      decodeItems inner .text (rest.map tree) = .ok rest := by
    induction rest with
    | nil => rfl
    | cons value rest inductionHypothesis =>
      have first := (reads value (part value List.mem_cons_self)).2
      have others := inductionHypothesis fun value member =>
        part value (List.mem_cons_of_mem _ member)
      simp [decodeItems, first, others, bind, Except.bind, pure, Except.pure]
  refine ⟨.array (values.map tree) none, Json.reads_array shallow ?_, ?_⟩
  · rw [Json.ItemsReadAs, List.forall₂_map_left_iff, List.forall₂_map_right_iff, List.forall₂_same]
    exact fun value member => (reads value member).1
  · simp [list, decoded values fun _ member => member, Json.close, bind, Except.bind, pure,
      Except.pure]

/-- A dictionary comes back if its values do. -/
theorem comesBack_dictionary {inner : Format α} (values : Dictionary α)
    (shallow : depth < Json.deepest)
    (back : ∀ entry ∈ values.entries, inner.ComesBack (depth + 1) entry.2) :
    inner.dictionary.ComesBack depth values := by
  choose! tree reads using back
  have decoded (rest : List (String × α)) (part : ∀ entry ∈ rest, entry ∈ values.entries) :
      decodeEntries inner .text (rest.map fun entry => (entry.1, tree entry)) = .ok rest := by
    induction rest with
    | nil => rfl
    | cons entry rest inductionHypothesis =>
      have first := (reads entry (part entry List.mem_cons_self)).2
      have others := inductionHypothesis fun entry member =>
        part entry (List.mem_cons_of_mem _ member)
      simp [decodeEntries, first, others, bind, Except.bind, pure, Except.pure]
  refine ⟨.object (values.entries.map fun entry => (entry.1, tree entry)) none,
    Json.reads_object shallow ?_, ?_⟩
  · rw [Json.MembersReadAs, List.forall₂_map_left_iff, List.forall₂_map_right_iff,
      List.forall₂_same]
    exact fun entry member => ⟨rfl, (reads entry member).1⟩
  · simp [dictionary, decoded values.entries fun _ member => member, Json.close, bind, Except.bind,
      pure, Except.pure, Dictionary.ofList_entries]

end Format

/-! ## Records -/

namespace Record

variable {R : Type} {record : Record R} {value : R} {depth : Nat}

/-- The fields of a record that are not left out come back. -/
def FieldsComeBack (record : Record R) (depth : Nat) (value : R) : Prop :=
  ∀ field ∈ record.fields, field.omits (field.get value) = false →
    field.format.ComesBack depth (field.get value)

/-- A record comes back from an object with the members of its fields, and also with
texts of other names in front.

Proof: each member is read as some tree, and the trees together are decoded to a
record with the same fields. -/
theorem object_comes_back (lawful : record.Lawful) (surplus : List (String × String))
    (distinct : (surplus.map Prod.fst).Nodup)
    (strange : ∀ entry ∈ surplus, ∀ field ∈ record.fields, field.key ≠ entry.1)
    (shallow : depth < Json.deepest) (back : record.FieldsComeBack (depth + 1) value) :
    ∃ trees, Json.ReadsAs depth (Json.object ((surplus.map fun entry =>
        (entry.1, Json.string entry.2)) ++ record.encodedMembers value) none).written
        (.object trees none) ∧
      ∀ repeats, record.decodeObject repeats .text trees none = .ok value := by
  let texts : List (String × Json) := surplus.map fun entry => (entry.1, .string entry.2)
  let members := texts ++ record.encodedMembers value
  have fromText : ∀ member ∈ texts, (∀ field ∈ record.fields, field.key ≠ member.1) ∧
      ∃ text, member.2 = .string text := by
    simp only [texts, List.mem_map]
    rintro _ ⟨entry, listed, rfl⟩
    exact ⟨strange entry listed, entry.2, rfl⟩
  have each : ∀ member ∈ members, ∃ tree, Json.ReadsAs (depth + 1) member.2.written tree ∧
      (∀ field ∈ record.fields, field.key = member.1 →
        field.format.decode .text tree = .ok (field.get value)) ∧
      ((∀ field ∈ record.fields, field.key ≠ member.1) → tree.skipFault = none) := by
    intro member listed
    rcases List.mem_append.mp listed with surplusMember | ownMember
    · obtain ⟨other, text, written⟩ := fromText member surplusMember
      rw [written]
      exact ⟨.string text, Json.reads_string _ text,
        fun field fieldMember same => absurd same (other field fieldMember), fun _ => rfl⟩
    · obtain ⟨field, fieldMember, left, rfl⟩ := (mem_encodedMembers member).mp ownMember
      obtain ⟨tree, reads, decoded⟩ := back field fieldMember left
      refine ⟨tree, reads, fun other otherMember same => ?_, fun other => ?_⟩
      · rwa [lawful.field_unique otherMember fieldMember same]
      · exact absurd rfl (other field fieldMember)
  choose! tree reads decodes passes using each
  let trees := members.map fun member => (member.1, tree member)
  have names : trees.map Prod.fst = members.map Prod.fst := by simp [trees, Function.comp_def]
  have unrepeated : (members.map Prod.fst).Nodup := by
    rw [List.map_append, List.nodup_append]
    refine ⟨by simpa [texts, Function.comp_def] using distinct,
      encodedMembers_names.nodup lawful.distinct, fun name inTexts other inOwn => ?_⟩
    obtain ⟨member, listed, rfl⟩ := List.mem_map.mp inTexts
    obtain ⟨own, ownListed, rfl⟩ := List.mem_map.mp inOwn
    obtain ⟨field, fieldMember, _, rfl⟩ := (mem_encodedMembers own).mp ownListed
    exact ((fromText member listed).1 field fieldMember).symm
  have readsTrees : Json.MembersReadAs (depth + 1) members trees := by
    rw [Json.MembersReadAs, List.forall₂_map_right_iff, List.forall₂_same]
    exact fun member listed => ⟨rfl, reads member listed⟩
  refine ⟨trees, Json.reads_object shallow readsTrees, fun repeats => ?_⟩
  refine decodeObject_of_fields lawful repeats .text value trees (names ▸ unrepeated) ?_ ?_
  · intro field fieldMember
    cases left : field.omits (field.get value) with
    | false =>
      let member := (field.key, field.format.encode (field.get value))
      have listed : member ∈ members :=
        List.mem_append_right _ ((mem_encodedMembers member).mpr ⟨field, fieldMember, left, rfl⟩)
      have found : (field.key, tree member) ∈ trees := List.mem_map.mpr ⟨member, listed, rfl⟩
      rw [FieldFrom, Json.member?_of_mem (names ▸ unrepeated) found]
      exact decodes member listed field fieldMember rfl
    | true =>
      have missing : Json.member? field.key trees = none := by
        refine Json.member?_eq_none.mpr fun item found => ?_
        obtain ⟨⟨key, written⟩, listed, same⟩ := List.mem_map.mp found
        obtain rfl : key = field.key := (Prod.mk.inj same).1
        rcases List.mem_append.mp listed with inTexts | inOwn
        · exact (fromText _ inTexts).1 field fieldMember rfl
        · exact omitted_not_member lawful fieldMember left written inOwn
      rw [FieldFrom, missing]
      exact lawful.omitted field fieldMember _ left
  · intro key item listed other
    obtain ⟨member, memberListed, same⟩ := List.mem_map.mp listed
    obtain ⟨rfl, rfl⟩ := Prod.mk.inj same
    exact passes member memberListed other

/-- A record of this library's own resources comes back if its fields do. -/
theorem format_comesBack (lawful : record.Lawful) (shallow : depth < Json.deepest)
    (back : record.FieldsComeBack (depth + 1) value) : record.format.ComesBack depth value := by
  obtain ⟨trees, reads, decodes⟩ := object_comes_back lawful [] (by simp) (by simp) shallow back
  exact ⟨.object trees none, reads, decodes false⟩

/-- A record of the cluster's core types comes back if its fields do. -/
theorem coreFormat_comesBack (lawful : record.Lawful) (shallow : depth < Json.deepest)
    (back : record.FieldsComeBack (depth + 1) value) : record.coreFormat.ComesBack depth value := by
  obtain ⟨trees, reads, decodes⟩ := object_comes_back lawful [] (by simp) (by simp) shallow back
  exact ⟨.object trees none, reads, decodes true⟩

/-- Null stands for no record. -/
@[simp]
theorem format_refusesNull (record : Record R) : record.format.RefusesNull := by
  simp [Format.RefusesNull, format]

end Record

/-! ## What a stored object holds -/

section Parts

variable {depth : Nat}

/-- References come back. -/
theorem Reference.comesBack (shallow : depth < Json.deepest) (value : Reference) :
    record.format.ComesBack depth value := by
  refine Record.format_comesBack Reference.lawful shallow ?_
  simp [Record.FieldsComeBack, record, Field.optional, Field.elided]

/-- Signature versions come back. -/
theorem SignatureVersion.comesBack (depth : Nat) (value : SignatureVersion) :
    format.ComesBack depth value :=
  Format.comesBack_choice _ _ depth value (by cases value <;> rfl)

/-- Descriptions of S3 buckets come back. -/
theorem S3Protocol.comesBack (shallow : depth < Json.deepest) (value : S3Protocol) :
    record.format.ComesBack depth value := by
  refine Record.format_comesBack S3Protocol.lawful shallow ?_
  simp [Record.FieldsComeBack, record, Field.defaulted, SignatureVersion.comesBack]

/-- Descriptions of Azure containers come back. -/
theorem AzureProtocol.comesBack (shallow : depth < Json.deepest) (value : AzureProtocol) :
    record.format.ComesBack depth value := by
  refine Record.format_comesBack AzureProtocol.lawful shallow ?_
  simp [Record.FieldsComeBack, record, Field.defaulted]

/-- Descriptions of Google buckets come back. -/
theorem GcsProtocol.comesBack (shallow : depth < Json.deepest) (value : GcsProtocol) :
    record.format.ComesBack depth value := by
  refine Record.format_comesBack GcsProtocol.lawful shallow ?_
  simp [Record.FieldsComeBack, record, Field.defaulted]

/-- Descriptions of a bucket's protocols come back, whichever are filled in. -/
theorem Protocol.comesBack (shallow : depth + 1 < Json.deepest) (value : Protocol) :
    record.format.ComesBack depth value := by
  refine Record.format_comesBack Protocol.lawful (by omega) ?_
  simp [Record.FieldsComeBack, record, Field.optional, Field.elided, S3Protocol.comesBack shallow,
    AzureProtocol.comesBack shallow, GcsProtocol.comesBack shallow]

/-- Deletion policies come back. -/
theorem DeletionPolicy.comesBack (depth : Nat) (value : DeletionPolicy) :
    format.ComesBack depth value :=
  Format.comesBack_choice _ _ depth value (by cases value <;> rfl)

/-- Dictionaries of texts come back. -/
theorem texts_comeBack (shallow : depth < Json.deepest) (value : Dictionary String) :
    (Format.dictionary .string).ComesBack depth value :=
  Format.comesBack_dictionary value shallow fun _ _ => Format.comesBack_string _ _

/-- What is wanted of a bucket comes back. -/
theorem BucketSpec.comesBack (shallow : depth + 2 < Json.deepest) (value : BucketSpec) :
    record.format.ComesBack depth value := by
  refine Record.format_comesBack BucketSpec.lawful (by omega) ?_
  have within : depth + 1 < Json.deepest := by omega
  have names := Format.comesBack_list value.allowedNamespaces within fun name _ =>
    Format.comesBack_string _ name
  simp [Record.FieldsComeBack, record, Field.optional, Field.elided, Field.defaulted,
    Reference.comesBack within, Protocol.comesBack shallow, DeletionPolicy.comesBack,
    texts_comeBack within, names]

/-- What is reported of a bucket comes back. -/
theorem BucketStatus.comesBack (shallow : depth < Json.deepest) (value : BucketStatus) :
    record.format.ComesBack depth value := by
  refine Record.format_comesBack BucketStatus.lawful shallow ?_
  simp [Record.FieldsComeBack, record, Field.optional, Field.elided, Field.defaulted]

/-- What is wanted of a grant comes back. -/
theorem BucketAccessSpec.comesBack (shallow : depth + 1 < Json.deepest)
    (value : BucketAccessSpec) : record.format.ComesBack depth value := by
  refine Record.format_comesBack BucketAccessSpec.lawful (by omega) ?_
  simp [Record.FieldsComeBack, record, Field.optional, Field.elided, Field.defaulted,
    Reference.comesBack shallow, texts_comeBack shallow]

/-- What is reported of a grant comes back. -/
theorem BucketAccessStatus.comesBack (shallow : depth < Json.deepest)
    (value : BucketAccessStatus) : record.format.ComesBack depth value := by
  refine Record.format_comesBack BucketAccessStatus.lawful shallow ?_
  simp [Record.FieldsComeBack, record, Field.defaulted]

/-- What a workload asks for comes back. -/
theorem BucketAccessRequestSpec.comesBack (shallow : depth < Json.deepest)
    (value : BucketAccessRequestSpec) : record.format.ComesBack depth value := by
  refine Record.format_comesBack BucketAccessRequestSpec.lawful shallow ?_
  simp [Record.FieldsComeBack, record, Field.defaulted]

/-- What is reported of a request for access comes back. -/
theorem BucketAccessRequestStatus.comesBack (shallow : depth < Json.deepest)
    (value : BucketAccessRequestStatus) : record.format.ComesBack depth value := by
  refine Record.format_comesBack BucketAccessRequestStatus.lawful shallow ?_
  simp [Record.FieldsComeBack, record, Field.defaulted]

/-- What is wanted of a new bucket comes back. -/
theorem BucketRequestSpec.comesBack (shallow : depth < Json.deepest) (value : BucketRequestSpec) :
    record.format.ComesBack depth value := by
  refine Record.format_comesBack BucketRequestSpec.lawful shallow ?_
  simp [Record.FieldsComeBack, record, Field.elided, Field.defaulted]

/-- What is reported of a request for a bucket comes back. -/
theorem BucketRequestStatus.comesBack (shallow : depth < Json.deepest)
    (value : BucketRequestStatus) : record.format.ComesBack depth value := by
  refine Record.format_comesBack BucketRequestStatus.lawful shallow ?_
  simp [Record.FieldsComeBack, record, Field.defaulted]

/-! ## Metadata -/

/-- Owners come back. -/
theorem OwnerReference.comesBack (shallow : depth < Json.deepest) (value : OwnerReference) :
    record.coreFormat.ComesBack depth value := by
  have text (text : String) : ((Format.string).nullAs "").ComesBack (depth + 1) text :=
    Format.comesBack_nullAs Format.string_refusesNull (Format.comesBack_string _ text)
  refine Record.coreFormat_comesBack OwnerReference.lawful shallow ?_
  simp [Record.FieldsComeBack, record, textField, Field.optional, Field.elided, text]

/-- The time of a manager's entry is read from its text, and its tree of fields is
legible and canonical, and is not null. -/
structure ManagedFields.Readable (depth : Nat) (entry : ManagedFields) : Prop where
  time : ∀ time ∈ entry.time, Timestamp.ofText time.text = .ok time
  fields : ∀ tree ∈ entry.fields, tree ≠ .null ∧ Json.Legible depth tree ∧
    tree.canonical = .ok tree

/-- Readable fields of managers come back. A tree of fields that is null would be taken
for none. -/
theorem ManagedFields.comesBack (shallow : depth < Json.deepest) {value : ManagedFields}
    (readable : value.Readable (depth + 1)) : record.coreFormat.ComesBack depth value := by
  have tree : (Format.unstructured.optional).ComesBack (depth + 1) value.fields := by
    cases set : value.fields with
    | none => exact Format.comesBack_none _ _
    | some tree =>
      obtain ⟨notNull, legible, canonical⟩ := readable.fields tree set
      refine ⟨tree, Json.reads_legible _ tree legible, ?_⟩
      cases tree <;> simp_all [Format.optional, Format.unstructured, Except.map]
  have time : ∀ time ∈ value.time, Format.timestamp.ComesBack (depth + 1) time := fun time set =>
    Format.comesBack_timestamp _ time (readable.time time set)
  refine Record.coreFormat_comesBack ManagedFields.lawful shallow ?_
  simp only [Option.mem_def] at time
  simp +contextual [Record.FieldsComeBack, record, Field.optional, Field.elided, tree, time]

/-- The numbers of metadata have 64 bits, its times are read from their texts, and its
managers' fields are readable. -/
structure Metadata.Readable (depth : Nat) (metadata : Metadata) : Prop where
  numbers : ∀ number, metadata.deletionGracePeriodSeconds = some number ∨
    metadata.generation = some number →
    -9223372036854775808 ≤ number ∧ number ≤ 9223372036854775807
  times : ∀ time, metadata.creationTimestamp = some time ∨ metadata.deletionTimestamp = some time →
    Timestamp.ofText time.text = .ok time
  managed : ∀ entries ∈ metadata.managedFields, ∀ entry ∈ entries,
    ManagedFields.Readable (depth + 3) entry

/-- The parts of readable metadata come back. -/
theorem Metadata.fields_comeBack (shallow : depth + 2 < Json.deepest) {value : Metadata}
    (readable : value.Readable depth) : record.FieldsComeBack (depth + 1) value := by
  have within : depth + 1 < Json.deepest := by omega
  have number (number : Int) (set : value.deletionGracePeriodSeconds = some number ∨
      value.generation = some number) : Format.integer.ComesBack (depth + 1) number :=
    Format.comesBack_integer _ number (readable.numbers number set).1
      (readable.numbers number set).2
  have time (time : Timestamp) (set : value.creationTimestamp = some time ∨
      value.deletionTimestamp = some time) : Format.timestamp.ComesBack (depth + 1) time :=
    Format.comesBack_timestamp _ time (readable.times time set)
  have markers (markers : List String) : (Format.list .string).ComesBack (depth + 1) markers :=
    Format.comesBack_list markers within fun marker _ => Format.comesBack_string _ marker
  have owners (owners : List OwnerReference) :
      (Format.list OwnerReference.record.coreFormat).ComesBack (depth + 1) owners :=
    Format.comesBack_list owners within fun owner _ => OwnerReference.comesBack shallow owner
  have managed (entries : List ManagedFields) (set : value.managedFields = some entries) :
      (Format.list ManagedFields.record.coreFormat).ComesBack (depth + 1) entries :=
    Format.comesBack_list entries within fun entry member =>
      ManagedFields.comesBack shallow (readable.managed entries set entry member)
  simp +contextual [Record.FieldsComeBack, record, Field.optional, Field.elided,
    texts_comeBack within, number, time, markers, owners, managed]

/-- Readable metadata comes back. -/
theorem Metadata.comesBack (shallow : depth + 2 < Json.deepest) {value : Metadata}
    (readable : value.Readable depth) : format.ComesBack depth value :=
  Record.coreFormat_comesBack Metadata.lawful (by omega) (fields_comeBack shallow readable)

end Parts

/-! ## Whole documents -/

/-- An object of a custom kind comes back if its three parts do. The members that name
its group, version and kind are passed over. -/
theorem CustomKind.comesBack {Spec Status : Type} {kind : CustomKind Spec Status}
    {object : CustomObject Spec Status} (metadata : Metadata.format.ComesBack 1 object.metadata)
    (spec : kind.spec.format.ComesBack 1 object.spec)
    (status : ∀ status ∈ object.status, kind.status.format.ComesBack 1 status) :
    kind.format.ComesBack 0 object := by
  have fields : kind.envelope.FieldsComeBack 1 object := by
    have reported := Format.comesBack_optional (Record.format_refusesNull _) _ status
    simp [Record.FieldsComeBack, envelope, Field.required, metadata, spec, reported]
  obtain ⟨trees, reads, decodes⟩ := Record.object_comes_back kind.envelope_lawful
    [("apiVersion", apiVersion), ("kind", kind.name)] (by simp)
    (by simp [envelope, Field.required]) (by decide) fields
  exact ⟨.object trees none, reads, decodes false⟩

/-- Every value of the format is read from its own document. -/
def Format.RoundTrips {α : Type} (format : Format α) : Prop :=
  ∀ value, format.ofText (format.toText value) = .ok value

/-- The identifier of a bucket stands under a key with two capitals at its end, where it
is also read. -/
theorem BucketSpec.bucketId_key (spec : BucketSpec) :
    (record.format.encode spec).get? "bucketID" =
        (if spec.bucketId = "" then none else some (.string spec.bucketId)) ∧
      ∀ source members tail, record.format.decode source (.object members tail) = .ok spec →
        Json.member? "bucketID" members = some (.string spec.bucketId) ∨
          Json.member? "bucketID" members = none ∧ spec.bucketId = "" := by
  constructor
  · refine (Record.member?_encodedMembers lawful spec record.fields[0]
      (List.getElem_mem _)).trans ?_
    change (if (spec.bucketId == "") = true then none else some (Json.string spec.bucketId)) = _
    simp
  · intro source members tail decoded
    exact ((Record.decodeObject_ok lawful decoded).2 record.fields[0] (List.getElem_mem _)).text

/-- The project of a Google bucket stands under a key with two capitals at its end, where
it is also read. -/
theorem GcsProtocol.projectId_key (details : GcsProtocol) :
    (record.format.encode details).get? "projectID" = some (.string details.projectId) ∧
      ∀ source members tail, record.format.decode source (.object members tail) = .ok details →
        Json.member? "projectID" members = some (.string details.projectId) ∨
          Json.member? "projectID" members = none ∧ details.projectId = "" := by
  constructor
  · exact Record.member?_encodedMembers lawful details record.fields[2] (List.getElem_mem _)
  · intro source members tail decoded
    exact ((Record.decodeObject_ok lawful decoded).2 record.fields[2] (List.getElem_mem _)).text

/-- Every document that is written of a stored object, of what is wanted of it or reported
of it, of a reference or of a protocol is read back as what it was written of, whatever
texts, lists and dictionaries it holds and whatever is unset in it. Of an object's
metadata it is only asked that it comes back where it stands. The two keys that do not
follow the others' spelling are the ones written and read.

Proof: the parts come back by what was said of their records, and a whole document leaves
room for their nesting. -/
theorem encoded_documents_read_back :
    ((∀ request : BucketAccessRequest, Metadata.format.ComesBack 1 request.metadata →
        BucketAccessRequest.kind.format.ofText (BucketAccessRequest.kind.format.toText request) =
          .ok request) ∧
      (∀ access : BucketAccess, Metadata.format.ComesBack 1 access.metadata →
        BucketAccess.kind.format.ofText (BucketAccess.kind.format.toText access) = .ok access) ∧
      (∀ request : BucketRequest, Metadata.format.ComesBack 1 request.metadata →
        BucketRequest.kind.format.ofText (BucketRequest.kind.format.toText request) =
          .ok request) ∧
      ∀ bucket : Bucket, Metadata.format.ComesBack 1 bucket.metadata →
        Bucket.kind.format.ofText (Bucket.kind.format.toText bucket) = .ok bucket) ∧
    (BucketAccessRequestSpec.record.format.RoundTrips ∧
      BucketAccessRequestStatus.record.format.RoundTrips ∧
      BucketAccessSpec.record.format.RoundTrips ∧ BucketAccessStatus.record.format.RoundTrips ∧
      BucketRequestSpec.record.format.RoundTrips ∧ BucketRequestStatus.record.format.RoundTrips ∧
      BucketSpec.record.format.RoundTrips ∧ BucketStatus.record.format.RoundTrips) ∧
    (Protocol.record.format.RoundTrips ∧ S3Protocol.record.format.RoundTrips ∧
      AzureProtocol.record.format.RoundTrips ∧ GcsProtocol.record.format.RoundTrips ∧
      Reference.record.format.RoundTrips ∧ DeletionPolicy.format.RoundTrips ∧
      SignatureVersion.format.RoundTrips) ∧
    (∀ spec : BucketSpec,
      (BucketSpec.record.format.encode spec).get? "bucketID" =
          (if spec.bucketId = "" then none else some (.string spec.bucketId)) ∧
        ∀ source members tail,
          BucketSpec.record.format.decode source (.object members tail) = .ok spec →
          Json.member? "bucketID" members = some (.string spec.bucketId) ∨
            Json.member? "bucketID" members = none ∧ spec.bucketId = "") ∧
    ∀ details : GcsProtocol,
      (GcsProtocol.record.format.encode details).get? "projectID" =
          some (.string details.projectId) ∧
        ∀ source members tail,
          GcsProtocol.record.format.decode source (.object members tail) = .ok details →
          Json.member? "projectID" members = some (.string details.projectId) ∨
            Json.member? "projectID" members = none ∧ details.projectId = "" := by
  refine ⟨⟨fun request metadata => ?_, fun access metadata => ?_, fun request metadata => ?_,
    fun bucket metadata => ?_⟩, ⟨?_, ?_, ?_, ?_, ?_, ?_, ?_, ?_⟩, ⟨?_, ?_, ?_, ?_, ?_, ?_, ?_⟩,
    BucketSpec.bucketId_key, GcsProtocol.projectId_key⟩
  · exact (CustomKind.comesBack metadata (BucketAccessRequestSpec.comesBack (by decide) _)
      fun status _ => BucketAccessRequestStatus.comesBack (by decide) status).of_document
  · exact (CustomKind.comesBack metadata (BucketAccessSpec.comesBack (by decide) _)
      fun status _ => BucketAccessStatus.comesBack (by decide) status).of_document
  · exact (CustomKind.comesBack metadata (BucketRequestSpec.comesBack (by decide) _)
      fun status _ => BucketRequestStatus.comesBack (by decide) status).of_document
  · exact (CustomKind.comesBack metadata (BucketSpec.comesBack (by decide) _)
      fun status _ => BucketStatus.comesBack (by decide) status).of_document
  · exact fun spec => (BucketAccessRequestSpec.comesBack (by decide) spec).of_document
  · exact fun status => (BucketAccessRequestStatus.comesBack (by decide) status).of_document
  · exact fun spec => (BucketAccessSpec.comesBack (by decide) spec).of_document
  · exact fun status => (BucketAccessStatus.comesBack (by decide) status).of_document
  · exact fun spec => (BucketRequestSpec.comesBack (by decide) spec).of_document
  · exact fun status => (BucketRequestStatus.comesBack (by decide) status).of_document
  · exact fun spec => (BucketSpec.comesBack (by decide) spec).of_document
  · exact fun status => (BucketStatus.comesBack (by decide) status).of_document
  · exact fun protocol => (Protocol.comesBack (by decide) protocol).of_document
  · exact fun details => (S3Protocol.comesBack (by decide) details).of_document
  · exact fun details => (AzureProtocol.comesBack (by decide) details).of_document
  · exact fun details => (GcsProtocol.comesBack (by decide) details).of_document
  · exact fun reference => (Reference.comesBack (by decide) reference).of_document
  · exact fun policy => (DeletionPolicy.comesBack 0 policy).of_document
  · exact fun version => (SignatureVersion.comesBack 0 version).of_document

/-- Metadata with a marker, a label, an owner and the fields of a manager. -/
def managedMetadata : Metadata :=
  { Metadata.empty with
    creationTimestamp := some ⟨2022, 5, 17, 9, 30, 0⟩
    finalizers := some ["protection"]
    generation := some 3
    labels := some (Dictionary.ofList [("tier", "")])
    managedFields := some [⟨some "v1", none, some (.object [("f:spec", .object [] none)] none),
      some "controller", some "Update", none, some ⟨2022, 5, 17, 9, 31, 0⟩⟩]
    name := some "grant"
    ownerReferences := some [⟨"v1", some true, none, "Pod", "uploader", "7f3a"⟩] }

/-- A grant whose metadata is full and whose texts need escapes is read back. -/
theorem managed_grant_reads_back :
    let access : BucketAccess :=
      ⟨managedMetadata, { BucketAccessSpec.record.initial with principal := "\u0000\"é" },
        some ⟨false⟩⟩
    Metadata.format.ComesBack 1 access.metadata ∧
      BucketAccess.kind.format.ofText (BucketAccess.kind.format.toText access) = .ok access := by
  intro access
  have metadata : Metadata.format.ComesBack 1 access.metadata := by
    refine Metadata.comesBack (by decide) ⟨?_, ?_, ?_⟩
    · intro number set
      simp [access, managedMetadata, Metadata.empty] at set
      omega
    · intro time set
      simp only [access, managedMetadata, Metadata.empty, Option.some.injEq, reduceCtorEq,
        or_false] at set
      subst set
      rfl
    · intro entries set entry member
      obtain rfl := Option.mem_some.mp set
      obtain rfl := List.mem_singleton.mp member
      refine ⟨?_, ?_⟩
      · intro time set
        obtain rfl := Option.mem_some.mp set
        rfl
      · intro tree set
        obtain rfl := Option.mem_some.mp set
        exact ⟨by simp, by simp [Json.Legible, Json.LegibleMembers, Json.deepest], rfl⟩
  exact ⟨metadata, encoded_documents_read_back.1.2.1 access metadata⟩

end BucketMount
