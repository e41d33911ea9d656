import BucketMount.Format.Document
import BucketMount.Manifest
import BucketMount.Proofs.AdmittedTrees

/-!
# Documents that a manifest admits

A cluster that was told of a custom kind by its manifest checks every object against the
schema there, and a node decodes the objects that it gets. Both are made from one
description, but each in its own way: what may be missing is a default to the decoder and
an absence from a list to the schema, and what may be unset is a null that the one takes
and the other permits. `Format.Agrees` says that they come to the same for one format, and
each way of building a format keeps it. `manifests_agree_with_decoder` says it of the whole
documents of all kinds.

Metadata is not described in a manifest, so of it only its decoding is assumed. Documents
that a decoder takes although no schema admits them, such as records written as lists, are
not told of.
-/

namespace BucketMount

/-! ## Well-formed trees -/

namespace Json

mutual

/-- True if no object in the tree has two members of one name. -/
def unrepeated : Json → Bool
  | .array items _ => areUnrepeated items
  | .object members _ => decide (members.map Prod.fst).Nodup && haveUnrepeated members
  | _ => true

/-- True if no item repeats a name. -/
def areUnrepeated : List Json → Bool
  | [] => true
  | item :: rest => unrepeated item && areUnrepeated rest

/-- True if no member's value repeats a name. -/
def haveUnrepeated : List (String × Json) → Bool
  | [] => true
  | (_, item) :: rest => unrepeated item && haveUnrepeated rest

end

/-- A tree of a document that can be passed over without a fault, and whose objects do not
repeat names. -/
structure WellFormed (tree : Json) : Prop where
  passes : tree.skipFault = none
  unrepeated : tree.unrepeated = true

/-- The items of a well-formed list are well-formed. -/
theorem WellFormed.items {items : List Json} {tail : Option Fault}
    (wellFormed : (array items tail).WellFormed) : ∀ item ∈ items, item.WellFormed := by
  obtain ⟨passes, unrepeated⟩ := wellFormed
  rw [skipFault, Option.or_eq_none_iff] at passes
  rw [Json.unrepeated] at unrepeated
  replace passes := passes.1
  induction items with
  | nil => simp
  | cons item rest inductionHypothesis =>
    rw [skipItems, Option.or_eq_none_iff] at passes
    rw [areUnrepeated, Bool.and_eq_true] at unrepeated
    rw [List.forall_mem_cons]
    exact ⟨⟨passes.1, unrepeated.1⟩, inductionHypothesis unrepeated.2 passes.2⟩

/-- A well-formed object does not repeat a name, and its members' values are well-formed. -/
theorem WellFormed.members {members : List (String × Json)} {tail : Option Fault}
    (wellFormed : (object members tail).WellFormed) :
    (members.map Prod.fst).Nodup ∧ ∀ member ∈ members, member.2.WellFormed := by
  obtain ⟨passes, unrepeated⟩ := wellFormed
  rw [skipFault, Option.or_eq_none_iff] at passes
  rw [Json.unrepeated, Bool.and_eq_true, decide_eq_true_eq] at unrepeated
  obtain ⟨distinct, unrepeated⟩ := unrepeated
  replace passes := passes.1
  refine ⟨distinct, ?_⟩
  clear distinct
  induction members with
  | nil => simp
  | cons member rest inductionHypothesis =>
    rw [skipMembers, Option.or_eq_none_iff] at passes
    rw [haveUnrepeated, Bool.and_eq_true] at unrepeated
    rw [List.forall_mem_cons]
    exact ⟨⟨passes.1, unrepeated.1⟩, inductionHypothesis unrepeated.2 passes.2⟩

end Json

/-! ## Formats that agree with their schemas -/

namespace Format

variable {α : Type}

/-- The decoder takes every tree that the schema admits, and the schema admits every tree
that is written. -/
structure Agrees (format : Format α) : Prop where
  decoded (source : Source) (tree : Json) : tree.WellFormed →
    format.schema.tree.admits tree = true → ∃ value, format.decode source tree = .ok value
  encoded (value : α) : format.schema.tree.admits (format.encode value) = true

/-- Texts agree with their schema. -/
@[simp]
theorem string_agrees : string.Agrees where
  decoded source tree _ admitted := by
    obtain ⟨text, rfl⟩ := (Schema.admits_string tree).mp admitted
    exact ⟨text, rfl⟩
  encoded text := (Schema.admits_string _).mpr ⟨text, rfl⟩

/-- Flags agree with their schema. -/
@[simp]
theorem boolean_agrees : boolean.Agrees where
  decoded source tree _ admitted := by
    obtain ⟨flag, rfl⟩ := (Schema.admits_boolean tree).mp admitted
    exact ⟨flag, rfl⟩
  encoded flag := (Schema.admits_boolean _).mpr ⟨flag, rfl⟩

/-- A choice agrees with its schema if every value goes by a name of the choice. -/
theorem choice_agrees (variants : List (String × α)) (name : α → String)
    (named : ∀ value, name value ∈ variants.map Prod.fst) : (choice variants name).Agrees where
  decoded source tree _ admitted := by
    obtain ⟨text, listed, rfl⟩ := (Schema.admits_choice tree _).mp admitted
    have found : (variants.find? fun variant => variant.1 == text).isSome = true := by
      obtain ⟨variant, member, rfl⟩ := List.mem_map.mp listed
      exact List.find?_isSome.mpr ⟨variant, member, beq_self_eq_true _⟩
    obtain ⟨variant, chosen⟩ := Option.isSome_iff_exists.mp found
    refine ⟨variant.2, ?_⟩
    simp only [choice, decodeVariant, variantNamed, chosen]
  encoded value := (Schema.admits_choice _ _).mpr ⟨name value, named value, rfl⟩

/-- A value that may be unset agrees with its schema if the value does. -/
@[simp]
theorem optional_agrees {inner : Format α} (agrees : inner.Agrees) : inner.optional.Agrees where
  decoded source tree wellFormed admitted := by
    by_cases null : tree = .null
    · exact ⟨none, (optional_decode_iff inner source tree none).mpr (.inl ⟨null, rfl⟩)⟩
    · have rest := ((Schema.admits_nullable inner.schema tree).mp admitted).resolve_left null
      obtain ⟨value, decoded⟩ := agrees.decoded source tree wellFormed rest
      exact ⟨some value, (optional_decode_iff inner source tree _).mpr
        (.inr ⟨null, value, decoded, rfl⟩)⟩
  encoded value := by
    refine (Schema.admits_nullable inner.schema _).mpr ?_
    cases value with
    | none => exact .inl rfl
    | some value => exact .inr (agrees.encoded value)

/-- Lists agree with their schema if their items do. -/
@[simp]
theorem list_agrees {inner : Format α} (agrees : inner.Agrees) : inner.list.Agrees where
  decoded source tree wellFormed admitted := by
    obtain ⟨items, rfl, each⟩ := (Schema.admits_list tree inner.schema).mp admitted
    have itemwise : ∃ values, decodeItems inner source items = .ok values := by
      have sound := wellFormed.items
      clear wellFormed admitted
      induction items with
      | nil => exact ⟨[], rfl⟩
      | cons item rest inductionHypothesis =>
        rw [List.forall_mem_cons] at each sound
        obtain ⟨value, first⟩ := agrees.decoded source item sound.1 each.1
        obtain ⟨values, others⟩ := inductionHypothesis each.2 sound.2
        refine ⟨value :: values, ?_⟩
        rw [decodeItems, first, others]
        rfl
    obtain ⟨values, decoded⟩ := itemwise
    refine ⟨values, ?_⟩
    simp only [list, decoded]
    rfl
  encoded values := by
    refine (Schema.admits_list _ inner.schema).mpr ⟨values.map inner.encode, rfl, ?_⟩
    simp [agrees.encoded]

/-- Dictionaries agree with their schema if their values do. -/
@[simp]
theorem dictionary_agrees {inner : Format α} (agrees : inner.Agrees) :
    inner.dictionary.Agrees where
  decoded source tree wellFormed admitted := by
    obtain ⟨members, rfl, each⟩ := (Schema.admits_dictionary tree inner.schema).mp admitted
    have entrywise : ∃ entries, decodeEntries inner source members = .ok entries := by
      have sound := wellFormed.members.2
      clear wellFormed admitted
      induction members with
      | nil => exact ⟨[], rfl⟩
      | cons member rest inductionHypothesis =>
        rw [List.forall_mem_cons] at each sound
        obtain ⟨value, first⟩ := agrees.decoded source member.2 sound.1 each.1
        obtain ⟨entries, others⟩ := inductionHypothesis each.2 sound.2
        refine ⟨(member.1, value) :: entries, ?_⟩
        rw [decodeEntries, first, others]
        rfl
    obtain ⟨entries, decoded⟩ := entrywise
    refine ⟨Dictionary.ofList entries, ?_⟩
    simp only [dictionary, decoded]
    rfl
  encoded values := by
    refine (Schema.admits_dictionary _ inner.schema).mpr ⟨_, rfl, fun member listed => ?_⟩
    obtain ⟨entry, _, rfl⟩ := List.mem_map.mp listed
    exact agrees.encoded entry.2

end Format

/-! ## Records -/

/-- The description and the default of a field make no difference to what is admitted. -/
theorem Field.admits_schema {R : Type} (field : Field R) (tree : Json) :
    field.schema.tree.admits tree = field.format.schema.tree.admits tree := by
  simp only [schema]
  cases field.absent with
  | none => cases field.description <;> simp
  | some value =>
    by_cases left : field.omits value = true <;> cases field.description <;> simp [left]

namespace Record

variable {R : Type} {record : Record R}

/-- The schema of a record admits the objects that have a member for each field that has to
be there, and whose members are admitted by the fields of their names. -/
theorem admits_iff (lawful : record.Lawful) (tree : Json) :
    record.schema.tree.admits tree = true ↔ ∃ members, tree = .object members none ∧
      (∀ field ∈ record.fields, field.absent = none → field.key ∈ members.map Prod.fst) ∧
      ∀ member ∈ members, ∀ field ∈ record.fields, field.key = member.1 →
        field.format.schema.tree.admits member.2 = true := by
  have plain : record.schema.tree.admits tree =
      (Schema.record record.properties ((record.fields.filter fun field =>
        field.absent.isNone).map Field.key)).tree.admits tree := by
    rw [schema]
    cases record.description <;> simp
  rw [plain, Schema.admits_record]
  refine exists_congr fun members => and_congr_right fun _ => and_congr ?_ ?_
  · simp only [List.mem_map, List.mem_filter, Option.isNone_iff_eq_none]
    constructor
    · intro complete field listed required
      exact complete field.key ⟨field, ⟨listed, required⟩, rfl⟩
    · rintro complete _ ⟨field, ⟨listed, required⟩, rfl⟩
      exact complete field listed required
  · refine forall_congr' fun member => forall_congr' fun _ => ?_
    -- The property of a name belongs to the one field with this key.
    rw [properties, List.find?_map]
    constructor
    · intro admitted field listed same
      have found : (record.fields.find? fun field => field.key == member.1) = some field := by
        cases search : record.fields.find? fun field => field.key == member.1 with
        | none => exact absurd same (by simpa using List.find?_eq_none.mp search field listed)
        | some other =>
          have called : other.key = member.1 := by simpa using List.find?_some search
          rw [lawful.field_unique (List.mem_of_find?_eq_some search) listed
            (called.trans same.symm)]
      rw [← field.admits_schema]
      exact admitted (field.key, field.schema)
        (congrArg (Option.map fun field => (field.key, field.schema)) found)
    · intro admitted property found
      obtain ⟨field, search, rfl⟩ := Option.map_eq_some_iff.mp found
      rw [field.admits_schema]
      exact admitted field (List.mem_of_find?_eq_some search) (by simpa using List.find?_some search)

/-- A record agrees with its schema if its fields do.

Proof: an admitted object has all members that have to be there, and each member of a field
is admitted by it. In the other direction only members with a default are left out. -/
theorem format_agrees (lawful : record.Lawful)
    (fields : ∀ field ∈ record.fields, field.format.Agrees) : record.format.Agrees where
  decoded source tree wellFormed admitted := by
    obtain ⟨members, rfl, complete, each⟩ := (admits_iff lawful tree).mp admitted
    obtain ⟨distinct, sound⟩ := wellFormed.members
    refine decodeObject_passes lawful false source members distinct ?_ ?_ complete
    · intro field listed item member
      exact (fields field listed).decoded source item (sound _ member)
        (each _ member field listed rfl)
    · exact fun key item member _ => (sound _ member).passes
  encoded value := by
    refine (admits_iff lawful _).mpr ⟨record.encodedMembers value, rfl, ?_, ?_⟩
    · intro field listed required
      cases left : field.omits (field.get value) with
      | true =>
        rw [lawful.omitted field listed _ left] at required
        cases required
      | false =>
        exact List.mem_map.mpr ⟨_, (mem_encodedMembers _).mpr ⟨field, listed, left, rfl⟩, rfl⟩
    · intro member written field listed same
      obtain ⟨other, otherListed, _, rfl⟩ := (mem_encodedMembers member).mp written
      obtain rfl := lawful.field_unique listed otherListed same
      exact (fields field listed).encoded _

end Record

/-- References agree with their schema. -/
@[simp]
theorem Reference.agrees : Reference.record.format.Agrees :=
  Record.format_agrees lawful (by simp [record, Field.optional, Field.elided])

/-- Signature versions agree with their schema. -/
@[simp]
theorem SignatureVersion.agrees : SignatureVersion.format.Agrees :=
  Format.choice_agrees _ _ fun version => by cases version <;> decide

/-- Descriptions of S3 buckets agree with their schema. -/
@[simp]
theorem S3Protocol.agrees : S3Protocol.record.format.Agrees :=
  Record.format_agrees lawful (by simp [record, Field.defaulted])

/-- Descriptions of Azure containers agree with their schema. -/
@[simp]
theorem AzureProtocol.agrees : AzureProtocol.record.format.Agrees :=
  Record.format_agrees lawful (by simp [record, Field.defaulted])

/-- Descriptions of Google buckets agree with their schema. -/
@[simp]
theorem GcsProtocol.agrees : GcsProtocol.record.format.Agrees :=
  Record.format_agrees lawful (by simp [record, Field.defaulted])

/-- Descriptions of a bucket's protocols agree with their schema. -/
@[simp]
theorem Protocol.agrees : Protocol.record.format.Agrees :=
  Record.format_agrees lawful (by simp [record, Field.optional, Field.elided])

/-- Deletion policies agree with their schema. -/
@[simp]
theorem DeletionPolicy.agrees : DeletionPolicy.format.Agrees :=
  Format.choice_agrees _ _ fun policy => by cases policy <;> decide

/-- What is wanted of a bucket agrees with its schema. -/
theorem BucketSpec.agrees : BucketSpec.record.format.Agrees :=
  Record.format_agrees lawful (by simp [record, Field.optional, Field.elided, Field.defaulted])

/-- What is reported of a bucket agrees with its schema. -/
theorem BucketStatus.agrees : BucketStatus.record.format.Agrees :=
  Record.format_agrees lawful (by simp [record, Field.optional, Field.elided, Field.defaulted])

/-- What is wanted of a grant agrees with its schema. -/
theorem BucketAccessSpec.agrees : BucketAccessSpec.record.format.Agrees :=
  Record.format_agrees lawful (by simp [record, Field.optional, Field.elided, Field.defaulted])

/-- What is reported of a grant agrees with its schema. -/
theorem BucketAccessStatus.agrees : BucketAccessStatus.record.format.Agrees :=
  Record.format_agrees lawful (by simp [record, Field.defaulted])

/-- What a workload asks for agrees with its schema. -/
theorem BucketAccessRequestSpec.agrees : BucketAccessRequestSpec.record.format.Agrees :=
  Record.format_agrees lawful (by simp [record, Field.defaulted])

/-- What is reported of a request for access agrees with its schema. -/
theorem BucketAccessRequestStatus.agrees : BucketAccessRequestStatus.record.format.Agrees :=
  Record.format_agrees lawful (by simp [record, Field.defaulted])

/-- What is wanted of a new bucket agrees with its schema. -/
theorem BucketRequestSpec.agrees : BucketRequestSpec.record.format.Agrees :=
  Record.format_agrees lawful (by simp [record, Field.elided, Field.defaulted])

/-- What is reported of a request for a bucket agrees with its schema. -/
theorem BucketRequestStatus.agrees : BucketRequestStatus.record.format.Agrees :=
  Record.format_agrees lawful (by simp [record, Field.defaulted])

/-! ## Manifests -/

/-- The members of an object with its members in ascending order, of several with one name
the last. -/
theorem get?_ascending (members : List (String × Json)) (key : String) :
    (ascending members).get? key = Dictionary.lastValue key none members := by
  rw [ascending, Dictionary.get?_entries, Dictionary.get?_ofList]

/-- The schema of the one version that a manifest tells of. -/
def servedSchema? (manifest : Json) : Option Json :=
  match manifest.at? ["spec", "versions"] with
  | some (.array [version] _) => version.at? ["schema", "openAPIV3Schema"]
  | _ => none

/-- True if a cluster with this manifest admits the document. -/
def served (manifest tree : Json) : Bool :=
  (servedSchema? manifest).any fun schema => schema.admits tree

namespace CustomKind

variable {Spec Status : Type} (kind : CustomKind Spec Status)

/-- A cluster checks documents against the declared schema of their kind. -/
theorem served_eq (tree : Json) :
    served kind.manifest tree = kind.declaredSchema.tree.admits tree := by
  have schema : kind.versionTree.at? ["schema", "openAPIV3Schema"] =
      some kind.declaredSchema.tree := by
    simp [Json.at?_two, versionTree, get?_ascending, Dictionary.lastValue]
  have versions : kind.manifest.at? ["spec", "versions"] =
      some (.array [kind.versionTree] none) := by
    simp [Json.at?_two, manifest, get?_ascending, Dictionary.lastValue]
  rw [served, servedSchema?, versions]
  simp only [schema, Option.any_some]

/-- A manifest admits the objects with an admitted specification, and with an admitted
status or null if there is one. -/
theorem served_iff (tree : Json) :
    served kind.manifest tree = true ↔ ∃ members, tree = .object members none ∧
      "spec" ∈ members.map Prod.fst ∧
      (∀ item, ("spec", item) ∈ members → kind.spec.schema.tree.admits item = true) ∧
      ∀ item, ("status", item) ∈ members →
        item = .null ∨ kind.status.schema.tree.admits item = true := by
  rw [served_eq, declaredSchema, Schema.admits_titled, Schema.admits_described, schema,
    Schema.admits_record]
  refine exists_congr fun members => and_congr_right fun _ => and_congr (by simp) ?_
  simp only [← Schema.admits_nullable]
  constructor
  · exact fun admitted => ⟨fun item listed => admitted _ listed ("spec", kind.spec.schema) rfl,
      fun item listed => admitted _ listed ("status", .nullable kind.status.schema) rfl⟩
  · rintro ⟨spec, status⟩ ⟨key, item⟩ listed property found
    by_cases wanted : key = "spec"
    · subst wanted
      obtain rfl : ("spec", kind.spec.schema) = property := Option.some.inj found
      exact spec item listed
    by_cases reported : key = "status"
    · subst reported
      obtain rfl : ("status", Schema.nullable kind.status.schema) = property :=
        Option.some.inj found
      exact status item listed
    · simp [Ne.symm wanted, Ne.symm reported] at found

/-- The manifest of a kind and its format agree. Every well-formed document that the manifest
admits and whose metadata is decoded is decoded as an object of the kind, also from its
text; and the manifest admits the document of every object. -/
structure ManifestAgrees : Prop where
  decoded (source : Source) (tree : Json) : tree.WellFormed → served kind.manifest tree = true →
    (∃ item metadata, tree.get? "metadata" = some item ∧
      Metadata.format.decode source item = .ok metadata) →
    ∃ object, kind.format.decode source tree = .ok object
  read (text : String) (tree : Json) (rest : List Char) : Json.read text = (tree, rest) →
    Json.finish rest = .ok () → tree.WellFormed → served kind.manifest tree = true →
    (∃ item metadata, tree.get? "metadata" = some item ∧
      Metadata.format.decode .text item = .ok metadata) →
    ∃ object, kind.format.ofText text = .ok object
  encoded (object : CustomObject Spec Status) :
    served kind.manifest (kind.format.encode object) = true

/-- Every kind whose specification and status agree with their schemas has a manifest that
agrees.

Proof: the members of an admitted document are its metadata, which is decoded, a
specification and a status that are admitted, and others that are passed over. -/
theorem manifest_agrees (spec : kind.spec.format.Agrees) (status : kind.status.format.Agrees) :
    kind.ManifestAgrees := by
  have decoded (source : Source) (tree : Json) (wellFormed : tree.WellFormed)
      (admitted : served kind.manifest tree = true)
      (described : ∃ item metadata, tree.get? "metadata" = some item ∧
        Metadata.format.decode source item = .ok metadata) :
      ∃ object, kind.format.decode source tree = .ok object := by
    obtain ⟨members, rfl, wanted, specs, statuses⟩ := (kind.served_iff tree).mp admitted
    obtain ⟨item, metadata, found, described⟩ := described
    obtain ⟨distinct, sound⟩ := wellFormed.members
    refine Record.decodeObject_passes kind.envelope_lawful false source members distinct ?_
      (fun key item member _ => (sound _ member).passes) ?_
    · intro field listed part member
      simp only [envelope, List.mem_cons, List.not_mem_nil, or_false] at listed
      rcases listed with rfl | rfl | rfl
      · obtain rfl : part = item :=
          Option.some.inj ((Json.member?_of_mem distinct member).symm.trans found)
        exact ⟨metadata, described⟩
      · exact spec.decoded source part (sound _ member) (specs part member)
      · exact (Format.optional_agrees status).decoded source part (sound _ member)
          ((Schema.admits_nullable _ part).mpr (statuses part member))
    · intro field listed required
      simp only [envelope, List.mem_cons, List.not_mem_nil, or_false] at listed
      rcases listed with rfl | rfl | rfl
      · exact List.mem_map.mpr ⟨_, Json.mem_of_member? found, rfl⟩
      · exact wanted
      · cases required
  refine ⟨decoded, fun text tree rest reads finished wellFormed admitted described => ?_,
    fun object => ?_⟩
  · obtain ⟨object, passed⟩ := decoded .text tree wellFormed admitted described
    refine ⟨object, ?_⟩
    simp only [Format.ofText, reads, passed, finished]
    rfl
  · refine (kind.served_iff _).mpr ⟨_, rfl, ?_, ?_, ?_⟩
    · simp [Record.encodedMembers, envelope, Field.required, Field.member?]
    · intro item listed
      have written : item = kind.spec.format.encode object.spec := by
        simpa [Record.encodedMembers, envelope, Field.required, Field.member?] using listed
      rw [written]
      exact spec.encoded object.spec
    · intro item listed
      obtain ⟨_, _, reported⟩ := object
      cases reported with
      | none => simp [Record.encodedMembers, envelope, Field.required, Field.member?] at listed
      | some reported =>
        have written : item = kind.status.format.encode reported := by
          simpa [Record.encodedMembers, envelope, Field.required, Field.member?, Format.optional]
            using listed
        rw [written]
        exact .inr (status.encoded reported)

end CustomKind

/-- The manifests of the four kinds and their formats agree. A document that a manifest admits,
that is well-formed and whose metadata is decoded is decoded as an object of its kind,
whatever else it says; and whatever object is written, its manifest admits the document.

Proof: the formats of all specifications and statuses are built in ways that agree with the
schemas that are built along with them. -/
theorem manifests_agree_with_decoder :
    BucketAccessRequest.kind.ManifestAgrees ∧ BucketAccess.kind.ManifestAgrees ∧
      BucketRequest.kind.ManifestAgrees ∧ Bucket.kind.ManifestAgrees :=
  ⟨CustomKind.manifest_agrees _ BucketAccessRequestSpec.agrees BucketAccessRequestStatus.agrees,
    CustomKind.manifest_agrees _ BucketAccessSpec.agrees BucketAccessStatus.agrees,
    CustomKind.manifest_agrees _ BucketRequestSpec.agrees BucketRequestStatus.agrees,
    CustomKind.manifest_agrees _ BucketSpec.agrees BucketStatus.agrees⟩

/-- The document of a bucket with one protocol filled in and another one null, without most of
its fields, with a member that nobody knows, and with nothing reported. -/
def sparseBucket : Json :=
  .object [("apiVersion", .string CustomKind.apiVersion), ("kind", .string Bucket.kind.name),
    ("metadata", .object [("name", .string "uploads")] none),
    ("spec", .object [
      ("protocol", .object [
        ("s3", .null), ("gcs", .object [("projectID", .string "p1")] none)] none),
      ("deletionPolicy", .string "Delete"),
      ("surplus", .array [.number (.whole 1)] none)] none),
    ("status", .null)] none

/-- A bucket's manifest admits this document, so it is decoded, and what is written of the
bucket is admitted again. -/
theorem sparse_bucket_decoded :
    sparseBucket.WellFormed ∧ served Bucket.kind.manifest sparseBucket = true ∧
      ∃ bucket, Bucket.kind.format.decode .text sparseBucket = .ok bucket ∧
        served Bucket.kind.manifest (Bucket.kind.format.encode bucket) = true := by
  obtain ⟨_, _, _, agrees⟩ := manifests_agree_with_decoder
  have wellFormed : sparseBucket.WellFormed := ⟨by decide, by decide⟩
  have admitted : served Bucket.kind.manifest sparseBucket = true := by decide +kernel
  obtain ⟨bucket, decoded⟩ := agrees.decoded .text sparseBucket wellFormed admitted
    ⟨_, { Metadata.empty with name := some "uploads" }, rfl, rfl⟩
  exact ⟨wellFormed, admitted, bucket, decoded, agrees.encoded bucket⟩

end BucketMount
