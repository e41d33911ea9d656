import BucketMount.Cluster.Direct
import BucketMount.Proofs.LinkGates
import BucketMount.Proofs.SurplusMembers

/-!
# Documents that say the same

A node does not look at the order of members, and it overlooks members that it does not know.
`CustomKind.Alike` takes two trees for the same if nothing but these tells them apart. From
trees that are alike one object is decoded or none, also where they stand in texts, so two
clusters whose documents are alike come to the same verdict at every gate;
`alike_documents_decoded` says so of all four kinds.

A repeated name would tell the order of members, and a document at fault has to be at fault
for everybody. So the one document repeats no name, and the other one can be passed over from
its beginning to its end.
-/

namespace BucketMount

/-! ## Formats that tolerate both -/

namespace Format

variable {α : Type}

/-- A format overlooks surplus members and does not look at the order of the others. -/
structure Tolerant (format : Format α) : Prop where
  overlooks : format.Overlooks
  orderFree : format.OrderFree

/-- The same values are decoded from two trees that differ in surplus members and in the order
of the others at most.

Proof: on both sides the surplus members make no difference, and what is left of the one tree
is reordered to what is left of the other. -/
theorem Tolerant.decode_iff {format : Format α} (tolerant : format.Tolerant) (source : Source)
    {left right : Json} (wellFormed : left.WellFormed) (passes : right.skipFault = none)
    (reordered : (format.schema.core left).Reordered (format.schema.core right)) (value : α) :
    format.decode source left = .ok value ↔ format.decode source right = .ok value := by
  rw [← tolerant.overlooks source left wellFormed.passes,
    ← tolerant.overlooks source right passes]
  exact tolerant.orderFree source _ (format.schema.core_wellFormed wellFormed) _ reordered value

/-- Texts are decoded tolerantly. -/
@[simp]
theorem string_tolerant : string.Tolerant :=
  ⟨overlooks_of_core fun _ => rfl, string_orderFree⟩

/-- Flags are decoded tolerantly. -/
@[simp]
theorem boolean_tolerant : boolean.Tolerant :=
  ⟨overlooks_of_core fun _ => rfl, boolean_orderFree⟩

/-- Whole numbers are decoded tolerantly. -/
@[simp]
theorem integer_tolerant : integer.Tolerant :=
  ⟨overlooks_of_core fun _ => rfl, integer_orderFree⟩

/-- Points in time are decoded tolerantly. -/
@[simp]
theorem timestamp_tolerant : timestamp.Tolerant :=
  ⟨overlooks_of_core fun _ => rfl, timestamp_orderFree⟩

/-- Trees of any shape are decoded tolerantly; no member of theirs is surplus. -/
@[simp]
theorem unstructured_tolerant : unstructured.Tolerant :=
  ⟨overlooks_of_core fun _ => rfl, unstructured_orderFree⟩

/-- Choices are decoded tolerantly. -/
theorem choice_tolerant (variants : List (String × α)) (name : α → String) :
    (choice variants name).Tolerant :=
  ⟨overlooks_of_core fun _ => rfl, choice_orderFree variants name⟩

/-- A value that may be unset is decoded tolerantly if the value is. -/
@[simp]
theorem optional_tolerant {inner : Format α} (tolerant : inner.Tolerant) :
    inner.optional.Tolerant :=
  ⟨optional_overlooks tolerant.overlooks, optional_orderFree tolerant.orderFree⟩

/-- A value for which null stands for a default is decoded tolerantly if the value is. -/
@[simp]
theorem nullAs_tolerant (absent : α) {inner : Format α} (tolerant : inner.Tolerant) :
    (nullAs absent inner).Tolerant :=
  ⟨nullAs_overlooks absent tolerant.overlooks, nullAs_orderFree absent tolerant.orderFree⟩

/-- Lists are decoded tolerantly if their items are. -/
@[simp]
theorem list_tolerant {inner : Format α} (tolerant : inner.Tolerant) : inner.list.Tolerant :=
  ⟨list_overlooks tolerant.overlooks, list_orderFree tolerant.orderFree⟩

/-- Dictionaries are decoded tolerantly if their values are. -/
@[simp]
theorem dictionary_tolerant {inner : Format α} (tolerant : inner.Tolerant) :
    inner.dictionary.Tolerant :=
  ⟨dictionary_overlooks tolerant.overlooks, dictionary_orderFree tolerant.orderFree⟩

end Format

/-! ## Records that tolerate both -/

/-- Records of the library's own resources are decoded tolerantly if their fields are. -/
theorem Record.format_tolerant {R : Type} {record : Record R} (lawful : record.Lawful)
    (fields : ∀ field ∈ record.fields, field.format.Tolerant) : record.format.Tolerant :=
  ⟨format_overlooks fun field listed => (fields field listed).overlooks,
    format_orderFree lawful fun field listed => (fields field listed).orderFree⟩

/-- Core types of the cluster are decoded tolerantly if their fields are. -/
theorem Record.coreFormat_tolerant {R : Type} {record : Record R} (lawful : record.Lawful)
    (fields : ∀ field ∈ record.fields, field.format.Tolerant) : record.coreFormat.Tolerant :=
  ⟨coreFormat_overlooks fun field listed => (fields field listed).overlooks,
    coreFormat_orderFree lawful fun field listed => (fields field listed).orderFree⟩

/-- References are decoded tolerantly. -/
@[simp]
theorem Reference.tolerant : Reference.record.format.Tolerant :=
  Record.format_tolerant lawful (by simp [record, Field.optional, Field.elided])

/-- Signature versions are decoded tolerantly. -/
@[simp]
theorem SignatureVersion.tolerant : SignatureVersion.format.Tolerant :=
  Format.choice_tolerant _ _

/-- Descriptions of S3 buckets are decoded tolerantly. -/
@[simp]
theorem S3Protocol.tolerant : S3Protocol.record.format.Tolerant :=
  Record.format_tolerant lawful (by simp [record, Field.defaulted])

/-- Descriptions of Azure containers are decoded tolerantly. -/
@[simp]
theorem AzureProtocol.tolerant : AzureProtocol.record.format.Tolerant :=
  Record.format_tolerant lawful (by simp [record, Field.defaulted])

/-- Descriptions of Google buckets are decoded tolerantly. -/
@[simp]
theorem GcsProtocol.tolerant : GcsProtocol.record.format.Tolerant :=
  Record.format_tolerant lawful (by simp [record, Field.defaulted])

/-- Descriptions of a bucket's protocols are decoded tolerantly. -/
@[simp]
theorem Protocol.tolerant : Protocol.record.format.Tolerant :=
  Record.format_tolerant lawful (by simp [record, Field.optional, Field.elided])

/-- Deletion policies are decoded tolerantly. -/
@[simp]
theorem DeletionPolicy.tolerant : DeletionPolicy.format.Tolerant :=
  Format.choice_tolerant _ _

/-- What is wanted of a bucket is decoded tolerantly. -/
theorem BucketSpec.tolerant : BucketSpec.record.format.Tolerant :=
  Record.format_tolerant lawful (by
    simp [record, Field.optional, Field.elided, Field.defaulted])

/-- What is reported of a bucket is decoded tolerantly. -/
theorem BucketStatus.tolerant : BucketStatus.record.format.Tolerant :=
  Record.format_tolerant lawful (by
    simp [record, Field.optional, Field.elided, Field.defaulted])

/-- What is wanted of a grant is decoded tolerantly. -/
theorem BucketAccessSpec.tolerant : BucketAccessSpec.record.format.Tolerant :=
  Record.format_tolerant lawful (by
    simp [record, Field.optional, Field.elided, Field.defaulted])

/-- What is reported of a grant is decoded tolerantly. -/
theorem BucketAccessStatus.tolerant : BucketAccessStatus.record.format.Tolerant :=
  Record.format_tolerant lawful (by simp [record, Field.defaulted])

/-- What a workload asks for is decoded tolerantly. -/
theorem BucketAccessRequestSpec.tolerant : BucketAccessRequestSpec.record.format.Tolerant :=
  Record.format_tolerant lawful (by simp [record, Field.defaulted])

/-- What is reported of a request for access is decoded tolerantly. -/
theorem BucketAccessRequestStatus.tolerant : BucketAccessRequestStatus.record.format.Tolerant :=
  Record.format_tolerant lawful (by simp [record, Field.defaulted])

/-- What is wanted of a new bucket is decoded tolerantly. -/
theorem BucketRequestSpec.tolerant : BucketRequestSpec.record.format.Tolerant :=
  Record.format_tolerant lawful (by simp [record, Field.elided, Field.defaulted])

/-- What is reported of a request for a bucket is decoded tolerantly. -/
theorem BucketRequestStatus.tolerant : BucketRequestStatus.record.format.Tolerant :=
  Record.format_tolerant lawful (by simp [record, Field.defaulted])

/-- Owners are decoded tolerantly. -/
@[simp]
theorem OwnerReference.tolerant : OwnerReference.record.coreFormat.Tolerant :=
  Record.coreFormat_tolerant lawful (by
    simp [record, textField, Field.optional, Field.elided])

/-- Fields of managers are decoded tolerantly. -/
@[simp]
theorem ManagedFields.tolerant : ManagedFields.record.coreFormat.Tolerant :=
  Record.coreFormat_tolerant lawful (by simp [record, Field.optional, Field.elided])

/-- Metadata is decoded tolerantly. -/
theorem Metadata.tolerant : Metadata.format.Tolerant :=
  Record.coreFormat_tolerant lawful (by simp [record, Field.optional, Field.elided])

/-! ## Documents of a kind -/

namespace CustomKind

variable {Spec Status : Type} (kind : CustomKind Spec Status)

/-- Whole documents are decoded tolerantly if specifications and statuses are. -/
theorem envelope_tolerant (spec : kind.spec.format.Tolerant)
    (status : kind.status.format.Tolerant) : kind.envelope.format.Tolerant :=
  Record.format_tolerant kind.envelope_lawful (by
    simp [envelope, Field.required, Metadata.tolerant, spec, Format.optional_tolerant status])

/-- Two trees are alike as documents of a kind: once the members are left out that no record of
the kind lists at their place, they differ in the order of members at most. -/
def Alike (left right : Json) : Prop :=
  (kind.envelope.schema.core left).Reordered (kind.envelope.schema.core right)

variable {kind} in
/-- A tree is alike however the members of its objects are ordered. -/
theorem Alike.of_reordered {left right : Json} (reordered : left.Reordered right) :
    kind.Alike left right :=
  Schema.core_reordered _ reordered

variable {kind} in
/-- Trees are alike of which the same is left. -/
theorem Alike.of_core {left right : Json}
    (same : kind.envelope.schema.core left = kind.envelope.schema.core right) :
    kind.Alike left right := by
  rw [Alike, same]
  exact .refl _

variable {kind} in
/-- Members may be reordered, added and left out in any number of steps. -/
theorem Alike.trans {left middle right : Json} (first : kind.Alike left middle)
    (second : kind.Alike middle right) : kind.Alike left right :=
  Json.Reordered.trans first second

/-- Two texts are alike as documents of a kind. The first one repeats no name, the second one
can be passed over, and nothing stands behind either. -/
structure AlikeTexts (left right : String) : Prop where
  wellFormed : (Json.ofText left).WellFormed
  passes : (Json.ofText right).skipFault = none
  alike : kind.Alike (Json.ofText left) (Json.ofText right)
  leftEnds : Json.finish (Json.read left).2 = .ok ()
  rightEnds : Json.finish (Json.read right).2 = .ok ()

variable {kind} in
/-- The texts of legible trees are alike if the trees are. -/
theorem Alike.texts {left right : Json} (alike : kind.Alike left right)
    (leftLegible : left.Legible 0) (rightLegible : right.Legible 0)
    (wellFormed : left.WellFormed) (passes : right.skipFault = none) :
    kind.AlikeTexts left.text right.text := by
  have leftRead := (Json.reads_legible 0 left leftLegible).read_text
  have rightRead := (Json.reads_legible 0 right rightLegible).read_text
  constructor
  case wellFormed => rwa [Json.ofText, leftRead]
  case passes => rwa [Json.ofText, rightRead]
  case alike => rwa [Json.ofText, Json.ofText, leftRead, rightRead]
  case leftEnds =>
    rw [leftRead]
    rfl
  case rightEnds =>
    rw [rightRead]
    rfl

/-- Documents of a kind that are alike are decoded to one object, or all refused. -/
structure DecodesAlike : Prop where
  decoded (source : Source) (left right : Json) : left.WellFormed → right.skipFault = none →
    kind.Alike left right → ∀ object,
      kind.format.decode source left = .ok object ↔ kind.format.decode source right = .ok object
  read (left right : String) : kind.AlikeTexts left right → ∀ object,
    kind.format.ofText left = .ok object ↔ kind.format.ofText right = .ok object

variable {kind} in
/-- Documents of a kind are decoded alike if its specifications and statuses are decoded
tolerantly. -/
theorem decodesAlike (spec : kind.spec.format.Tolerant) (status : kind.status.format.Tolerant) :
    kind.DecodesAlike := by
  have decoded := (kind.envelope_tolerant spec status).decode_iff
  refine ⟨fun source left right wellFormed passes alike => decoded source wellFormed passes alike,
    fun left right alike object => ?_⟩
  have finished (text : String) (ends : Json.finish (Json.read text).2 = .ok ()) :
      kind.format.ofText text = kind.format.decode .text (Json.ofText text) := by
    rw [Format.ofText]
    change (kind.format.decode .text (Json.ofText text) >>= fun value =>
      Json.finish (Json.read text).2 >>= fun _ => pure value) = _
    rw [ends]
    cases kind.format.decode .text (Json.ofText text) <;> rfl
  rw [finished left alike.leftEnds, finished right alike.rightEnds]
  exact decoded .text alike.wellFormed alike.passes alike.alike object

end CustomKind

/-! ## Verdicts on documents -/

/-- Two answers of a client are the same but for the wording of what could not be decoded. -/
inductive SameAnswer {α : Type} : Except ClientFailure α → Except ClientFailure α → Prop where
  | same (answer : Except ClientFailure α) : SameAnswer answer answer
  | undecodable (cause other : Json.Refusal) :
    SameAnswer (.error (.undecodable cause)) (.error (.undecodable other))

/-- Two lookups come to the same but for the wording of what could not be decoded. -/
inductive SameVerdict {α : Type} : Except NodeError α → Except NodeError α → Prop where
  | same (result : Except NodeError α) : SameVerdict result result
  | undecodable (kind shownName : String) (cause other : Json.Refusal) :
    SameVerdict (.error (.lookup kind shownName (.undecodable cause)))
      (.error (.lookup kind shownName (.undecodable other)))

/-- A lookup passes with the object with which the other one passes. -/
theorem SameVerdict.passed {α : Type} {value : α} {result : Except NodeError α}
    (same : SameVerdict (.ok value) result) : result = .ok value := by
  cases same
  rfl

/-- A gate comes to the same verdict on the same answers. -/
theorem Gate.Guarded.sameVerdict {σ α : Type} {gate : Gate α} {shownName : String}
    {call : Call σ (Option α)} {operation : Operation σ α}
    (guarded : gate.Guarded shownName call operation) {state other : σ}
    (answers : SameAnswer (call state).result (call other).result) :
    SameVerdict (operation state).result (operation other).result := by
  have verdict := (guarded state).1
  have otherVerdict := (guarded other).1
  generalize (call state).result = answer at answers verdict
  generalize (call other).result = otherAnswer at answers otherVerdict
  cases answers with
  | same =>
    rw [verdict.unique otherVerdict]
    exact .same _
  | undecodable cause other =>
    rw [verdict.unique (.failed _), otherVerdict.unique (.failed _)]
    exact .undecodable _ _ _ _

namespace Cluster

/-- Under a path nothing is stored in two clusters, or one text, or two texts that are alike as
documents of a kind. -/
def AlikeAt {Spec Status : Type} (kind : CustomKind Spec Status) (left right : Cluster)
    (address : Address) : Prop :=
  Option.Rel (fun text other => text = other ∨ kind.AlikeTexts text other)
    (left.get? address.path) (right.get? address.path)

/-- Each lookup of the four kinds comes to the same verdict in two clusters if the documents are
alike that it looks at. -/
structure SameVerdicts (left right : Cluster) : Prop where
  request (name namespaceName : String) : AlikeAt BucketAccessRequest.kind left right
      ⟨.bucketAccessRequest, some namespaceName, name⟩ →
    SameVerdict (Node.bucketAccessRequest client name namespaceName left).result
      (Node.bucketAccessRequest client name namespaceName right).result
  grant (name : String) : AlikeAt BucketAccess.kind left right ⟨.bucketAccess, none, name⟩ →
    SameVerdict (Node.bucketAccess client name left).result
      (Node.bucketAccess client name right).result
  bucketRequest (name namespaceName : String) : AlikeAt BucketRequest.kind left right
      ⟨.bucketRequest, some namespaceName, name⟩ →
    SameVerdict (Node.bucketRequest client name namespaceName left).result
      (Node.bucketRequest client name namespaceName right).result
  bucket (name : String) : AlikeAt Bucket.kind left right ⟨.bucket, none, name⟩ →
    SameVerdict (Node.bucket client name left).result (Node.bucket client name right).result

/-- What a cluster answers to a lookup: the fault that waits for it, or what the stored text is
decoded to. -/
theorem find_result {α : Type} (format : Format α) (address : Address) (cluster : Cluster) :
    (find format address cluster).result =
      match (takeFault (.find address.kind) cluster.faults).1 with
      | some fault => .error (.refused fault.refusal)
      | none => match cluster.get? address.path with
        | none => .ok none
        | some text => ((format.ofText text).map some).mapError .undecodable := by
  rcases planned : takeFault (.find address.kind) cluster.faults with ⟨_ | fault, left⟩
  · cases stored : cluster.objects.get? address.path with
    | none => simp [find, meet, planned, stored, Reply.quiet, get?]
    | some text => simp [find, meet, planned, stored, Reply.quiet, get?]
  · simp [find, meet, planned, Reply.quiet]

/-- A document is found as the one that is alike is. -/
theorem find_sameAnswer {Spec Status : Type} {kind : CustomKind Spec Status}
    (decodes : kind.DecodesAlike) {left right : Cluster} (faults : left.faults = right.faults)
    {address : Address} (alike : AlikeAt kind left right address) :
    SameAnswer (find kind.format address left).result (find kind.format address right).result := by
  rw [find_result, find_result, faults]
  cases (takeFault (.find address.kind) right.faults).1 with
  | some fault => exact .same _
  | none =>
    rw [AlikeAt] at alike
    generalize left.get? address.path = stored at alike
    generalize right.get? address.path = otherStored at alike
    cases alike with
    | none => exact .same _
    | @some text other texts =>
      rcases texts with rfl | texts
      · exact .same _
      have same := decodes.read text other texts
      cases first : kind.format.ofText text with
      | ok object => simpa only [first, (same object).mp first] using .same _
      | error cause =>
        cases second : kind.format.ofText other with
        | ok object => simp [(same object).mpr second] at first
        | error otherCause =>
          change SameAnswer (((kind.format.ofText text).map some).mapError .undecodable)
            (((kind.format.ofText other).map some).mapError .undecodable)
          rw [first, second]
          exact .undecodable cause otherCause

end Cluster

/-- Nodes do not look at the order of members, and they overlook members that they do not know.
For each of the four kinds, two documents that differ in nothing else are decoded to one object
or both refused, be it as trees or in texts. So a lookup of these kinds comes to the same
verdict in two clusters in which the same faults wait and the document that it looks at is
alike: it passes with the same object in both, or fails in both with the same error but for the
wording of what could not be decoded.

Proof: specifications and statuses of all kinds are records of formats that are decoded
tolerantly. What a lookup comes to is the verdict of its gate on what the client answers, and
the two clients answer the same. -/
theorem alike_documents_decoded :
    (BucketAccessRequest.kind.DecodesAlike ∧ BucketAccess.kind.DecodesAlike ∧
      BucketRequest.kind.DecodesAlike ∧ Bucket.kind.DecodesAlike) ∧
    ∀ left right : Cluster, left.faults = right.faults → left.SameVerdicts right := by
  have requests : BucketAccessRequest.kind.DecodesAlike :=
    CustomKind.decodesAlike BucketAccessRequestSpec.tolerant BucketAccessRequestStatus.tolerant
  have grants : BucketAccess.kind.DecodesAlike :=
    CustomKind.decodesAlike BucketAccessSpec.tolerant BucketAccessStatus.tolerant
  have bucketRequests : BucketRequest.kind.DecodesAlike :=
    CustomKind.decodesAlike BucketRequestSpec.tolerant BucketRequestStatus.tolerant
  have buckets : Bucket.kind.DecodesAlike :=
    CustomKind.decodesAlike BucketSpec.tolerant BucketStatus.tolerant
  refine ⟨⟨requests, grants, bucketRequests, buckets⟩, fun left right faults => ?_⟩
  constructor
  case request =>
    intro name namespaceName alike
    exact (Node.request_guarded Cluster.client name namespaceName).sameVerdict
      (Cluster.find_sameAnswer requests faults alike)
  case grant =>
    intro name alike
    exact (Node.access_guarded Cluster.client name).sameVerdict
      (Cluster.find_sameAnswer grants faults alike)
  case bucketRequest =>
    intro name namespaceName alike
    exact (Node.bucketRequest_guarded Cluster.client name namespaceName).sameVerdict
      (Cluster.find_sameAnswer bucketRequests faults alike)
  case bucket =>
    intro name alike
    exact (Node.bucket_guarded Cluster.client name).sameVerdict
      (Cluster.find_sameAnswer buckets faults alike)

/-- The document of a grant. -/
def familiarGrant : Json :=
  .object [
    ("metadata", .object [("labels", .object [("a", .string "1"), ("b", .string "2")] none),
      ("name", .string "grant")] none),
    ("spec", .object [("bucketName", .string "files"), ("mintedSecretName", .string "keys"),
      ("serviceAccount", .object [("name", .string "uploader")] none)] none),
    ("status", .object [("accessGranted", .boolean true)] none)] none

/-- The same document in another order. -/
def reorderedGrant : Json :=
  .object [
    ("status", .object [("accessGranted", .boolean true)] none),
    ("spec", .object [("mintedSecretName", .string "keys"),
      ("serviceAccount", .object [("name", .string "uploader")] none),
      ("bucketName", .string "files")] none),
    ("metadata", .object [("name", .string "grant"),
      ("labels", .object [("b", .string "2"), ("a", .string "1")] none)] none)] none

/-- The same document in that order, with a member more in every record. -/
def foreignGrant : Json :=
  .object [
    ("status", .object [("phase", .string "Bound"), ("accessGranted", .boolean true)] none),
    ("conditions", .array [.object [("type", .null)] none] none),
    ("spec", .object [("mintedSecretName", .string "keys"),
      ("serviceAccount", .object [("name", .string "uploader"), ("role", .null)] none),
      ("bucketName", .string "files"), ("accessGranted", .boolean false)] none),
    ("metadata", .object [("name", .string "grant"),
      ("labels", .object [("b", .string "2"), ("a", .string "1")] none)] none)] none

/-- Members are reordered at three depths. -/
theorem familiarGrant_reordered : familiarGrant.Reordered reorderedGrant := by
  have labels : Json.Reordered
      (.object [("a", .string "1"), ("b", .string "2")] none)
      (.object [("b", .string "2"), ("a", .string "1")] none) :=
    .object (.cons (.refl _) (.cons (.refl _) rfl)) (.swap _ _ [])
  have metadata : Json.Reordered
      (.object [("labels", .object [("a", .string "1"), ("b", .string "2")] none),
        ("name", .string "grant")] none)
      (.object [("name", .string "grant"),
        ("labels", .object [("b", .string "2"), ("a", .string "1")] none)] none) :=
    .object (.cons labels (.cons (.refl _) rfl)) (.swap _ _ [])
  have spec : Json.Reordered
      (.object [("bucketName", .string "files"), ("mintedSecretName", .string "keys"),
        ("serviceAccount", .object [("name", .string "uploader")] none)] none)
      (.object [("mintedSecretName", .string "keys"),
        ("serviceAccount", .object [("name", .string "uploader")] none),
        ("bucketName", .string "files")] none) :=
    .object (.cons (.refl _) (.cons (.refl _) (.cons (.refl _) rfl)))
      (List.perm_append_comm : ([_] ++ [_, _]).Perm _)
  exact .object (.cons metadata (.cons spec (.cons (.refl _) rfl))) (List.reverse_perm _).symm

/-- The documents are alike: members are reordered, and then some are added. -/
theorem foreignGrant_alike : BucketAccess.kind.Alike familiarGrant foreignGrant := by
  have moved : BucketAccess.kind.Alike familiarGrant reorderedGrant :=
    .of_reordered familiarGrant_reordered
  have added : BucketAccess.kind.Alike reorderedGrant foreignGrant :=
    .of_core (by decide +kernel)
  exact moved.trans added

/-- The cluster that stores one grant, in a document. -/
def grantCluster (document : Json) : Cluster :=
  Cluster.empty.put (Address.path ⟨.bucketAccess, none, "grant"⟩) document.text

/-- One object is decoded from the two documents of the grant, and one grant passes the gate in
the clusters that store one of them each. -/
theorem foreign_grant_decoded_alike :
    BucketAccess.kind.Alike familiarGrant foreignGrant ∧
      (∃ object, BucketAccess.kind.format.decode .collected familiarGrant = .ok object ∧
        BucketAccess.kind.format.decode .collected foreignGrant = .ok object) ∧
      ∃ access,
        (Node.bucketAccess Cluster.client "grant" (grantCluster familiarGrant)).result =
          .ok access ∧
        (Node.bucketAccess Cluster.client "grant" (grantCluster foreignGrant)).result =
          .ok access := by
  have alike := foreignGrant_alike
  have wellFormed : familiarGrant.WellFormed := ⟨by decide +kernel, by decide +kernel⟩
  have passes : foreignGrant.skipFault = none := by decide +kernel
  have texts : BucketAccess.kind.AlikeTexts familiarGrant.text foreignGrant.text := by
    refine alike.texts ?_ ?_ wellFormed passes <;>
      simp [familiarGrant, foreignGrant, Json.Legible, Json.LegibleMembers, Json.LegibleItems,
        Json.deepest]
  have stored : Cluster.AlikeAt BucketAccess.kind (grantCluster familiarGrant)
      (grantCluster foreignGrant) ⟨.bucketAccess, none, "grant"⟩ := by
    rw [Cluster.AlikeAt, grantCluster, grantCluster, Cluster.get?_put, Cluster.get?_put,
      if_pos rfl, if_pos rfl]
    exact .some (.inr texts)
  have faultless (document : Json) : (grantCluster document).faults = [] := rfl
  obtain ⟨⟨_, grants, _, _⟩, verdicts⟩ := alike_documents_decoded
  refine ⟨alike, ?_, ?_⟩
  · obtain ⟨object, decoded⟩ :
        ∃ object, BucketAccess.kind.format.decode .collected familiarGrant = .ok object :=
      Operation.passes_of_isOk (by decide +kernel)
    exact ⟨object, decoded,
      (grants.decoded .collected familiarGrant foreignGrant wellFormed passes alike object).mp
        decoded⟩
  · obtain ⟨access, passed⟩ : ∃ access,
        (Node.bucketAccess Cluster.client "grant" (grantCluster familiarGrant)).result =
          .ok access :=
      Operation.passes_of_isOk (by decide +kernel)
    have verdict := (verdicts (grantCluster familiarGrant) (grantCluster foreignGrant)
      ((faultless _).trans (faultless _).symm)).grant "grant" stored
    rw [passed] at verdict
    exact ⟨access, passed, verdict.passed⟩

end BucketMount
