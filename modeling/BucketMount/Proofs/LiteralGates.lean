import BucketMount.Cluster.Direct
import BucketMount.Proofs.AccessChain
import BucketMount.Proofs.RecordLaws

/-!
# What the stored texts say of a walk that passes

A client may hand out only what the stored texts are decoded to, and reading changes no
text. Decoding fills in defaults: a flag that is missing is not set, a text that is
missing is empty, and the whole status may be missing. The gates of the chain refuse each
of these defaults, so behind a walk that passes the texts themselves hold what the gates
demand.

`resolve_reads_literal` says this of the trees of the stored texts, before anything is
filled in, for documents whose parts stand under their names. A record may also be
written as a list; what such a list holds at which place is not told.
-/

namespace BucketMount

namespace Json

/-- A tree is a list. -/
def IsList : Json → Prop
  | .array _ _ => True
  | _ => False

instance : DecidablePred IsList
  | .array _ _ => .isTrue trivial
  | .null | .boolean _ | .number _ | .string _ | .object _ _ | .fault _ => .isFalse id

/-- Neither a document nor its specification or status is told by places in a list. -/
structure ByName (tree : Json) : Prop where
  document : ¬ tree.IsList
  spec : ∀ part ∈ tree.get? "spec", ¬ part.IsList
  status : ∀ part ∈ tree.get? "status", ¬ part.IsList

instance (tree : Json) : Decidable tree.ByName :=
  decidable_of_iff (¬ tree.IsList ∧ (∀ part ∈ tree.get? "spec", ¬ part.IsList) ∧
    ∀ part ∈ tree.get? "status", ¬ part.IsList)
    ⟨fun ⟨document, spec, status⟩ => ⟨document, spec, status⟩,
      fun ⟨document, spec, status⟩ => ⟨document, spec, status⟩⟩

end Json

/-! ## What one document says -/

/-- A record that is not decoded from a list is decoded from an object. -/
theorem Record.decoded_by_name {R : Type} {record : Record R} {source : Source} {tree : Json}
    {value : R} (decoded : record.format.decode source tree = .ok value) (notList : ¬ tree.IsList) :
    ∃ members tail, tree = .object members tail ∧
      record.decodeObject false source members tail = .ok value := by
  rcases Record.format_decode_cases decoded with object | ⟨items, tail, rfl⟩
  · exact object
  · exact absurd trivial notList

/-- The specification of a document is an object, and so is its status if one was
decoded. -/
theorem CustomKind.objects_decoded {Spec Status : Type} {kind : CustomKind Spec Status}
    {source : Source} {tree : Json} {object : CustomObject Spec Status}
    (decoded : kind.format.decode source tree = .ok object) (named : tree.ByName) :
    (∃ members tail, tree.get? "spec" = some (.object members tail) ∧
      kind.spec.decodeObject false source members tail = .ok object.spec) ∧
    ∀ status ∈ object.status, ∃ members tail, tree.get? "status" = some (.object members tail) ∧
      kind.status.decodeObject false source members tail = .ok status := by
  obtain ⟨members, tail, rfl, _⟩ := Record.decoded_by_name decoded named.document
  obtain ⟨_, _, ⟨specItem, specFound, specDecoded⟩, statusCases⟩ := parts_decoded decoded
  constructor
  · obtain ⟨specMembers, specTail, rfl, specDecoded⟩ :=
      Record.decoded_by_name specDecoded (named.spec specItem specFound)
    exact ⟨specMembers, specTail, specFound, specDecoded⟩
  · intro status set
    rcases statusCases with ⟨item, found, statusDecoded⟩ | ⟨_, unset⟩
    · rcases (Format.optional_decode_iff _ _ _ _).mp statusDecoded with
        ⟨_, unset⟩ | ⟨_, part, partDecoded, same⟩
      · simp [unset] at set
      · obtain rfl : status = part := Option.some.inj ((Option.mem_def.mp set).symm.trans same)
        obtain ⟨statusMembers, statusTail, rfl, fieldsDecoded⟩ :=
          Record.decoded_by_name partDecoded (named.status item found)
        exact ⟨statusMembers, statusTail, found, fieldsDecoded⟩
    · simp [unset] at set

/-- The value under two names is the member of the object under the first one. -/
theorem Json.at?_within {tree : Json} {first second : String} {members : List (String × Json)}
    {tail : Option Json.Fault} (found : tree.get? first = some (.object members tail)) :
    tree.at? [first, second] = Json.member? second members := by
  rw [at?_two, found]
  rfl

/-- A document that is decoded to an admitted request says itself that the request is
granted, and names the request for the bucket and the grant. -/
theorem BucketAccessRequest.admitted_literal {source : Source} {tree : Json}
    {request : BucketAccessRequest} {status : BucketAccessRequestStatus}
    (decoded : kind.format.decode source tree = .ok request) (named : tree.ByName)
    (reported : request.status = some status) (granted : status.accessGranted = true)
    (bucketRequest : request.spec.bucketRequestName ≠ "") (access : status.bucketAccessName ≠ "") :
    tree.at? ["status", "accessGranted"] = some (.boolean true) ∧
      tree.at? ["spec", "bucketRequestName"] = some (.string request.spec.bucketRequestName) ∧
      tree.at? ["status", "bucketAccessName"] = some (.string status.bucketAccessName) := by
  obtain ⟨⟨members, _, specFound, spec⟩, ofStatus⟩ := CustomKind.objects_decoded decoded named
  obtain ⟨statusMembers, _, statusFound, statusDecoded⟩ := ofStatus status reported
  have come := (Record.decodeObject_ok BucketAccessRequestSpec.lawful spec).2
  have comeStatus := (Record.decodeObject_ok BucketAccessRequestStatus.lawful statusDecoded).2
  have flag := (comeStatus _ (.head _)).flag
  have name := (comeStatus _ (.tail _ (.head _))).text
  have specName := (come _ (.tail _ (.head _))).text
  rw [Json.at?_within statusFound, Json.at?_within specFound, Json.at?_within statusFound]
  refine ⟨?_, ?_, ?_⟩
  · simpa [granted] using flag
  · simpa [bucketRequest] using specName
  · simpa [access] using name

/-- A document that is decoded to an admitted grant says itself that the grant is in
force, and names the secret. -/
theorem BucketAccess.admitted_literal {source : Source} {tree : Json} {access : BucketAccess}
    {status : BucketAccessStatus} (decoded : kind.format.decode source tree = .ok access)
    (named : tree.ByName) (reported : access.status = some status)
    (granted : status.accessGranted = true) (secret : access.spec.mintedSecretName ≠ "") :
    tree.at? ["status", "accessGranted"] = some (.boolean true) ∧
      tree.at? ["spec", "mintedSecretName"] = some (.string access.spec.mintedSecretName) := by
  obtain ⟨⟨members, _, specFound, spec⟩, ofStatus⟩ := CustomKind.objects_decoded decoded named
  obtain ⟨statusMembers, _, statusFound, statusDecoded⟩ := ofStatus status reported
  have flag := ((Record.decodeObject_ok BucketAccessStatus.lawful statusDecoded).2 _
    (.head _)).flag
  have name := ((Record.decodeObject_ok BucketAccessSpec.lawful spec).2 _
    (.tail _ (.tail _ (.tail _ (.head _))))).text
  rw [Json.at?_within statusFound, Json.at?_within specFound]
  refine ⟨?_, ?_⟩
  · simpa [granted] using flag
  · simpa [secret] using name

/-- A document that is decoded to an admitted bucket says itself that the bucket is
available. -/
theorem Bucket.admitted_literal {source : Source} {tree : Json} {bucket : Bucket}
    {status : BucketStatus} (decoded : kind.format.decode source tree = .ok bucket)
    (named : tree.ByName) (reported : bucket.status = some status)
    (available : status.bucketAvailable = true) :
    tree.at? ["status", "bucketAvailable"] = some (.boolean true) := by
  obtain ⟨_, ofStatus⟩ := CustomKind.objects_decoded decoded named
  obtain ⟨statusMembers, _, statusFound, statusDecoded⟩ := ofStatus status reported
  have flag := ((Record.decodeObject_ok BucketStatus.lawful statusDecoded).2 _ (.head _)).flag
  rw [Json.at?_within statusFound]
  simpa [available] using flag

/-! ## Clients that decode stored texts -/

section Clients

variable {σ α : Type}

/-- An object that a call hands out is what the text stored at an address is decoded to,
and the call leaves all stored texts as they are. -/
def DecodesAt (stored : σ → Address → Option String) (format : Format α) (address : Address)
    (call : Call σ (Option α)) : Prop :=
  ∀ state, stored (call state).state = stored state ∧
    ∀ value, (call state).result = .ok (some value) →
      ∃ text, stored state address = some text ∧ format.ofText text = .ok value

/-- A client hands out what stored texts are decoded to, each from its own address. It may
fail, and may find nothing, whatever is stored. -/
structure Client.Decodes (client : Client σ) (stored : σ → Address → Option String) : Prop where
  request (name namespaceName : String) :
    DecodesAt stored BucketAccessRequest.kind.format
      ⟨.bucketAccessRequest, some namespaceName, name⟩
      (client.findBucketAccessRequest name namespaceName)
  access (name : String) :
    DecodesAt stored BucketAccess.kind.format ⟨.bucketAccess, none, name⟩
      (client.findBucketAccess name)
  bucket (name : String) :
    DecodesAt stored Bucket.kind.format ⟨.bucket, none, name⟩ (client.findBucket name)

/-- What a text is decoded to is decoded from its tree. -/
theorem Format.decode_of_ofText {format : Format α} {text : String} {value : α}
    (decoded : format.ofText text = .ok value) :
    format.decode .text (Json.ofText text) = .ok value := by
  rw [ofText] at decoded
  obtain ⟨part, partDecoded, finished⟩ := (Record.then_ok_iff _ _ _).mp decoded
  obtain ⟨_, _, same⟩ := (Record.then_ok_iff _ _ _).mp finished
  obtain rfl : part = value := Except.ok.inj same
  exact partDecoded

end Clients

namespace Cluster

/-- Looking an object up decodes the text under the path of its address. -/
theorem find_decodes {α : Type} (format : Format α) (address : Address) :
    DecodesAt (fun cluster address => cluster.get? address.path) format address
      (find format address) := by
  intro cluster
  rcases planned : takeFault (.find address.kind) cluster.faults with ⟨_ | fault, left⟩
  · cases stored : cluster.objects.get? address.path with
    | none => simp [find, meet, planned, stored, Reply.quiet, get?]
    | some text =>
      cases decoded : format.ofText text <;>
        simp [find, meet, planned, stored, decoded, Reply.quiet, get?, Except.map,
          Except.mapError]
  · simp [find, meet, planned, Reply.quiet, get?]

/-- The client with direct access decodes what the cluster stores. -/
theorem client_decodes :
    client.Decodes fun cluster address => cluster.get? address.path where
  request _ _ := find_decodes _ _
  access _ := find_decodes _ _
  bucket _ := find_decodes _ _

end Cluster

namespace Node

variable {σ : Type}

/-- Behind a walk that passes, the stored texts themselves say what the walk relies on:
the request is granted and names a request for a bucket and a grant, this grant is in
force and names a secret, and the bucket is available. No default stands in for any of
this. Each text is spoken of if its document, its specification and its status are not
told as lists.

Proof: a walk that passes had admitted answers, each answer is what a stored text was
decoded to, and an admitted object has what its gate demands from a member of its name,
since no default would be admitted. -/
theorem resolve_reads_literal {client : Client σ} {stored : σ → Address → Option String}
    (decodes : client.Decodes stored) (name namespaceName : String) (state : σ)
    (resolved : Resolved)
    (passed : (resolve client name namespaceName state).result = .ok resolved) :
    ∃ request access bucket accessName,
      stored state ⟨.bucketAccessRequest, some namespaceName, name⟩ = some request ∧
      stored state ⟨.bucketAccess, none, accessName⟩ = some access ∧
      stored state ⟨.bucket, none, resolved.access.spec.bucketName⟩ = some bucket ∧
      ((Json.ofText request).ByName →
        (Json.ofText request).at? ["status", "accessGranted"] = some (.boolean true) ∧
        (∃ text, text ≠ "" ∧
          (Json.ofText request).at? ["spec", "bucketRequestName"] = some (.string text)) ∧
        accessName ≠ "" ∧
        (Json.ofText request).at? ["status", "bucketAccessName"] = some (.string accessName)) ∧
      ((Json.ofText access).ByName →
        (Json.ofText access).at? ["status", "accessGranted"] = some (.boolean true) ∧
        ∃ text, text ≠ "" ∧
          (Json.ofText access).at? ["spec", "mintedSecretName"] = some (.string text)) ∧
      ((Json.ofText bucket).ByName →
        (Json.ofText bucket).at? ["status", "bucketAvailable"] = some (.boolean true)) := by
  obtain ⟨request, status, first, second, third, _⟩ :=
    (resolve_ok_iff client name namespaceName state resolved).mp passed
  obtain ⟨found, reported, granted, bucketRequestSet, accessSet⟩ := first
  obtain ⟨accessFound, ⟨accessStatus, accessReported, inForce⟩, secretSet⟩ := second
  obtain ⟨bucketFound, bucketStatus, bucketReported, available⟩ := third
  obtain ⟨kept, decoded⟩ := decodes.request name namespaceName state
  obtain ⟨requestText, requestStored, requestDecoded⟩ := decoded request found
  obtain ⟨accessKept, accessDecodes⟩ := decodes.access status.bucketAccessName
    (client.findBucketAccessRequest name namespaceName state).state
  obtain ⟨accessText, accessStored, accessDecoded⟩ := accessDecodes resolved.access accessFound
  obtain ⟨bucketText, bucketStored, bucketDecoded⟩ :=
    (decodes.bucket resolved.access.spec.bucketName _).2 resolved.bucket bucketFound
  rw [kept] at accessStored
  rw [accessKept, kept] at bucketStored
  refine ⟨requestText, accessText, bucketText, status.bucketAccessName, requestStored,
    accessStored, bucketStored, fun named => ?_, fun named => ?_, fun named => ?_⟩
  · obtain ⟨flag, bucketRequest, access⟩ := BucketAccessRequest.admitted_literal
      (Format.decode_of_ofText requestDecoded) named reported granted bucketRequestSet accessSet
    exact ⟨flag, ⟨_, bucketRequestSet, bucketRequest⟩, accessSet, access⟩
  · obtain ⟨flag, secret⟩ := BucketAccess.admitted_literal
      (Format.decode_of_ofText accessDecoded) named accessReported inForce secretSet
    exact ⟨flag, _, secretSet, secret⟩
  · exact Bucket.admitted_literal (Format.decode_of_ofText bucketDecoded) named bucketReported
      available

/-- A cluster in which one request for access is granted. -/
def grantingCluster : Cluster :=
  let named (members : List (String × String)) : Json :=
    .object (members.map fun member => (member.1, .string member.2)) none
  let document (spec status : Json) : String :=
    Json.text (.object [("metadata", named []), ("spec", spec), ("status", status)] none)
  Cluster.empty
    |>.put (Address.path ⟨.bucketAccessRequest, some "apps", "uploads"⟩)
      (document (named [("bucketRequestName", "files")])
        (.object [("accessGranted", .boolean true), ("bucketAccessName", .string "grant")] none))
    |>.put (Address.path ⟨.bucketAccess, none, "grant"⟩)
      (document (named [("bucketName", "files-1"), ("mintedSecretName", "keys")])
        (.object [("accessGranted", .boolean true)] none))
    |>.put (Address.path ⟨.bucket, none, "files-1"⟩)
      (document (named []) (.object [("bucketAvailable", .boolean true)] none))
    |>.put (Address.path ⟨.secret, some "apps", "keys"⟩) (named []).text

/-- Where the walk passes in this cluster, the request's own text grants it. -/
theorem granting_cluster_literal :
    ∃ resolved request,
      (resolve Cluster.client "uploads" "apps" grantingCluster).result = .ok resolved ∧
      grantingCluster.get? (Address.path ⟨.bucketAccessRequest, some "apps", "uploads"⟩) =
        some request ∧
      (Json.ofText request).ByName ∧
      (Json.ofText request).at? ["status", "accessGranted"] = some (.boolean true) := by
  obtain ⟨resolved, passed⟩ : ∃ resolved,
      (resolve Cluster.client "uploads" "apps" grantingCluster).result = .ok resolved :=
    Operation.passes_of_isOk (by decide +kernel)
  obtain ⟨request, _, _, _, stored, _, _, literal, _⟩ :=
    resolve_reads_literal Cluster.client_decodes "uploads" "apps" grantingCluster resolved passed
  have named : (Json.ofText request).ByName := by
    have all : ∀ text ∈ grantingCluster.get?
        (Address.path ⟨.bucketAccessRequest, some "apps", "uploads"⟩),
        (Json.ofText text).ByName := by decide +kernel
    exact all request stored
  exact ⟨resolved, request, passed, stored, named, (literal named).1⟩

end Node

end BucketMount
