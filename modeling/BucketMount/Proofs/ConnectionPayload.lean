import BucketMount.Manifest
import BucketMount.Node.Connection
import BucketMount.Proofs.IndentedText
import BucketMount.Proofs.OperationSteps

/-!
# What is published of a bucket

A workload gets the text of one protocol of a bucket: the first that is filled in. Nothing else
of the bucket shows in it, and nothing of the protocol is lost: whoever reads the text by the
protocol's own description gets back what the bucket holds, whatever its texts are. So two
buckets are published alike exactly if they have the same connection.

There is one reason why a bucket is not published, which is that no protocol is filled in. A
protocol can always be written.
-/

namespace BucketMount

/-! ## The protocol that counts -/

/-- The connection of a bucket is the first protocol that is filled in, in the order S3, Azure,
Google. -/
inductive Protocol.First : Protocol → Connection → Prop
  | s3 (details : S3Protocol) (azureBlob : Option AzureProtocol) (gcs : Option GcsProtocol) :
    First ⟨some details, azureBlob, gcs⟩ (.s3 details)
  | azureBlob (details : AzureProtocol) (gcs : Option GcsProtocol) :
    First ⟨none, some details, gcs⟩ (.azureBlob details)
  | gcs (details : GcsProtocol) : First ⟨none, none, some details⟩ (.gcs details)

/-- The protocol that counts is the first one that is filled in. -/
theorem Protocol.first_of_connection? {protocol : Protocol} {connection : Connection}
    (counts : protocol.connection? = some connection) : protocol.First connection := by
  obtain ⟨_ | details, _ | azure, _ | gcs⟩ := protocol <;> cases counts <;> constructor

/-- The first protocol that is filled in is the one that counts. -/
theorem Protocol.First.connection?_eq {protocol : Protocol} {connection : Connection}
    (first : protocol.First connection) : protocol.connection? = some connection := by
  cases first <;> rfl

/-- A protocol counts exactly if one is filled in. -/
theorem Protocol.connection?_isSome (protocol : Protocol) : protocol.connection?.isSome = true ↔
    protocol.s3.isSome = true ∨ protocol.azureBlob.isSome = true ∨ protocol.gcs.isSome = true := by
  obtain ⟨_ | s3, _ | azureBlob, _ | gcs⟩ := protocol <;> simp [connection?]

/-! ## What a reader gets of a connection -/

namespace Connection

/-- The texts of a connection under their names, in the order in which they are written. -/
def written : Connection → List (String × String)
  | .s3 details => [("endpoint", details.endpoint), ("bucketName", details.bucketName),
      ("region", details.region), ("signatureVersion", details.signatureVersion.name)]
  | .azureBlob details => [("containerName", details.containerName),
      ("storageAccount", details.storageAccount)]
  | .gcs details => [("bucketName", details.bucketName),
      ("privateKeyName", details.privateKeyName), ("projectID", details.projectId),
      ("serviceAccount", details.serviceAccount)]

/-- The texts of a connection under their names, in ascending order. -/
def told : Connection → List (String × String)
  | .s3 details => [("bucketName", details.bucketName), ("endpoint", details.endpoint),
      ("region", details.region), ("signatureVersion", details.signatureVersion.name)]
  | other => other.written

/-- The value that a reader gets of a connection: an object of texts. -/
def value (connection : Connection) : Json :=
  .object (connection.told.map fun entry => (entry.1, .string entry.2)) none

/-- The document of a connection is the object of its texts. -/
theorem document_written (connection : Connection) : connection.document =
    .object (connection.written.map fun entry => (entry.1, .string entry.2)) none := by
  cases connection <;> rfl

/-- Collecting the texts of a connection sorts them. -/
theorem ascending_document (connection : Connection) :
    ascending (connection.written.map fun entry => (entry.1, .string entry.2)) =
      connection.value := by
  cases connection <;>
    simp only [ascending, Dictionary.ofList, Dictionary.insert, Dictionary.insertEntry, written,
      told, value, Dictionary.empty, List.map_cons, List.map_nil, List.foldl_cons, List.foldl_nil,
      String.reduceLT, String.reduceEq, ↓reduceIte]

/-- An object of texts is legible. -/
theorem texts_legible {depth : Nat} (shallow : depth < Json.deepest)
    (entries : List (String × String)) :
    Json.Legible depth (.object (entries.map fun entry => (entry.1, .string entry.2)) none) := by
  refine ⟨rfl, shallow, (Json.legibleMembers_iff _).mpr fun member listed => ?_⟩
  obtain ⟨entry, _, rfl⟩ := List.mem_map.mp listed
  trivial

/-- The document of a connection is collected as its value. -/
theorem canonical_document (connection : Connection) :
    connection.document.canonical = .ok connection.value := by
  have texts : ∀ member ∈ connection.written.map fun entry => (entry.1, Json.string entry.2),
      member.2.canonical = .ok member.2 := by
    intro member listed
    obtain ⟨entry, _, rfl⟩ := List.mem_map.mp listed
    rfl
  have stay := Json.canonicalMembers_self texts
  rw [← ascending_document, document_written]
  simp [Json.canonical, stay, Json.close, ascending, bind, Except.bind, pure, Except.pure]

/-- The document of a connection is legible. -/
theorem document_legible (connection : Connection) : Json.Legible 0 connection.document := by
  rw [document_written]
  exact texts_legible (by decide) _

/-- The payload of a connection is read as its value. -/
theorem payload_read (connection : Connection) :
    Format.unstructured.ofText connection.payload = .ok connection.value := by
  rw [payload, Json.collected_text connection.document_legible, canonical_document]

/-- The value of a connection is sorted. -/
theorem value_canonical (connection : Connection) : connection.value.isCanonical = true := by
  have collected := (Json.object.inj connection.ascending_document).1
  have ascends := Dictionary.ascending
    (.ofList (connection.written.map fun entry => (entry.1, Json.string entry.2)))
  rw [collected] at ascends
  refine Json.object_canonical (List.pairwise_map.mpr ascends) fun member listed => ?_
  obtain ⟨entry, _, rfl⟩ := List.mem_map.mp listed
  rfl

/-! ## What a protocol's own description reads -/

/-- The names of the texts of a connection, in the order in which the protocol declares them. -/
def keys : Connection → List String
  | .s3 _ => ["endpoint", "bucketName", "region", "signatureVersion"]
  | .azureBlob _ => ["containerName", "storageAccount"]
  | .gcs _ => ["bucketName", "privateKeyName", "projectID", "serviceAccount"]

/-- A text is read as this connection by the description of its protocol. -/
def ReadFrom (text : String) : Connection → Prop
  | .s3 details => S3Protocol.record.format.ofText text = .ok details
  | .azureBlob details => AzureProtocol.record.format.ofText text = .ok details
  | .gcs details => GcsProtocol.record.format.ofText text = .ok details

/-- The payload of a connection holds its texts under the declared names, and nothing else. -/
theorem payload_members (connection : Connection) :
    ∃ members, Json.read connection.payload = (.object members none, []) ∧
      members.map Prod.fst = connection.keys := by
  have read : Json.read connection.payload = (connection.document, []) :=
    (Json.reads_legible 0 connection.document connection.document_legible).read_text
  rw [document_written] at read
  refine ⟨_, read, ?_⟩
  cases connection <;> rfl

/-- The payload of a connection is read as the connection. -/
theorem payload_readFrom (connection : Connection) : connection.ReadFrom connection.payload := by
  cases connection with
  | s3 details => exact (S3Protocol.comesBack (by decide) details).of_document
  | azureBlob details => exact (AzureProtocol.comesBack (by decide) details).of_document
  | gcs details => exact (GcsProtocol.comesBack (by decide) details).of_document

/-- A text is read as one connection under these names. -/
theorem readFrom_unique {connection other : Connection} {text : String}
    (sameKeys : connection.keys = other.keys) (read : connection.ReadFrom text)
    (otherRead : other.ReadFrom text) : connection = other := by
  cases connection with
  | s3 details =>
    cases other with
    | s3 otherDetails => exact congrArg _ (Except.ok.inj (read.symm.trans otherRead))
    | azureBlob _ => simp [keys] at sameKeys
    | gcs _ => simp [keys] at sameKeys
  | azureBlob details =>
    cases other with
    | s3 _ => simp [keys] at sameKeys
    | azureBlob otherDetails => exact congrArg _ (Except.ok.inj (read.symm.trans otherRead))
    | gcs _ => simp [keys] at sameKeys
  | gcs details =>
    cases other with
    | s3 _ => simp [keys] at sameKeys
    | azureBlob _ => simp [keys] at sameKeys
    | gcs otherDetails => exact congrArg _ (Except.ok.inj (read.symm.trans otherRead))

/-- A connection is determined by its payload: the names in the text tell the protocol, and its
description reads the rest. -/
theorem payload_inj {connection other : Connection} (same : connection.payload = other.payload) :
    connection = other := by
  obtain ⟨members, read, names⟩ := connection.payload_members
  obtain ⟨otherMembers, otherRead, otherNames⟩ := other.payload_members
  have sameMembers : members = otherMembers := by
    rw [same, otherRead] at read
    simpa using read.symm
  have sameKeys : connection.keys = other.keys := by
    rw [← names, ← otherNames, sameMembers]
  refine readFrom_unique sameKeys connection.payload_readFrom ?_
  rw [same]
  exact other.payload_readFrom

end Connection

/-! ## Publishing a bucket -/

namespace Node

variable {σ : Type}

/-- Taking the connection of a bucket asks the server for nothing. -/
theorem connection_state (bucket : Bucket) (state : σ) :
    (Node.connection bucket state).state = state := by
  cases counts : bucket.spec.protocol.connection? <;>
    simp [Node.connection, Operation.log_bind, Operation.demand, Operation.refuse, counts]

/-- A bucket has a connection if a protocol counts. -/
theorem connection_result (bucket : Bucket) (state : σ) :
    (Node.connection bucket state).result = bucket.spec.protocol.connection?.elim
      (.error (.unrecognizedProtocol bucket.metadata.displayName)) .ok := by
  cases counts : bucket.spec.protocol.connection? <;>
    simp [Node.connection, Operation.log_bind, Operation.demand, Operation.refuse, counts]

/-- The connection that is taken of a bucket is the first protocol that is filled in. -/
theorem connection_first {bucket : Bucket} {state : σ} {connection : Connection}
    (passed : (Node.connection bucket state).result = .ok connection) :
    bucket.spec.protocol.First connection := by
  rw [connection_result] at passed
  cases counts : bucket.spec.protocol.connection? with
  | none => simp [counts] at passed
  | some first =>
    obtain rfl : first = connection := by simpa [counts] using passed
    exact Protocol.first_of_connection? counts

/-- The bytes that are published of a bucket. -/
def published (bucket : Bucket) (state : σ) : Except NodeError ByteArray :=
  (Node.connection bucket state).result.map fun connection => connection.payload.toUTF8

/-- What is published of a bucket depends on the protocol that counts, and only the refusal also
on the bucket's name. -/
theorem published_eq (bucket : Bucket) (state : σ) :
    published bucket state = bucket.spec.protocol.connection?.elim
      (.error (.unrecognizedProtocol bucket.metadata.displayName))
      (fun connection => .ok connection.payload.toUTF8) := by
  rw [published, connection_result]
  cases bucket.spec.protocol.connection? <;> rfl

/-- What is published of a bucket with a protocol is the payload of its connection. -/
theorem published_first {bucket : Bucket} {connection : Connection}
    (first : bucket.spec.protocol.First connection) (state : σ) :
    published bucket state = .ok connection.payload.toUTF8 := by
  rw [published_eq, first.connection?_eq]
  rfl

/-- A bucket is published exactly if one of its three protocols is filled in. Otherwise it is
refused by its name, else by the stem for a generated one, else by the empty text; there is no
other failure. What is published of the first protocol that is filled in is a document with
exactly the names that the protocol declares, and its description reads it as what the bucket
holds. Two buckets are published alike exactly if they have the same connection, whatever else
they hold.

Proof: `connection_result` tells which protocol counts, `Connection.payload_readFrom` reads it
back, and `Connection.payload_inj` follows from what is read. -/
theorem connection_published (bucket : Bucket) (state : σ) :
    let protocol := bucket.spec.protocol
    ((published bucket state).isOk = true ↔
      protocol.s3.isSome = true ∨ protocol.azureBlob.isSome = true ∨ protocol.gcs.isSome = true) ∧
    (∀ failure, published bucket state = .error failure →
      failure = .unrecognizedProtocol
          ((bucket.metadata.name.or bucket.metadata.generateName).getD "") ∧
        ∀ kind message, failure ≠ .serialization kind message) ∧
    (protocol.s3.isSome = true ∨ protocol.azureBlob.isSome = true ∨ protocol.gcs.isSome = true →
      ∃ connection, protocol.First connection) ∧
    ∀ connection, protocol.First connection →
      published bucket state = .ok connection.payload.toUTF8 ∧
      (∃ members, Json.read connection.payload = (.object members none, []) ∧
        members.map Prod.fst = connection.keys) ∧
      connection.ReadFrom connection.payload ∧
      ∀ (other : Bucket) (otherConnection : Connection),
        other.spec.protocol.First otherConnection →
        (published other state = published bucket state ↔ otherConnection = connection) := by
  intro protocol
  have sent := published_eq bucket state
  have counted := bucket.spec.protocol.connection?_isSome
  refine ⟨?_, ?_, ?_, ?_⟩
  · refine Iff.trans ?_ counted
    rw [sent]
    cases bucket.spec.protocol.connection? <;> simp [Except.isOk, Except.toBool]
  · intro failure failed
    rw [sent] at failed
    cases counts : bucket.spec.protocol.connection? with
    | none =>
      rw [counts] at failed
      cases failed
      refine ⟨rfl, ?_⟩
      rintro kind message ⟨⟩
    | some connection =>
      rw [counts] at failed
      cases failed
  · intro filled
    obtain ⟨connection, counts⟩ := Option.isSome_iff_exists.mp (counted.mpr filled)
    exact ⟨connection, Protocol.first_of_connection? counts⟩
  · intro connection first
    have bytes := published_first first state
    refine ⟨bytes, connection.payload_members, connection.payload_readFrom, ?_⟩
    intro other otherConnection otherFirst
    rw [bytes, published_first otherFirst state]
    constructor
    · intro same
      have texts : otherConnection.payload = connection.payload :=
        String.toByteArray_inj.mp (Except.ok.inj same)
      exact Connection.payload_inj texts
    · rintro rfl
      rfl

end Node

end BucketMount
