import BucketMount.Format.Record
import BucketMount.Json.Writer

/-!
# How a bucket is reached

A bucket is reached by one of three protocols. Its description has room for all
of them; if several are filled in, the first in the order S3, Azure, Google is
the one that counts. What a workload gets to see is the document of that one
protocol and nothing else of the bucket.
-/

namespace BucketMount

/-- How requests to an S3 service are signed. -/
inductive SignatureVersion where
  | version2
  | version4
  deriving DecidableEq, Repr

namespace SignatureVersion

/-- The name of a signature version. -/
def name : SignatureVersion → String
  | .version2 => "S3V2"
  | .version4 => "S3V4"

/-- The format of signature versions. -/
def format : Format SignatureVersion :=
  .choice [("S3V2", .version2), ("S3V4", .version4)] name

end SignatureVersion

/-- A bucket of an S3 service. -/
structure S3Protocol where
  endpoint : String
  bucketName : String
  region : String
  signatureVersion : SignatureVersion
  deriving DecidableEq, Repr

/-- A container of a storage account at Azure. -/
structure AzureProtocol where
  containerName : String
  storageAccount : String
  deriving DecidableEq, Repr

/-- A bucket at Google Cloud Storage. -/
structure GcsProtocol where
  bucketName : String
  privateKeyName : String
  projectId : String
  serviceAccount : String
  deriving DecidableEq, Repr

/-- The protocols that are filled in for a bucket. -/
structure Protocol where
  s3 : Option S3Protocol
  azureBlob : Option AzureProtocol
  gcs : Option GcsProtocol
  deriving DecidableEq, Repr

/-- The description of an S3 bucket. -/
def S3Protocol.record : Record S3Protocol where
  name := "S3Protocol"
  description := some "S3 connection details"
  initial := ⟨"", "", "", .version4⟩
  fields := [
    .defaulted "endpoint" "Service endpoint URL" .string "" S3Protocol.endpoint
      ({ · with endpoint := · }),
    .defaulted "bucketName" "Bucket name on the service" .string "" S3Protocol.bucketName
      ({ · with bucketName := · }),
    .defaulted "region" "Region" .string "" S3Protocol.region ({ · with region := · }),
    .defaulted "signatureVersion" "Request signing scheme" SignatureVersion.format .version4
      S3Protocol.signatureVersion ({ · with signatureVersion := · })]

/-- The description of an Azure container. -/
def AzureProtocol.record : Record AzureProtocol where
  name := "AzureProtocol"
  description := some "Azure Blob connection details"
  initial := ⟨"", ""⟩
  fields := [
    .defaulted "containerName" "Blob container name" .string "" AzureProtocol.containerName
      ({ · with containerName := · }),
    .defaulted "storageAccount" "Storage account holding the container" .string ""
      AzureProtocol.storageAccount ({ · with storageAccount := · })]

/-- The description of a Google bucket. -/
def GcsProtocol.record : Record GcsProtocol where
  name := "GcsProtocol"
  description := some "Google Cloud Storage connection details"
  initial := ⟨"", "", "", ""⟩
  fields := [
    .defaulted "bucketName" "Bucket name on the service" .string "" GcsProtocol.bucketName
      ({ · with bucketName := · }),
    .defaulted "privateKeyName" "Name of the service account key" .string ""
      GcsProtocol.privateKeyName ({ · with privateKeyName := · }),
    .defaulted "projectID" "GCP project" .string "" GcsProtocol.projectId
      ({ · with projectId := · }),
    .defaulted "serviceAccount" "GCP service account email" .string ""
      GcsProtocol.serviceAccount ({ · with serviceAccount := · })]

/-- The one protocol that counts. -/
inductive Connection where
  | s3 (details : S3Protocol)
  | azureBlob (details : AzureProtocol)
  | gcs (details : GcsProtocol)
  deriving DecidableEq, Repr

namespace Connection

/-- The member of a bucket's description under which the protocol stands. -/
def name : Connection → String
  | .s3 _ => "s3"
  | .azureBlob _ => "azureBlob"
  | .gcs _ => "gcs"

/-- The document that a workload gets to see. -/
def document : Connection → Json
  | .s3 details => S3Protocol.record.format.encode details
  | .azureBlob details => AzureProtocol.record.format.encode details
  | .gcs details => GcsProtocol.record.format.encode details

/-- The text of that document. -/
def payload (connection : Connection) : String := connection.document.text

end Connection

namespace Protocol

/-- No protocol filled in. -/
def empty : Protocol := ⟨none, none, none⟩

/-- The description of a bucket's protocols. -/
def record : Record Protocol where
  name := "Protocol"
  description := some "Protocol connection details. At most one variant is expected to be set."
  initial := empty
  fields := [
    .optional "s3" (some "S3-compatible object store") S3Protocol.record.format s3
      ({ · with s3 := · }),
    .optional "azureBlob" (some "Azure Blob storage") AzureProtocol.record.format azureBlob
      ({ · with azureBlob := · }),
    .optional "gcs" (some "Google Cloud Storage") GcsProtocol.record.format gcs
      ({ · with gcs := · })]

/-- The first protocol filled in, in the order S3, Azure, Google. -/
def connection? (protocol : Protocol) : Option Connection :=
  (protocol.s3.map .s3).or ((protocol.azureBlob.map .azureBlob).or (protocol.gcs.map .gcs))

end Protocol

end BucketMount
