import BucketMount.Resource.Custom
import BucketMount.Resource.Reference

/-!
# Grants of access

A grant belongs to the cluster and is minted for an approved access request. It
names the bucket and the secret that holds the credentials.
-/

namespace BucketMount

/-- What is wanted of a grant. -/
structure BucketAccessSpec where
  bucketName : String
  bucketAccessRequest : Option Reference
  serviceAccount : Option Reference
  mintedSecretName : String
  policyActionsConfigMapData : String
  principal : String
  parameters : Dictionary String
  deriving DecidableEq

/-- What is reported of a grant. -/
structure BucketAccessStatus where
  accessGranted : Bool
  deriving DecidableEq

/-- A grant of access to one bucket. -/
abbrev BucketAccess := CustomObject BucketAccessSpec BucketAccessStatus

/-- The description of what is wanted of a grant. -/
def BucketAccessSpec.record : Record BucketAccessSpec where
  name := "BucketAccessSpec"
  description := some "BucketAccess authorizes a principal to use one bucket."
  initial := ⟨"", none, none, "", "", "", .empty⟩
  fields := [
    .defaulted "bucketName" "Name of the Bucket this grant applies to" .string ""
      BucketAccessSpec.bucketName ({ · with bucketName := · }),
    .optional "bucketAccessRequest" (some "The request this grant was minted for")
      Reference.record.format BucketAccessSpec.bucketAccessRequest
      ({ · with bucketAccessRequest := · }),
    .optional "serviceAccount" (some "Service account bound to the grant")
      Reference.record.format BucketAccessSpec.serviceAccount ({ · with serviceAccount := · }),
    .defaulted "mintedSecretName" "Name of the Secret holding minted credentials" .string ""
      BucketAccessSpec.mintedSecretName ({ · with mintedSecretName := · }),
    .elided "policyActionsConfigMapData" (some "Policy actions handed to the provisioner")
      .string "" (· == "") BucketAccessSpec.policyActionsConfigMapData
      ({ · with policyActionsConfigMapData := · }),
    .elided "principal" (some "Provider-side identity the credentials belong to") .string ""
      (· == "") BucketAccessSpec.principal ({ · with principal := · }),
    .elided "parameters" (some "Opaque provisioner parameters") (.dictionary .string) .empty
      Dictionary.isEmpty BucketAccessSpec.parameters ({ · with parameters := · })]

/-- The description of what is reported of a grant. -/
def BucketAccessStatus.record : Record BucketAccessStatus where
  name := "BucketAccessStatus"
  description := some "BucketAccess status"
  initial := ⟨false⟩
  fields := [
    .defaulted "accessGranted" "Whether the provisioner granted access" .boolean false
      BucketAccessStatus.accessGranted ({ · with accessGranted := · })]

namespace BucketAccess

/-- Grants as a custom kind. -/
def kind : CustomKind BucketAccessSpec BucketAccessStatus where
  name := "BucketAccess"
  plural := "bucketaccesses"
  scope := .cluster
  spec := BucketAccessSpec.record
  status := BucketAccessStatus.record
  columns := [⟨"Bucket", "string", ".spec.bucketName"⟩,
    ⟨"Granted", "boolean", ".status.accessGranted"⟩]

/-- True once the grant is reported to be in force. -/
def granted (access : BucketAccess) : Bool := access.status.any BucketAccessStatus.accessGranted

/-- The name of the bucket, if set. -/
def bucketName? (access : BucketAccess) : Option String := nonEmpty? access.spec.bucketName

/-- The name of the secret with the credentials, if set. -/
def mintedSecretName? (access : BucketAccess) : Option String :=
  nonEmpty? access.spec.mintedSecretName

/-- The markers on the grant; unset counts as none. -/
def finalizers (access : BucketAccess) : List String := access.metadata.finalizers.getD []

end BucketAccess

end BucketMount
