import BucketMount.Resource.Metadata

/-!
# Secrets

A secret holds credentials: bytes by key, and texts by key that the store turns
into bytes. Only its metadata is needed to resolve a bucket; its contents are
decoded and written back unchanged.
-/

namespace BucketMount

/-- A secret of the cluster's core types. -/
structure Secret where
  data : Option (Dictionary (List UInt8))
  isImmutable : Option Bool
  metadata : Metadata
  stringData : Option (Dictionary String)
  type : Option String

namespace Secret

/-- A constant member that may be missing and is always written. -/
def constantField (key value : String) : Field Secret :=
  .elided key none (.constant value) () (fun _ => false) (fun _ => ()) (fun secret _ => secret)

/-- The description of a secret. -/
def record : Record Secret where
  name := "Secret"
  description := none
  initial := ⟨none, none, .empty, none, none⟩
  fields := [
    constantField "apiVersion" "v1",
    constantField "kind" "Secret",
    .optional "data" none (.dictionary .bytes) data ({ · with data := · }),
    .optional "immutable" none .boolean isImmutable ({ · with isImmutable := · }),
    .elided "metadata" none (.nullAs .empty Metadata.format) .empty (fun _ => false) metadata
      ({ · with metadata := · }),
    .optional "stringData" none (.dictionary .string) stringData ({ · with stringData := · }),
    .optional "type" none .string type ({ · with type := · })]

/-- The format of a secret. -/
def format : Format Secret := record.coreFormat

end Secret

end BucketMount
