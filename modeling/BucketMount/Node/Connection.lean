import BucketMount.Node.Operation

/-!
# What a workload gets to see of a bucket

The connection of a bucket is the first of its protocols that is filled in. A
bucket without any cannot be published.
-/

namespace BucketMount.Node

/-- The event that shows the protocols of a bucket. -/
def protocolEvent (bucket : Bucket) : Log.Event :=
  ⟨.info, "cosi_node::protocol", "bucket protocol",
    [("bucket", .shown bucket.metadata.displayName),
      ("protocol", .shown (Protocol.record.shown bucket.spec.protocol))], none⟩

/-- The connection of a bucket. -/
def connection {σ : Type} (bucket : Bucket) : Operation σ Connection := do
  .log (protocolEvent bucket)
  .demand (.unrecognizedProtocol bucket.metadata.displayName) bucket.spec.protocol.connection?

end BucketMount.Node
