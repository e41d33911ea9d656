import BucketMount.Cluster.Direct
import BucketMount.Cluster.Server
import BucketMount.Main
import BucketMount.Proofs.AdmittedDocuments
import BucketMount.Proofs.AlikeDocuments
import BucketMount.Proofs.ConcealedContents
import BucketMount.Proofs.ConnectionPayload
import BucketMount.Proofs.EncodedText
import BucketMount.Proofs.FailingUpdates
import BucketMount.Proofs.FilteredEvents
import BucketMount.Proofs.HeldGrant
import BucketMount.Proofs.LoggedFailures
import BucketMount.Proofs.MarkedByCommand
import BucketMount.Proofs.NamedLinks
import BucketMount.Proofs.ResolvedByCommand
import BucketMount.Proofs.RewrittenGrant
import BucketMount.Proofs.ServedPaths
import BucketMount.Proofs.ServedStore
import BucketMount.Proofs.SharedGrant
import BucketMount.Proofs.ToldAbsence
import BucketMount.Proofs.UndoneMarking
