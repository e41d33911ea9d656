import BucketMount.Cluster.Server
import BucketMount.Proofs.ConnectionPayload
import BucketMount.Proofs.ContextArguments

/-!
# A volume context resolved by the command

The command reads the entries of a volume context from its arguments, walks from the request
for access that they name to the bucket, and prints one document: the pod, the names of what
the walk led to, and the connection of the bucket, read back from its own payload. What is
printed is the text of that document; here it is said what a reader gets of it.

`resolve_command` says this for all entries, for every server, and for all surroundings in which
a client can be prepared. It says of the walk only what comes of it, since the walk is told of
elsewhere, and it does not tell what the command logs.
-/

namespace BucketMount

/-! ## What a volume context says -/

namespace VolumeContext

/-- The keys that a volume context has to have, in the order in which they are asked for. -/
def requiredKeys : List String :=
  ["bar-name", "bar-namespace", "csi.storage.k8s.io/pod.name", "csi.storage.k8s.io/pod.namespace"]

/-- Entries give a context if the last values of the four keys are what it says. -/
structure GivenBy (context : VolumeContext) (pairs : List (String × String)) : Prop where
  requestName : Dictionary.lastValue "bar-name" none pairs = some context.requestName
  requestNamespace :
    Dictionary.lastValue "bar-namespace" none pairs = some context.requestNamespace
  podName : Dictionary.lastValue "csi.storage.k8s.io/pod.name" none pairs = some context.podName
  podNamespace :
    Dictionary.lastValue "csi.storage.k8s.io/pod.namespace" none pairs = some context.podNamespace

/-- The context is read that the entries give. -/
theorem GivenBy.read {context : VolumeContext} {pairs : List (String × String)}
    (given : context.GivenBy pairs) : ofDictionary (Dictionary.ofList pairs) = .ok context := by
  simp [ofDictionary, required, Dictionary.get?_ofList, requestNameKey, requestNamespaceKey,
    podNameKey, podNamespaceKey, given.requestName, given.requestNamespace, given.podName,
    given.podNamespace, bind, Except.bind, pure, Except.pure]

/-- The first key without a value is reported. -/
theorem read_missing {pairs : List (String × String)} {key : String}
    (missing : requiredKeys.find? (fun key => (Dictionary.lastValue key none pairs).isNone) =
      some key) :
    ofDictionary (Dictionary.ofList pairs) = .error (.missingContextKey key) := by
  simp only [ofDictionary, required, Dictionary.get?_ofList, requestNameKey, requestNamespaceKey,
    podNameKey, podNamespaceKey, bind, Except.bind]
  simp only [requiredKeys, List.find?] at missing
  cases requestName : Dictionary.lastValue "bar-name" none pairs with
  | none => simpa [requestName] using missing
  | some _ =>
    cases requestNamespace : Dictionary.lastValue "bar-namespace" none pairs with
    | none => simpa [requestName, requestNamespace] using missing
    | some _ =>
      cases podName : Dictionary.lastValue "csi.storage.k8s.io/pod.name" none pairs with
      | none => simpa [requestName, requestNamespace, podName] using missing
      | some _ =>
        cases podNamespace :
            Dictionary.lastValue "csi.storage.k8s.io/pod.namespace" none pairs with
        | none => simpa [requestName, requestNamespace, podName, podNamespace] using missing
        | some _ => simp [requestName, requestNamespace, podName, podNamespace] at missing

end VolumeContext

/-! ## What a walk leads to -/

namespace CommandLine

variable {σ : Type}

/-- Entries that do not give a context are refused before anything is asked for. -/
theorem resolve_refused (client : Client σ) {pairs : List (String × String)} {failure : NodeError}
    (refused : VolumeContext.ofDictionary (Dictionary.ofList pairs) = .error failure) (state : σ) :
    (resolve client pairs state).result = .error failure ∧
      (resolve client pairs state).state = state := by
  have failed : (VolumeContext.read (Dictionary.ofList pairs) state).result = .error failure :=
    refused
  rw [resolve, Operation.bind_failed _ _ _ _ failed]
  exact ⟨rfl, rfl⟩

/-- A walk leads to what it resolved and to the connection of the bucket. -/
structure LeadsTo (walk : Outcome σ Resolved) (resolved : Resolved) (connection : Connection) :
    Prop where
  walked : walk.result = .ok resolved
  connected : (Node.connection resolved.bucket walk.state).result = .ok connection

/-- A walk fails itself, or leads to a bucket without a connection. -/
def FailsWith (walk : Outcome σ Resolved) (failure : NodeError) : Prop :=
  walk.result = .error failure ∨ ∃ resolved, walk.result = .ok resolved ∧
    (Node.connection resolved.bucket walk.state).result = .error failure

/-- A walk leads somewhere or fails. -/
theorem leads_or_fails (walk : Outcome σ Resolved) :
    (∃ resolved connection, LeadsTo walk resolved connection) ∨
      ∃ failure, FailsWith walk failure := by
  cases walked : walk.result with
  | error failure => exact .inr ⟨failure, .inl walked⟩
  | ok resolved =>
    cases connected : (Node.connection resolved.bucket walk.state).result with
    | error failure => exact .inr ⟨failure, .inr ⟨resolved, walked, connected⟩⟩
    | ok connection => exact .inl ⟨resolved, connection, walked, connected⟩

section Given

variable (client : Client σ) {pairs : List (String × String)} {context : VolumeContext}
  (given : context.GivenBy pairs) (state : σ)

include given

/-- Entries that give a context lead to what the walk and the bucket's connection lead to. -/
theorem resolve_given :
    let walk := Node.resolve client context.requestName context.requestNamespace state
    (resolve client pairs state).state = walk.state ∧
      (resolve client pairs state).result = walk.result.bind fun resolved =>
        (Node.connection resolved.bucket walk.state).result.map
          (resolvedDocument context resolved) := by
  intro walk
  have passed : (VolumeContext.read (Dictionary.ofList pairs) state).result = .ok context :=
    given.read
  have left : (VolumeContext.read (Dictionary.ofList pairs) state).state = state := rfl
  rw [resolve, Operation.bind_passed _ _ _ _ passed, left]
  cases walked : walk.result with
  | error failure =>
    rw [Operation.bind_failed _ _ _ _ walked]
    exact ⟨rfl, rfl⟩
  | ok resolved =>
    rw [Operation.bind_passed _ _ _ _ walked]
    cases connected : (Node.connection resolved.bucket walk.state).result with
    | error failure =>
      rw [Operation.bind_failed _ _ _ _ connected]
      exact ⟨Node.connection_state _ _, by rw [Except.bind, connected]; rfl⟩
    | ok connection =>
      rw [Operation.bind_passed _ _ _ _ connected]
      exact ⟨Node.connection_state _ _, by rw [Except.bind, connected]; rfl⟩

/-- The document tells what the walk leads to. -/
theorem resolve_leads {resolved : Resolved} {connection : Connection}
    (leads : LeadsTo (Node.resolve client context.requestName context.requestNamespace state)
      resolved connection) :
    (resolve client pairs state).result = .ok (resolvedDocument context resolved connection) := by
  rw [(resolve_given client given state).2, leads.walked, Except.bind, leads.connected]
  rfl

/-- There is no document if the walk fails. -/
theorem resolve_fails {failure : NodeError}
    (fails : FailsWith (Node.resolve client context.requestName context.requestNamespace state)
      failure) : (resolve client pairs state).result = .error failure := by
  rcases fails with walked | ⟨resolved, walked, connected⟩
  · rw [(resolve_given client given state).2, walked]
    rfl
  · rw [(resolve_given client given state).2, walked, Except.bind, connected]
    rfl

end Given

/-! ## What is printed -/

/-- The names in the document that is printed ascend. -/
theorem printed_ascends :
    ["bucket", "bucketAccess", "pod", "protocol", "secret"].Pairwise (· < ·) := by
  decide +kernel

/-- The members of the document that is printed, with the value of the connection. -/
theorem resolvedDocument_members (context : VolumeContext) (resolved : Resolved)
    (connection : Connection) :
    resolvedDocument context resolved connection = .object [
      ("bucket", .string resolved.bucket.metadata.displayName),
      ("bucketAccess", .string resolved.access.metadata.displayName),
      ("pod", .string (context.podNamespace ++ "/" ++ context.podName)),
      ("protocol", connection.value),
      ("secret", .string resolved.secret.metadata.displayName)] none := by
  rw [resolvedDocument, connection.document_written]
  simp only [connection.ascending_document]
  rw [ascending, Dictionary.ofList_ascending]
  exact printed_ascends

/-- The printed text is read as the document. -/
theorem printed_read (context : VolumeContext) (resolved : Resolved) (connection : Connection) :
    Format.unstructured.ofText
        ((resolvedDocument context resolved connection).indentedText ++ "\n") =
      .ok (resolvedDocument context resolved connection) := by
  rw [resolvedDocument_members]
  have value : Json.Legible 1 connection.value := Connection.texts_legible (by decide) _
  refine Json.collected_indented ?_ (Json.object_canonical printed_ascends ?_)
  · simp [Json.Legible, Json.LegibleMembers, value, Json.deepest]
  · simp [connection.value_canonical, Json.isCanonical]

/-! ## The whole run -/

/-- A run that resolves a volume context, for any entries told in arguments of their own.

An entry without an equals sign is an error of usage, told of the first such entry, and nothing
is asked for. Otherwise every entry is split at its first equals sign, and of several values of
a key the last one counts. The first required key without a value is complained about, and
nothing is asked for. If there is none, the run walks to the bucket and passes exactly if the
walk does and the bucket has a connection; it asks for nothing behind the walk. It then prints
one document, from which a reader gets the pod, the names of what was found, and the value of
the first protocol that is filled in, and the payload of the connection can be read back.
Otherwise it complains about what failed.

Proof: the arguments are scanned one by one, a dictionary keeps the last value of each key, and
the printed document is sorted and holds nothing but texts, so it is read as it was written. -/
theorem resolve_command (entries : List String) (surroundings : Surroundings)
    (transport : Http.Transport σ) (state : σ) :
    let report := run (resolving entries) surroundings transport state
    (∀ before entry after, entries = before ++ entry :: after →
      (∀ earlier ∈ before, '=' ∈ earlier.toList) → '=' ∉ entry.toList →
      report.exitCode = 2 ∧ report.output = "" ∧ report.state = state ∧
      report.complaint = some ("error: invalid value '" ++ Text.visible entry ++
        "' for '--context <CONTEXT>': expected key=value, got " ++ Text.quoted entry)) ∧
    ((∀ entry ∈ entries, '=' ∈ entry.toList) → surroundings.Ready →
      ∃ pairs, List.Forall₂ Tells entries pairs ∧
        (∀ key, VolumeContext.requiredKeys.find?
            (fun key => (Dictionary.lastValue key none pairs).isNone) = some key →
          report.exitCode = 1 ∧ report.output = "" ∧ report.state = state ∧
          report.complaint = some ("Error: required volume context key unset: " ++ key)) ∧
        ∀ context : VolumeContext, context.GivenBy pairs →
          let walk :=
            Node.resolve (Http.client transport) context.requestName context.requestNamespace state
          report.state = walk.state ∧
          (report.exitCode = 0 ↔ ∃ resolved connection, LeadsTo walk resolved connection) ∧
          (∀ resolved connection, LeadsTo walk resolved connection →
            resolved.bucket.spec.protocol.First connection ∧
            Format.unstructured.ofText connection.payload = .ok connection.value ∧
            report.complaint = none ∧
            Format.unstructured.ofText report.output = .ok (.object [
              ("bucket", .string resolved.bucket.metadata.displayName),
              ("bucketAccess", .string resolved.access.metadata.displayName),
              ("pod", .string (context.podNamespace ++ "/" ++ context.podName)),
              ("protocol", connection.value),
              ("secret", .string resolved.secret.metadata.displayName)] none)) ∧
          ∀ failure, FailsWith walk failure →
            report.exitCode = 1 ∧ report.output = "" ∧
            report.complaint = some (Complaint.ofError failure).text) := by
  intro report
  constructor
  · intro before entry after split signed sign
    have refused := run_unsigned signed sign after surroundings transport state
    rw [← split] at refused
    simp [report, refused]
  · intro signed ready
    obtain ⟨pairs, told⟩ := tell_of_signed signed
    obtain ⟨left, passes, fails⟩ := run_resolving ready signed told transport state
    refine ⟨pairs, told, fun key missing => ?_, fun context given => ?_⟩
    · obtain ⟨refused, kept⟩ := resolve_refused (Http.client transport)
        (VolumeContext.read_missing missing) state
      obtain ⟨exitCode, output, complaint⟩ := fails _ refused
      exact ⟨exitCode, output, left.trans kept, complaint⟩
    · intro walk
      have passed (resolved : Resolved) (connection : Connection)
          (leads : LeadsTo walk resolved connection) :=
        passes _ (resolve_leads (Http.client transport) given state leads)
      have failed (failure : NodeError) (stuck : FailsWith walk failure) :=
        fails _ (resolve_fails (Http.client transport) given state stuck)
      refine ⟨left.trans (resolve_given _ given state).1, ⟨fun exits => ?_, ?_⟩, ?_, failed⟩
      · rcases leads_or_fails walk with leads | ⟨failure, stuck⟩
        · exact leads
        · exact absurd (exits.symm.trans (failed failure stuck).1) (by decide)
      · rintro ⟨resolved, connection, leads⟩
        exact (passed resolved connection leads).1
      · intro resolved connection leads
        obtain ⟨_, output, complaint⟩ := passed resolved connection leads
        refine ⟨Node.connection_first leads.connected, connection.payload_read, complaint, ?_⟩
        rw [show report.output = _ from output, printed_read, resolvedDocument_members]

/-- A cluster in which a request for access is granted to a bucket of a storage account. -/
def publishingCluster : Cluster :=
  let document (name : String) (spec status : List (String × Json)) : String :=
    Json.text (.object [("metadata", .object [("name", .string name)] none),
      ("spec", .object spec none), ("status", .object status none)] none)
  let account := Json.object
    [("containerName", .string "files"), ("storageAccount", .string "store")] none
  Cluster.empty
    |>.put (Address.path ⟨.bucketAccessRequest, some "apps", "uploads"⟩)
      (document "uploads" [("bucketRequestName", .string "files")]
        [("accessGranted", .boolean true), ("bucketAccessName", .string "grant")])
    |>.put (Address.path ⟨.bucketAccess, none, "grant"⟩)
      (document "grant" [("bucketName", .string "files-1"), ("mintedSecretName", .string "keys")]
        [("accessGranted", .boolean true)])
    |>.put (Address.path ⟨.bucket, none, "files-1"⟩)
      (document "files-1" [("protocol", .object [("azureBlob", account)] none)]
        [("bucketAvailable", .boolean true)])
    |>.put (Address.path ⟨.secret, some "apps", "keys"⟩) (document "keys" [] [])

/-- Entries that tell one key twice, one without a value, and one that is not asked for. -/
def repeatedEntries : List String :=
  ["bar-name=drafts", "bar-namespace=apps", "note=a=b", "bar-name=uploads",
    "csi.storage.k8s.io/pod.name=", "csi.storage.k8s.io/pod.namespace=apps"]

/-- The request counts that is told last, and a key that is not asked for does no harm. -/
theorem storage_account_published :
    plainSurroundings.Ready ∧ (∀ entry ∈ repeatedEntries, '=' ∈ entry.toList) ∧ ∃ report,
      run (resolving repeatedEntries) plainSurroundings Cluster.transport publishingCluster =
        report ∧
      report.exitCode = 0 ∧ report.complaint = none ∧
      Format.unstructured.ofText report.output = .ok (.object [("bucket", .string "files-1"),
        ("bucketAccess", .string "grant"), ("pod", .string "apps/"),
        ("protocol", .object [("containerName", .string "files"),
          ("storageAccount", .string "store")] none),
        ("secret", .string "keys")] none) := by
  have ready : plainSurroundings.Ready := ⟨⟨_, rfl⟩, fun _ => ⟨_, rfl⟩⟩
  have signed : ∀ entry ∈ repeatedEntries, '=' ∈ entry.toList := by decide
  obtain ⟨pairs, told, _, outcome⟩ :=
    (resolve_command repeatedEntries plainSurroundings Cluster.transport publishingCluster).2
      signed ready
  have given : VolumeContext.GivenBy ⟨"uploads", "apps", "", "apps"⟩ pairs := by
    rw [← filterMap_pair? told]
    exact ⟨by decide, by decide, by decide, by decide⟩
  obtain ⟨_, exits, prints, _⟩ := outcome _ given
  have found : (Node.resolve (Http.client Cluster.transport) "uploads" "apps"
      publishingCluster).result.toOption.map (fun resolved =>
        (resolved.bucket.metadata.displayName, resolved.access.metadata.displayName,
          resolved.secret.metadata.displayName, resolved.bucket.spec.protocol.connection?)) =
      some ("files-1", "grant", "keys", some (.azureBlob ⟨"files", "store"⟩)) := by decide +kernel
  generalize Node.resolve (Http.client Cluster.transport) "uploads" "apps" publishingCluster = walk
    at exits prints found
  obtain ⟨resolved, passed, named⟩ := Option.map_eq_some_iff.mp found
  simp only [Prod.mk.injEq] at named
  obtain ⟨bucket, access, secret, counts⟩ := named
  have walked : walk.result = .ok resolved := Operation.passes_of_toOption passed
  have connected : (Node.connection resolved.bucket walk.state).result =
      .ok (.azureBlob ⟨"files", "store"⟩) := by
    rw [Node.connection_result, counts]
    rfl
  obtain ⟨_, _, complaint, printed⟩ := prints _ _ ⟨walked, connected⟩
  have pod : "apps" ++ "/" ++ "" = "apps/" := by decide
  rw [bucket, access, secret] at printed
  rw [← pod]
  exact ⟨ready, signed, _, rfl, exits.mpr ⟨_, _, walked, connected⟩, complaint, printed⟩

end CommandLine

end BucketMount
