import BucketMount.Cluster.Direct
import BucketMount.CommandLine.Run
import BucketMount.Proofs.AlikeRequests
import BucketMount.Proofs.LiteralGates

/-!
# Contents that are concealed

The contents of a secret go to whoever mounts the bucket, and nowhere else. Two clusters that
differ in the contents of secrets alone cannot be told apart by what a node asks of them, by
what it logs, by how it fails, or by what a command prints; `contents_concealed` says so of
the walk from a request and of whole runs of the program, over both clients and whatever
fails on the way.

Both texts of a secret have to be readable. One that is not is quoted in the log and in the
failure, with whatever it holds.
-/

namespace BucketMount

/-! ## Clusters with other contents -/

namespace Cluster

variable {α : Type} {left right : Cluster}

/-- Two clusters differ in the contents of secrets at most: they have the same faults, and under
each path lies the same, or there lie two secrets that differ in their contents at most. -/
structure Alike (left right : Cluster) : Prop where
  faults : left.faults = right.faults
  objects (path : String) : left.get? path = right.get? path ∨
    SecretPath path ∧ ∃ text other, left.get? path = some text ∧ right.get? path = some other ∧
      Secret.AlikeTexts text other

/-- Faults are met alike. -/
theorem meet_alike (alike : left.Alike right) (access : Access) :
    ∃ fault next other, left.meet access = (fault, next) ∧ right.meet access = (fault, other) ∧
      next.Alike other := by
  obtain ⟨objects, faults⟩ := left
  obtain ⟨otherObjects, otherFaults⟩ := right
  obtain ⟨same, found⟩ := alike
  obtain rfl : faults = otherFaults := same
  exact ⟨_, _, _, rfl, rfl, rfl, found⟩

/-- Clusters stay alike when the same is stored under the same path. -/
theorem put_alike (alike : left.Alike right) (path text : String) :
    (left.put path text).Alike (right.put path text) where
  faults := alike.faults
  objects other := by
    rw [get?_put, get?_put]
    split
    · exact .inl rfl
    · exact alike.objects other

/-- Requests are served alike. -/
theorem serve_alike (alike : left.Alike right) (request : Http.Request) :
    Http.AlikeResponses request.target.path (serve request left).1 (serve request right).1 ∧
      (serve request left).2.Alike (serve request right).2 := by
  obtain ⟨method, target, body⟩ := request
  rcases alike.objects target.path with same | ⟨secret, text, other, stored, otherStored, texts⟩
  · cases found : right.get? target.path with
    | none =>
      simp only [serve, same, found]
      exact ⟨.same _, alike⟩
    | some text =>
      cases method with
      | get =>
        simp only [serve, same, found]
        exact ⟨.same _, alike⟩
      | put =>
        simp only [serve, same, found]
        exact ⟨.same _, put_alike alike _ _⟩
  · cases method with
    | get =>
      simp only [serve, stored, otherStored]
      exact ⟨.secrets secret texts, alike⟩
    | put =>
      simp only [serve, stored, otherStored]
      exact ⟨.same _, put_alike alike _ _⟩

/-- Requests are answered alike, with the same faults in between. -/
theorem answer_alike (alike : left.Alike right) (request : Http.Request) :
    Http.AlikeResponses request.target.path (left.answer request).1 (right.answer request).1 ∧
      (left.answer request).2.Alike (right.answer request).2 := by
  cases sort : accessOf? request with
  | none =>
    simp only [answer, sort]
    exact serve_alike alike request
  | some access =>
    obtain ⟨fault, next, other, first, second, behind⟩ := meet_alike alike access
    cases fault with
    | some fault =>
      simp only [answer, sort, first, second]
      exact ⟨.same _, behind⟩
    | none =>
      simp only [answer, sort, first, second]
      exact serve_alike behind request

/-- The servers of clusters that are alike cannot be told apart. -/
theorem transport_alike : Http.AlikeTransports Alike transport transport := by
  intro request cluster other clusters
  obtain ⟨responses, behind⟩ := answer_alike clusters request
  simp only [transport]
  refine ⟨?_, behind⟩
  generalize (cluster.answer request).1 = response at responses
  generalize (other.answer request).1 = otherResponse at responses
  cases responses with
  | same =>
    split
    · exact .ok (.same _)
    · exact .error _
  | secrets secret texts => exact .ok (.secrets secret texts)

/-- An object that is read alike is found alike. -/
theorem find_alike {format : Format α} {same : α → α → Prop} {address : Address}
    (reads : ReadsAlike format same address.path) :
    AlikeCalls Alike (Option.Rel same) (find format address) (find format address) := by
  intro cluster other clusters
  obtain ⟨fault, next, otherNext, first, second, behind⟩ :=
    meet_alike clusters (.find address.kind)
  cases fault with
  | some fault =>
    simp only [find, first, second]
    exact ⟨.error _, rfl, behind⟩
  | none =>
    simp only [find, first, second]
    rcases behind.objects address.path with
      unchanged | ⟨secret, text, otherText, stored, otherStored, texts⟩
    · rw [unchanged]
      cases otherNext.get? address.path with
      | none => exact ⟨.ok .none, rfl, behind⟩
      | some text =>
        refine ⟨?_, rfl, behind⟩
        cases decoded : format.ofText text with
        | error cause =>
          simp only [Reply.quiet, decoded]
          exact .error _
        | ok value =>
          simp only [Reply.quiet, decoded]
          exact .ok (.some (reads.unchanged value))
    · obtain ⟨value, otherValue, decoded, otherDecoded, values⟩ :=
        reads.secrets secret text otherText texts
      simp only [stored, otherStored, Reply.quiet, decoded, otherDecoded]
      exact ⟨.ok (.some values), trivial, behind⟩

/-- An object of another kind is found alike. -/
theorem find_custom_alike {format : Format α} {address : Address}
    (custom : address.kind ≠ .secret) :
    AlikeCalls Alike (Option.Rel (· = ·)) (find format address) (find format address) :=
  find_alike (readsAlike_elsewhere (Address.custom_path custom))

/-- Grants are replaced alike. -/
theorem replace_alike (access : BucketAccess) :
    AlikeCalls Alike (· = ·) (replace access) (replace access) := by
  intro cluster other clusters
  obtain ⟨fault, next, otherNext, first, second, behind⟩ := meet_alike clusters .update
  cases fault with
  | some fault =>
    simp only [replace, first, second]
    exact ⟨.error _, rfl, behind⟩
  | none =>
    simp only [replace, first, second]
    exact ⟨.ok rfl, rfl, put_alike behind _ _⟩

/-- The client with direct access cannot tell clusters that are alike apart. -/
theorem client_alike : AlikeClients Alike client client where
  findBucketAccessRequest _ _ := find_custom_alike (by simp)
  findBucketAccess _ := find_custom_alike (by simp)
  findBucketRequest _ _ := find_custom_alike (by simp)
  findBucket _ := find_custom_alike (by simp)
  findSecret _ _ := find_alike (Secret.readsAlike _)
  replaceBucketAccess := replace_alike

end Cluster

/-! ## Commands -/

namespace CommandLine

variable {σ : Type} {related : σ → σ → Prop} {left right : Client σ}

/-- Two effects are the same but for the states that they leave behind. -/
structure AlikeEffects (related : σ → σ → Prop) (left right : Effect σ) : Prop where
  result : left.result = right.result
  events : left.events = right.events
  state : related left.state right.state

/-- Two reports are the same but for the states that they leave behind. -/
structure AlikeReports (related : σ → σ → Prop) (left right : Report σ) : Prop where
  exitCode : left.exitCode = right.exitCode
  output : left.output = right.output
  entries : left.entries = right.entries
  complaint : left.complaint = right.complaint
  state : related left.state right.state

/-- Effects behind the same events are alike. -/
theorem AlikeEffects.behind {effect other : Effect σ} (effects : AlikeEffects related effect other)
    {events otherEvents : List Log.Event} (before : events = otherEvents) :
    AlikeEffects related (effect.behind events) (other.behind otherEvents) where
  result := effects.result
  events := by simp only [Effect.behind, before, effects.events]
  state := effects.state

/-- Operations that come to the same have the same effect. -/
theorem ofOutcome_alike {α : Type} (printed : α → String) {operation other : Operation σ α}
    (operations : AlikeOperations related (· = ·) operation other) {state otherState : σ}
    (states : related state otherState) :
    AlikeEffects related (.ofOutcome printed (operation state))
      (.ofOutcome printed (other otherState)) := by
  obtain ⟨results, events, behind⟩ := operations state otherState states
  have same : (operation state).result = (other otherState).result := alikeResults_eq results
  exact ⟨by simp only [Effect.ofOutcome, same], events, behind⟩

/-- A bucket has one connection, whoever asks. -/
theorem connection_alike (bucket : Bucket) :
    AlikeOperations related (· = ·) (Node.connection bucket) (Node.connection bucket) := by
  have same : Option.Rel (· = ·) bucket.spec.protocol.connection?
      bucket.spec.protocol.connection? := by
    cases bucket.spec.protocol.connection? with
    | none => exact .none
    | some connection => exact .some rfl
  exact alike_bind_eq (alike_log _) fun _ => alike_demand _ same

/-- A document tells a secret's name and nothing else of it. -/
theorem resolvedDocument_alike (context : VolumeContext) {resolved other : Resolved}
    (values : resolved.Alike other) (connection : Connection) :
    resolvedDocument context resolved connection = resolvedDocument context other connection := by
  simp only [resolvedDocument, values.bucket, values.access, values.secret.metadata]

/-- A volume context is resolved to the same document. -/
theorem resolve_alike (clients : AlikeClients related left right)
    (context : List (String × String)) :
    AlikeOperations related (· = ·) (resolve left context) (resolve right context) := by
  have reading : AlikeOperations related (· = ·) (VolumeContext.read (Dictionary.ofList context))
      (VolumeContext.read (Dictionary.ofList context)) :=
    fun _ _ states => ⟨alikeResults_refl _, rfl, states⟩
  refine alike_bind_eq reading fun context => ?_
  refine alike_bind (Node.resolve_alike clients _ _) fun resolved other values => ?_
  rw [values.bucket]
  refine alike_bind_eq (connection_alike _) fun connection => ?_
  exact alike_pure (resolvedDocument_alike context values connection)

/-- A grant is marked alike. -/
theorem mark_alike (clients : AlikeClients related left right) (action : Finalizer.Action)
    (name marker : String) {state other : σ} (states : related state other) :
    AlikeEffects related (mark left action name marker state)
      (mark right action name marker other) := by
  obtain ⟨results, events, behind⟩ := clients.findBucketAccess name state other states
  simp only [mark]
  generalize (left.findBucketAccess name state).result = result at results
  generalize (right.findBucketAccess name other).result = otherResult at results
  cases results with
  | error failure => exact ⟨rfl, events, behind⟩
  | ok values =>
    cases values with
    | none => exact ⟨rfl, events, behind⟩
    | @some access _ same =>
      subst same
      have marking : AlikeOperations related (· = ·) (Node.mark left action marker access).2
          (Node.mark right action marker access).2 :=
        alike_bind_eq (alike_log _) fun _ => alike_call _ (clients.replaceBucketAccess _)
      exact (ofOutcome_alike markerLines marking behind).behind events

/-- A command is carried out alike. -/
theorem perform_alike (clients : AlikeClients related left right) (command : Command)
    {state other : σ} (states : related state other) :
    AlikeEffects related (perform left command state) (perform right command other) := by
  cases command with
  | resolve context => exact ofOutcome_alike _ (resolve_alike clients context) states
  | finalizer action access marker => exact mark_alike clients action access marker states

variable {transport otherTransport : Http.Transport σ}

/-- What the settings ask for is done alike. -/
theorem execute_alike (transports : Http.AlikeTransports related transport otherTransport)
    (settings : Settings) (found : Except ConfigurationFault Configuration) {state other : σ}
    (states : related state other) :
    AlikeEffects related (execute settings found transport state)
      (execute settings found otherTransport other) := by
  simp only [execute]
  split
  · exact ⟨rfl, rfl, states⟩
  split
  · exact ⟨rfl, rfl, states⟩
  · simp only [performFound]
    split
    · exact ⟨rfl, rfl, states⟩
    · exact (perform_alike (Http.client_alike transports) _ states).behind rfl

/-- The program reports the same over transports that are alike. -/
theorem run_alike (transports : Http.AlikeTransports related transport otherTransport)
    (arguments : List String) (surroundings : Surroundings) {state other : σ}
    (states : related state other) :
    AlikeReports related (run arguments surroundings transport state)
      (run arguments surroundings otherTransport other) := by
  cases asked : read arguments surroundings.environment with
  | error stop =>
    cases stop with
    | help | version | usage => simp only [run, asked]; exact ⟨rfl, rfl, rfl, rfl, states⟩
  | ok settings =>
    obtain ⟨result, events, behind⟩ :=
      execute_alike transports settings surroundings.found states
    simp only [run, asked, result, events]
    cases (execute settings surroundings.found otherTransport other).result with
    | error complaint => exact ⟨rfl, rfl, rfl, rfl, behind⟩
    | ok output => exact ⟨rfl, rfl, rfl, rfl, behind⟩

end CommandLine

/-! ## What is concealed -/

/-- Two clusters that differ in the contents of secrets alone cannot be told apart. Over the
client with direct access and over the one that sends requests, the walk from a request
makes the same calls, logs the same, so that the same is written in every style through
every filter, and fails for the same reason or passes with the same bucket and grant and
with secrets that differ in their contents alone. The program asks the same of the server,
prints and logs the same, and ends in the same way. The clusters left behind differ no more
than they did before. A plan may make any calls or requests fail, in any way.

Proof: every step is alike if the calls are, and the calls are since secrets are served under
paths of their own, where only secrets are looked for. Of a secret that was found nothing but
its name is used. -/
theorem contents_concealed {left right : Cluster} (alike : left.Alike right) :
    (∀ plan name namespaceName,
      let here := Node.resolve (Cluster.client.disturbed plan) name namespaceName (left, [])
      let there := Node.resolve (Cluster.client.disturbed plan) name namespaceName (right, [])
      here.state.2 = there.state.2 ∧ here.state.1.Alike there.state.1 ∧
      (∀ logger : Log.Logger, logger.write here.events = logger.write there.events) ∧
      AlikeResults Resolved.Alike here.result there.result) ∧
    (∀ plan name namespaceName,
      let client := Http.client (Cluster.transport.disturbed plan)
      let here := Node.resolve client name namespaceName (left, [])
      let there := Node.resolve client name namespaceName (right, [])
      here.state.2 = there.state.2 ∧ here.state.1.Alike there.state.1 ∧
      (∀ logger : Log.Logger, logger.write here.events = logger.write there.events) ∧
      AlikeResults Resolved.Alike here.result there.result) ∧
    ∀ plan arguments surroundings,
      let transport := Cluster.transport.disturbed plan
      let here := CommandLine.run arguments surroundings transport (left, [])
      let there := CommandLine.run arguments surroundings transport (right, [])
      here.state.2 = there.state.2 ∧ here.state.1.Alike there.state.1 ∧
      here.entries = there.entries ∧ here.output = there.output ∧
      here.exitCode = there.exitCode ∧ here.complaint = there.complaint := by
  have start {κ : Type} : SameRecord Cluster.Alike (left, ([] : List κ)) (right, []) :=
    ⟨alike, rfl⟩
  refine ⟨?_, ?_, ?_⟩
  · intro plan name namespaceName here there
    have clients := Client.disturbed_alike Cluster.client_alike plan
    obtain ⟨results, events, clusters, calls⟩ :=
      Node.resolve_alike clients name namespaceName _ _ start
    exact ⟨calls, clusters, fun logger => congrArg logger.write events, results⟩
  · intro plan name namespaceName client here there
    have clients := Http.client_alike (Http.disturbed_alike Cluster.transport_alike plan)
    obtain ⟨results, events, clusters, requests⟩ :=
      Node.resolve_alike clients name namespaceName _ _ start
    exact ⟨requests, clusters, fun logger => congrArg logger.write events, results⟩
  · intro plan arguments surroundings transport here there
    have transports := Http.disturbed_alike Cluster.transport_alike plan
    obtain ⟨exitCode, output, entries, complaint, clusters, requests⟩ :=
      CommandLine.run_alike transports arguments surroundings start
    exact ⟨requests, clusters, entries, output, exitCode, complaint⟩

/-- The text of a secret with one key. -/
def keyText (key : String) : String :=
  Json.text (.object [("data", .object [("key", .string key)] none)] none)

/-- The cluster in which one request for access is granted, with this key for its secret. -/
def keyedCluster (key : String) : Cluster :=
  Node.grantingCluster.put (Address.path ⟨.secret, some "apps", "keys"⟩) (keyText key)

/-- Clusters with two keys that can be read differ in the contents of secrets at most. -/
theorem keyedCluster_alike {key other : String}
    (texts : Secret.AlikeTexts (keyText key) (keyText other)) :
    (keyedCluster key).Alike (keyedCluster other) where
  faults := rfl
  objects path := by
    simp only [keyedCluster, Cluster.get?_put]
    split
    · rename_i same
      subst same
      exact .inr ⟨⟨_, _, rfl⟩, _, _, rfl, rfl, texts⟩
    · exact .inl rfl

/-- The walk passes over two clusters whose secrets hold different keys, and both runs log the
same. -/
theorem different_keys_concealed :
    let here := Node.resolve (Cluster.client.disturbed fun _ => none) "uploads" "apps"
      (keyedCluster "AQID", [])
    let there := Node.resolve (Cluster.client.disturbed fun _ => none) "uploads" "apps"
      (keyedCluster "BAUG", [])
    (keyedCluster "AQID").Alike (keyedCluster "BAUG") ∧
    ∃ resolved other, here.result = .ok resolved ∧ there.result = .ok other ∧
      resolved.secret.data ≠ other.secret.data ∧ resolved.Alike other ∧
      ∀ logger : Log.Logger, logger.write here.events = logger.write there.events := by
  intro here there
  have alike : (keyedCluster "AQID").Alike (keyedCluster "BAUG") := by
    obtain ⟨secret, decoded⟩ : ∃ secret, Secret.format.ofText (keyText "AQID") = .ok secret :=
      Operation.passes_of_isOk (by decide +kernel)
    obtain ⟨other, otherDecoded⟩ : ∃ other, Secret.format.ofText (keyText "BAUG") = .ok other :=
      Operation.passes_of_isOk (by decide +kernel)
    let shown (secret : Secret) := (secret.metadata, secret.type, secret.isImmutable)
    have same : (Secret.format.ofText (keyText "AQID")).toOption.map shown =
        (Secret.format.ofText (keyText "BAUG")).toOption.map shown := by decide +kernel
    rw [decoded, otherDecoded] at same
    have parts : shown secret = shown other := Option.some.inj same
    simp only [shown, Prod.mk.injEq] at parts
    obtain ⟨metadata, type, isImmutable⟩ := parts
    exact keyedCluster_alike ⟨secret, other, decoded, otherDecoded, ⟨metadata, type, isImmutable⟩⟩
  have differ : here.result.toOption.map (·.secret.data) ≠
      there.result.toOption.map (·.secret.data) := by decide +kernel
  obtain ⟨_, _, written, results⟩ := (contents_concealed alike).1 (fun _ => none) "uploads" "apps"
  obtain ⟨resolved, other, passed, otherPassed, values, data⟩ := alikeResults_passed results differ
  exact ⟨alike, resolved, other, passed, otherPassed, data, values, written⟩

end BucketMount
