import BucketMount.Proofs.LiteralGates
import BucketMount.Proofs.PlainPaths
import BucketMount.Proofs.ServerSteps
import BucketMount.Proofs.WalkedLinks
import BucketMount.Proofs.WrittenText

/-!
# A store behind a server

A store keeps texts by kind, namespace and name. One client looks its objects up there
by these three; another sends requests to a server that serves the store by path, and
takes the word that there is no such object for an answer. As long as names are plain the
two come to the same: a path then leads to the one object that it was made for.

`http_client_refines` says so of the five lookups and of the walk from a request, result
by result and request by request. What the two clients log is not told, nor what a server
does that fails or is changed meanwhile.
-/

namespace BucketMount

/-- The texts of a store by kind, namespace and name. -/
abbrev Store := Address → Option String

variable {σ τ α β : Type}

namespace Store

/-- Looks an object up. -/
def find (store : Store) (format : Format α) (address : Address) : Call σ (Option α) :=
  fun state =>
    match store address with
    | none => .quiet (.ok none) state
    | some text => .quiet ((format.ofText text).map some |>.mapError .undecodable) state

/-- The client that looks objects up in a store. How it replaces a grant is left open. -/
def client (store : Store) (replace : BucketAccess → Call σ BucketAccess) : Client σ where
  findBucketAccessRequest name namespaceName :=
    store.find BucketAccessRequest.kind.format ⟨.bucketAccessRequest, some namespaceName, name⟩
  findBucketAccess name := store.find BucketAccess.kind.format ⟨.bucketAccess, none, name⟩
  findBucketRequest name namespaceName :=
    store.find BucketRequest.kind.format ⟨.bucketRequest, some namespaceName, name⟩
  findBucket name := store.find Bucket.kind.format ⟨.bucket, none, name⟩
  findSecret name namespaceName :=
    store.find Secret.format ⟨.secret, some namespaceName, name⟩
  replaceBucketAccess := replace

/-- A response to a read at a path: a text that is stored under this path, or, if none
is, a refusal with the code 404 in its status and in its body. -/
def Answers (store : Store) (path : String) (response : Http.Response) : Prop :=
  (∃ address text, address.Scoped ∧ address.path = path ∧ store address = some text ∧
    response = ⟨200, text⟩) ∨
  (∀ address : Address, address.Scoped → address.path = path → store address = none) ∧
    response.status = 404 ∧
    ∃ refusal, ServerRefusal.record.format.ofText response.body = .ok refusal ∧
      refusal.code = 404

/-- A request that reads the object at an address. -/
def reading (address : Address) : Http.Request := ⟨.get, ⟨address.path, none⟩, none⟩

/-- A transport reaches a server that serves a store, from every state of a sort that
reads do not leave. -/
def Serves (store : Store) (transport : Http.Transport σ) (serving : σ → Prop) : Prop :=
  ∀ state address, serving state → address.Scoped →
    ∃ response, (transport (reading address) state).1 = .ok response ∧
      store.Answers address.path response ∧ serving (transport (reading address) state).2

/-! ## One read -/

/-- Reading an object of plain names through a server that serves the store comes to what
looking it up in the store comes to, and sends one request.

Proof: the target of the request is the path. A text stored under it is the object's own,
since no other object has this path; where none is stored, the refusal of code 404 is an
answer. -/
theorem read_eq_find {store : Store} {transport : Http.Transport σ} {response : Http.Response}
    (format : Format α) {address : Address} (within : address.Scoped) (plain : address.Plain)
    (state : σ) (other : τ) (answered : (transport (reading address) state).1 = .ok response)
    (answers : store.Answers address.path response) :
    (Http.read transport format address state).result = (store.find format address other).result ∧
      (Http.read transport format address state).state = (transport (reading address) state).2 := by
  obtain ⟨next, reply⟩ : ∃ next, transport (reading address) state = (.ok response, next) :=
    ⟨(transport (reading address) state).2, Prod.ext answered rfl⟩
  have target := Http.targetOf_plain plain
  rw [reading] at reply
  simp only [Http.read, target, Http.send, reading, reply]
  refine ⟨?_, trivial⟩
  rcases answers with ⟨owner, text, _, samePath, stored, rfl⟩ |
    ⟨unstored, status, refusal, body, code⟩
  · obtain rfl := Address.path_plain_injective plain samePath
    cases decoded : format.ofText text <;>
      simp [Http.Response.object, Http.refuses, decoded, find, stored, Reply.quiet,
        Http.optionalResult, ClientFailure.isAbsence, Except.map, Except.mapError]
  · simp [Http.Response.object, Http.refuses, status, Http.Response.refusal, body, find,
      unstored address within rfl, Reply.quiet, Http.optionalResult, ClientFailure.isAbsence, code]

/-! ## Operations over the two clients -/

/-- From every state that goes with the requests sent so far, reading an object of the
store is answered as the store has it, and the next state goes with one request more. -/
def Tracks (store : Store) (transport : Http.Transport σ)
    (after : List Http.Request → σ → Prop) : Prop :=
  ∀ history state address, after history state → address.Scoped →
    ∃ response, (transport (reading address) state).1 = .ok response ∧
      store.Answers address.path response ∧
      after (history ++ [reading address]) (transport (reading address) state).2

/-- An operation over a server comes to what an operation comes to that records its calls
to the store, and sends one request for each of these calls, if all of them are for
objects of plain names. -/
def Refines (after : List Http.Request → σ → Prop) (remote : Operation σ α)
    (direct : Operation (τ × List CallRecord) α) : Prop :=
  ∀ other calls, ∃ made : List Address,
    (direct (other, calls)).state.2 = calls ++ made.map .find ∧
    (∀ address ∈ made, address.Scoped) ∧
    ((∀ address ∈ made, address.Plain) → ∀ history state, after history state →
      (remote state).result = (direct (other, calls)).result ∧
        after (history ++ made.map reading) (remote state).state)

variable {store : Store} {transport : Http.Transport σ} {after : List Http.Request → σ → Prop}

/-- Passing a value on sends nothing. -/
theorem refines_pure (value : α) :
    Refines after (pure value) (pure value : Operation (τ × List CallRecord) α) := by
  refine fun other calls => ⟨[], by simp, by simp, fun _ history state held => ⟨rfl, ?_⟩⟩
  simpa using held

/-- Two lookups at one gate come to the same if they look up one address. -/
theorem refines_guarded (tracks : store.Tracks transport after) (format : Format α)
    {address : Address} (within : address.Scoped) {gate : Gate α} {shownName : String}
    {remote : Operation σ α} {direct : Operation (τ × List CallRecord) α}
    (guarded : gate.Guarded shownName (Http.read transport format address) remote)
    (directGuarded : gate.Guarded shownName
      (Client.note (.find address) (store.find format address)) direct) :
    Refines after remote direct := by
  intro other calls
  obtain ⟨directVerdict, directLeft⟩ := directGuarded (other, calls)
  refine ⟨[address], by rw [directLeft]; rfl, by simpa using within, ?_⟩
  intro plain history state held
  obtain ⟨response, answered, answers, held⟩ := tracks history state address held within
  obtain ⟨sameResult, left⟩ :=
    read_eq_find format within (plain address (by simp)) state other answered answers
  obtain ⟨verdict, remoteLeft⟩ := guarded state
  rw [sameResult] at verdict
  refine ⟨verdict.unique directVerdict, ?_⟩
  rw [remoteLeft, left]
  exact held

/-- Steps that come to the same one by one do so in a row. -/
theorem refines_bind {remote : Operation σ α} {direct : Operation (τ × List CallRecord) α}
    {next : α → Operation σ β} {directNext : α → Operation (τ × List CallRecord) β}
    (refines : Refines after remote direct)
    (later : ∀ value, Refines after (next value) (directNext value)) :
    Refines after (remote >>= next) (direct >>= directNext) := by
  intro other calls
  obtain ⟨made, recorded, within, same⟩ := refines other calls
  cases reached : (direct (other, calls)).result with
  | error failure =>
    rw [Operation.bind_failed _ _ _ _ reached]
    refine ⟨made, recorded, within, fun plain history state held => ?_⟩
    obtain ⟨sameResult, left⟩ := same plain history state held
    rw [Operation.bind_failed _ _ _ _ (sameResult.trans reached)]
    exact ⟨rfl, left⟩
  | ok value =>
    rw [Operation.bind_passed _ _ _ _ reached]
    obtain ⟨madeLater, recordedLater, withinLater, sameLater⟩ :=
      later value (direct (other, calls)).state.1 (direct (other, calls)).state.2
    refine ⟨made ++ madeLater, ?_, ?_, fun plain history state held => ?_⟩
    · exact recordedLater.trans (by rw [recorded]; simp)
    · intro address member
      rcases List.mem_append.mp member with early | late
      · exact within address early
      · exact withinLater address late
    · obtain ⟨sameResult, left⟩ := same
        (fun address member => plain address (List.mem_append_left _ member)) history state held
      rw [Operation.bind_passed _ _ _ _ (sameResult.trans reached)]
      have atLater := sameLater
        (fun address member => plain address (List.mem_append_right _ member)) _ _ left
      simpa [List.append_assoc] using atLater

section Lookups

variable (tracks : store.Tracks transport after) (replace : BucketAccess → Call τ BucketAccess)
  (name namespaceName : String)

include tracks

/-- The lookup of a request for access comes to the same. -/
theorem request_refines :
    Refines after (Node.bucketAccessRequest (Http.client transport) name namespaceName)
      (Node.bucketAccessRequest (store.client replace).recorded name namespaceName) :=
  refines_guarded tracks BucketAccessRequest.kind.format (Address.scoped_inside rfl _ _)
    (Node.request_guarded (Http.client transport) name namespaceName)
    (Node.request_guarded (store.client replace).recorded name namespaceName)

/-- The lookup of a grant comes to the same. -/
theorem access_refines :
    Refines after (Node.bucketAccess (Http.client transport) name)
      (Node.bucketAccess (store.client replace).recorded name) :=
  refines_guarded tracks BucketAccess.kind.format (Address.scoped_outside rfl _)
    (Node.access_guarded (Http.client transport) name)
    (Node.access_guarded (store.client replace).recorded name)

/-- The lookup of a request for a bucket comes to the same. -/
theorem bucketRequest_refines :
    Refines after (Node.bucketRequest (Http.client transport) name namespaceName)
      (Node.bucketRequest (store.client replace).recorded name namespaceName) :=
  refines_guarded tracks BucketRequest.kind.format (Address.scoped_inside rfl _ _)
    (Node.bucketRequest_guarded (Http.client transport) name namespaceName)
    (Node.bucketRequest_guarded (store.client replace).recorded name namespaceName)

/-- The lookup of a bucket comes to the same. -/
theorem bucket_refines :
    Refines after (Node.bucket (Http.client transport) name)
      (Node.bucket (store.client replace).recorded name) :=
  refines_guarded tracks Bucket.kind.format (Address.scoped_outside rfl _)
    (Node.bucket_guarded (Http.client transport) name)
    (Node.bucket_guarded (store.client replace).recorded name)

/-- The lookup of a secret comes to the same. -/
theorem secret_refines :
    Refines after (Node.secret (Http.client transport) name namespaceName)
      (Node.secret (store.client replace).recorded name namespaceName) :=
  refines_guarded tracks Secret.format (Address.scoped_inside rfl _ _)
    (Node.secret_guarded (Http.client transport) name namespaceName)
    (Node.secret_guarded (store.client replace).recorded name namespaceName)

/-- The walk from a request comes to the same over a server and over its store. -/
theorem resolve_refines :
    Refines after (Node.resolve (Http.client transport) name namespaceName)
      (Node.resolve (store.client replace).recorded name namespaceName) := by
  refine refines_bind (request_refines tracks replace name namespaceName) fun request => ?_
  refine refines_bind (access_refines tracks replace _) fun access => ?_
  refine refines_bind (bucket_refines tracks replace _) fun bucket => ?_
  refine refines_bind (secret_refines tracks replace _ namespaceName) fun secret => ?_
  exact refines_pure _

end Lookups

end Store

/-! ## The server of a cluster -/

namespace Cluster

/-- The text of a refusal is read as the refusal, if its code is one of a status. -/
theorem refusalText_read (refusal : ServerRefusal) (code : refusal.code ≤ 65535) :
    ServerRefusal.record.format.ofText (refusalText refusal) = .ok refusal := by
  let tree : Json := .object [("code", .number (.whole refusal.code)),
    ("message", .string refusal.message), ("reason", .string refusal.reason),
    ("status", .string refusal.status)] none
  have legible : Json.Legible 0 tree := by
    have number : (Json.Number.whole refusal.code).Legible :=
      Json.whole_legible _ (by omega) (by omega)
    simp [tree, Json.Legible, Json.LegibleMembers, Json.deepest, number]
  have reads : Json.read (refusalText refusal) = (tree, []) :=
    (Json.reads_legible 0 tree legible).read_text
  have decoded : ServerRefusal.record.format.decode .text tree = .ok refusal := by
    have high : (refusal.code : Int) ≤ 65535 := by omega
    simp [tree, ServerRefusal.record, Record.format, Record.decodeObject, Record.decodeMembers,
      Record.missing?, Field.required, Field.elided, Format.whole, Format.string, high, Json.close,
      bind, Except.bind, pure, Except.pure]
  rw [Format.ofText, reads]
  simp [decoded, Json.finish, Json.skipBlanks, bind, Except.bind, pure, Except.pure]

/-- The server of a cluster without faults serves the texts that the cluster stores. -/
theorem transport_serves (cluster : Cluster) (faultless : cluster.faults = []) :
    Store.Serves (fun address => cluster.get? address.path) transport (· = cluster) := by
  intro state address same within
  rw [show state = cluster from same]
  simp only [transport, answer_faultless faultless]
  cases stored : cluster.get? address.path with
  | none =>
    have refused : serve (Store.reading address) cluster =
        (refuse ⟨"Failure", address.path ++ " not found", "NotFound", 404⟩, cluster) := by
      simp [serve, Store.reading, stored]
    rw [refused]
    refine ⟨_, rfl, .inr ⟨fun other _ samePath => ?_, rfl, _, refusalText_read _ ?_, rfl⟩, rfl⟩
    · simpa only [samePath] using stored
    · exact (by decide : 404 ≤ 65535)
  | some text =>
    have served : serve (Store.reading address) cluster = (⟨200, text⟩, cluster) := by
      simp [serve, Store.reading, stored]
    rw [served]
    exact ⟨_, rfl, .inl ⟨address, text, within, rfl, stored, rfl⟩, rfl⟩

end Cluster

/-! ## What the two clients come to -/

namespace Store

variable {store : Store} {transport : Http.Transport σ}

/-- A server tracks its store, whatever has been sent. -/
theorem Serves.tracks {serving : σ → Prop} (serves : store.Serves transport serving) :
    store.Tracks transport fun _ state => serving state :=
  fun _ state address held within => serves state address held within

/-- Recording the requests keeps the list of those that were sent. -/
theorem Serves.tracks_recorded {serving : σ → Prop} (serves : store.Serves transport serving) :
    store.Tracks transport.recorded fun history state =>
      serving state.1 ∧ state.2 = history := by
  rintro history ⟨state, requests⟩ address ⟨held, rfl⟩ within
  obtain ⟨response, answered, answers, next⟩ := serves state address held within
  exact ⟨response, answered, answers, next, rfl⟩

/-- An operation over clients, run over a store's own client, looks up some addresses. If
all of them are of plain names, the operation over a client that uses a transport comes to
the same and sends a read for each of them, in their order. -/
structure Alike (store : Store) (transport : Http.Transport σ)
    (replace : BucketAccess → Call τ BucketAccess) (state : σ) (other : τ)
    (operation : (ρ : Type) → Client ρ → Operation ρ α) (addresses : List Address) : Prop where
  made : (operation _ (store.client replace).recorded (other, [])).state.2 =
    addresses.map .find
  within : ∀ address ∈ addresses, address.Scoped
  result : (∀ address ∈ addresses, address.Plain) →
    (operation _ (Http.client transport) state).result =
      (operation _ (store.client replace) other).result
  sent : (∀ address ∈ addresses, address.Plain) →
    (operation _ (Http.client transport.recorded) (state, [])).state.2 = addresses.map reading

/-- Addresses are determined by the records of their lookups. -/
theorem find_records_injective {addresses others : List Address}
    (same : addresses.map CallRecord.find = others.map CallRecord.find) : addresses = others :=
  List.map_injective_iff.mpr (fun _ _ equal => CallRecord.find.inj equal) same

/-- An operation is alike over two clients if it comes to the same over every transport
that tracks the store, and if recording changes nothing about it. -/
theorem alike_of_refines {serving : σ → Prop} (serves : store.Serves transport serving)
    {replace : BucketAccess → Call τ BucketAccess} {state : σ} (held : serving state) (other : τ)
    (operation : (ρ : Type) → Client ρ → Operation ρ α)
    (refines : ∀ (ρ : Type) (transport : Http.Transport ρ)
      (after : List Http.Request → ρ → Prop), store.Tracks transport after →
      Refines after (operation ρ (Http.client transport))
        (operation _ (store.client replace).recorded))
    (mirrored : Node.Mirrors (operation _ (store.client replace))
      (operation _ (store.client replace).recorded)) :
    ∃ addresses, Alike store transport replace state other operation addresses := by
  obtain ⟨addresses, made, within, same⟩ := refines σ transport _ serves.tracks other []
  obtain ⟨others, otherMade, _, sent⟩ :=
    refines _ transport.recorded _ serves.tracks_recorded other []
  rw [List.nil_append] at made otherMade
  obtain rfl := find_records_injective (made.symm.trans otherMade)
  refine ⟨addresses, made, within, fun plain => ?_, fun plain => ?_⟩
  · exact (same plain [] state held).1.trans (mirrored other []).1
  · exact (sent plain [] (state, []) ⟨held, rfl⟩).2.2

/-- An operation that makes one call looks up the one address of this call. -/
theorem alike_of_one {replace : BucketAccess → Call τ BucketAccess} {state : σ} {other : τ}
    {operation : (ρ : Type) → Client ρ → Operation ρ α} {address : Address}
    (alike : ∃ addresses, Alike store transport replace state other operation addresses)
    (one : (operation _ (store.client replace).recorded (other, [])).state.2 = [.find address]) :
    Alike store transport replace state other operation [address] := by
  obtain ⟨addresses, same⟩ := alike
  obtain rfl : addresses = [address] := find_records_injective (same.made.symm.trans one)
  exact same

/-- A client that sends requests to a server comes to what a client comes to that looks
objects up in the server's store, for each of the five lookups and for the walk from a
request: with the same object or the same error, and with a read for each object that is
looked up, in the same order. All that is asked is that the names that are looked up are
plain. The path of an object in a namespace has a segment for it, and that of an object of
the cluster has none.

Proof: reading at the path of plain names comes to looking up the object that alone has
this path, so the two come to the same at every gate, and along the walk by the steps of
both. -/
theorem http_client_refines {serving : σ → Prop} (serves : store.Serves transport serving)
    (replace : BucketAccess → Call τ BucketAccess) (state : σ) (held : serving state) (other : τ)
    (name namespaceName : String) :
    Alike store transport replace state other
      (fun _ client => Node.bucketAccessRequest client name namespaceName)
      [⟨.bucketAccessRequest, some namespaceName, name⟩] ∧
    Alike store transport replace state other
      (fun _ client => Node.bucketAccess client name) [⟨.bucketAccess, none, name⟩] ∧
    Alike store transport replace state other
      (fun _ client => Node.bucketRequest client name namespaceName)
      [⟨.bucketRequest, some namespaceName, name⟩] ∧
    Alike store transport replace state other
      (fun _ client => Node.bucket client name) [⟨.bucket, none, name⟩] ∧
    Alike store transport replace state other
      (fun _ client => Node.secret client name namespaceName)
      [⟨.secret, some namespaceName, name⟩] ∧
    (∃ addresses, Alike store transport replace state other
      (fun _ client => Node.resolve client name namespaceName) addresses) ∧
    ∀ address : Address, address.Scoped →
      (address.kind.scope = .namespaced → ∃ namespaceName,
        address.namespaceName = some namespaceName ∧
        address.path = address.kind.root ++ "/namespaces/" ++ namespaceName ++ "/" ++
          address.kind.plural ++ "/" ++ address.name) ∧
      (address.kind.scope = .cluster → address.namespaceName = none ∧
        address.path = address.kind.root ++ "/" ++ address.kind.plural ++ "/" ++ address.name) := by
  let direct : Client τ := store.client replace
  have requests := Node.request_guarded direct.recorded name namespaceName
  have accesses := Node.access_guarded direct.recorded name
  have bucketRequests := Node.bucketRequest_guarded direct.recorded name namespaceName
  have buckets := Node.bucket_guarded direct.recorded name
  have secrets := Node.secret_guarded direct.recorded name namespaceName
  refine ⟨?_, ?_, ?_, ?_, ?_, ?_, fun address within => within.path_shape⟩
  · refine alike_of_one (alike_of_refines serves held other _
      (fun _ _ _ tracks => request_refines tracks replace name namespaceName)
      (Node.mirrors_guarded _ (Node.request_guarded direct name namespaceName) requests)) ?_
    rw [(requests (other, [])).2]
    rfl
  · refine alike_of_one (alike_of_refines serves held other _
      (fun _ _ _ tracks => access_refines tracks replace name)
      (Node.mirrors_guarded _ (Node.access_guarded direct name) accesses)) ?_
    rw [(accesses (other, [])).2]
    rfl
  · refine alike_of_one (alike_of_refines serves held other _
      (fun _ _ _ tracks => bucketRequest_refines tracks replace name namespaceName)
      (Node.mirrors_guarded _ (Node.bucketRequest_guarded direct name namespaceName)
        bucketRequests)) ?_
    rw [(bucketRequests (other, [])).2]
    rfl
  · refine alike_of_one (alike_of_refines serves held other _
      (fun _ _ _ tracks => bucket_refines tracks replace name)
      (Node.mirrors_guarded _ (Node.bucket_guarded direct name) buckets)) ?_
    rw [(buckets (other, [])).2]
    rfl
  · refine alike_of_one (alike_of_refines serves held other _
      (fun _ _ _ tracks => secret_refines tracks replace name namespaceName)
      (Node.mirrors_guarded _ (Node.secret_guarded direct name namespaceName) secrets)) ?_
    rw [(secrets (other, [])).2]
    rfl
  · exact alike_of_refines serves held other _
      (fun _ _ _ tracks => resolve_refines tracks replace name namespaceName)
      (Node.resolve_mirrored direct name namespaceName)

end Store

/-- The address that a record of a lookup keeps. -/
def CallRecord.address? : CallRecord → Option Address
  | .find address => some address
  | .replace _ => none

/-- In a cluster in which a request is granted, the server leads to the same bucket as the
store, with a read for each of the four links. -/
theorem granting_cluster_served :
    let cluster := Node.grantingCluster
    let store : Store := fun address => cluster.get? address.path
    let keep : BucketAccess → Call Unit BucketAccess := fun access => Reply.quiet (.ok access)
    ∃ addresses : List Address, addresses.length = 4 ∧ (∀ address ∈ addresses, address.Plain) ∧
      (Node.resolve (Http.client Cluster.transport) "uploads" "apps" cluster).result =
        (Node.resolve (store.client keep) "uploads" "apps" ()).result ∧
      (Node.resolve (Http.client Cluster.transport.recorded) "uploads" "apps"
        (cluster, [])).state.2 = addresses.map Store.reading := by
  intro cluster store keep
  obtain ⟨_, _, _, _, _, ⟨addresses, alike⟩, _⟩ := Store.http_client_refines
    (Cluster.transport_serves cluster rfl) keep cluster rfl () "uploads" "apps"
  have walked : (Node.resolve (store.client keep).recorded "uploads" "apps"
      ((), [])).state.2.map CallRecord.address? =
      [some ⟨.bucketAccessRequest, some "apps", "uploads"⟩, some ⟨.bucketAccess, none, "grant"⟩,
        some ⟨.bucket, none, "files-1"⟩, some ⟨.secret, some "apps", "keys"⟩] := by
    decide +kernel
  have same : addresses = [⟨.bucketAccessRequest, some "apps", "uploads"⟩,
      ⟨.bucketAccess, none, "grant"⟩, ⟨.bucket, none, "files-1"⟩,
      ⟨.secret, some "apps", "keys"⟩] := by
    rw [alike.made, List.map_map] at walked
    exact List.map_injective_iff.mpr (fun _ _ => Option.some.inj) walked
  have plain : ∀ address ∈ addresses, address.Plain := by
    rw [same]
    decide +kernel
  exact ⟨addresses, by rw [same]; rfl, plain, alike.result plain, alike.sent plain⟩

end BucketMount
