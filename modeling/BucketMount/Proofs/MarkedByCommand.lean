import BucketMount.Proofs.MarkingArguments
import BucketMount.Proofs.RewrittenFields
import BucketMount.Proofs.ServedStore
import Mathlib.Data.List.Induction
import Mathlib.Data.String.Basic

/-!
# A grant marked by one command after the other

Every command that adds a marker or removes one reads the stored grant anew, decodes it,
applies its toggle, and replaces the stored document by that of its own copy. So what many
commands leave behind is put together from the toggles only if a grant survives being
written and read. `finalizer_replays` says that it does, and that every single command
reads once, replaces once at the same path, and prints the markers that it leaves.

The server is one that never fails and stores what it is sent. Metadata is assumed to come
back from its own document, part by part, which only the trees of managers' fields and
unusual times may not do.
-/

namespace BucketMount

/-! ## Requests for a grant -/

/-- A text has at most four bytes for each of its characters. -/
theorem utf8ByteSize_le (text : String) : text.utf8ByteSize ≤ 4 * text.length := by
  have each (characters : List Char) : String.utf8Len characters ≤ 4 * characters.length := by
    induction characters with
    | nil => simp
    | cons character rest inductionHypothesis =>
      have single := character.utf8Size_le_four
      rw [String.utf8Len_cons, List.length_cons]
      omega
  have whole := each text.toList
  rwa [← String.utf8ByteSize_ofList, String.ofList_toList, String.length_toList] at whole

/-- The address of the grant of a name. -/
def grantAddress (name : String) : Address := ⟨.bucketAccess, none, name⟩

/-- The path of a grant whose name has at most 253 characters leaves room for a question
mark. -/
theorem grantAddress_room {name : String} (short : name.length ≤ 253) :
    (grantAddress name).path.utf8ByteSize < Http.longest := by
  let collection := collectionPath Kind.bucketAccess.root Kind.bucketAccess.plural none ++ "/"
  have path : (grantAddress name).path = collection ++ name := rfl
  have front : collection.utf8ByteSize = 51 := by decide
  have behind := utf8ByteSize_le name
  rw [path, String.utf8ByteSize_append, front, Http.longest]
  omega

/-- A plain name of at most 253 characters makes a plain address. -/
theorem grantAddress_plain {name : String} (plain : PlainName name) (short : name.length ≤ 253) :
    (grantAddress name).Plain where
  name := plain
  namespaceName := by simp [grantAddress]
  short := Nat.le_of_lt (grantAddress_room short)

/-- The target of a request that replaces an object of plain names is its path with an empty
query. -/
theorem Http.targetOf_question {address : Address} (plain : address.Plain)
    (room : address.path.utf8ByteSize < Http.longest) :
    Http.targetOf address "?" = .ok ⟨address.path, some ""⟩ := by
  have stands : ∀ character ∈ address.path.toList,
      Http.inPath character = true ∧ character ≠ '?' ∧ character ≠ '#' :=
    fun character member => (plain.characters character member).stands
  have kept : ∀ character ∈ address.path.toList,
      (character != '?' && character != '#') = true := by
    intro character member
    simp [(stands character member).2]
  have whole : (address.path.toList ++ ['?']).takeWhile
      (fun character => character != '?' && character != '#') = address.path.toList := by
    rw [List.takeWhile_append_of_pos kept]
    simp
  have allowed : address.path.toList.all Http.inPath = true :=
    List.all_eq_true.mpr fun character member => (stands character member).1
  have short : ¬ Http.longest < (address.path ++ "?").utf8ByteSize := by
    rw [String.utf8ByteSize_append, show "?".utf8ByteSize = 1 from rfl]
    omega
  rw [Http.targetOf, if_neg plain.name.1]
  simp only [if_neg short]
  simp [Http.Target.ofCharacters, whole, allowed, Except.mapError, String.toList_append]

/-- A request that replaces the object at an address by one with this document. -/
def replacing (address : Address) (document : String) : Http.Request :=
  ⟨.put, ⟨address.path, some ""⟩, some document⟩

namespace Cluster

variable {α : Type} {format : Format α} {cluster : Cluster} {address : Address} {text : String}
  {value : α}

/-- An object that is stored is read by one request, which changes nothing. -/
theorem read_stored (faultless : cluster.faults = []) (plain : address.Plain)
    (stored : cluster.get? address.path = some text) (decoded : format.ofText text = .ok value)
    (requests : List Http.Request) :
    Http.read transport.recorded format address (cluster, requests) =
      ⟨.ok (some value), [], (cluster, requests ++ [Store.reading address])⟩ := by
  have served : serve (Store.reading address) cluster = (⟨200, text⟩, cluster) := by
    simp [serve, Store.reading, stored]
  have target := Http.targetOf_plain plain
  rw [Store.reading] at served
  simp [Http.read, target, Http.send, Http.Transport.recorded, transport,
    answer_faultless faultless, served, Http.validStatus, Http.Response.object, Http.refuses,
    decoded, Http.optionalResult, Store.reading]

/-- An object that is not stored is found to be absent by one request. -/
theorem read_absent (faultless : cluster.faults = []) (plain : address.Plain)
    (absent : cluster.get? address.path = none) (requests : List Http.Request) :
    (Http.read transport.recorded format address (cluster, requests)).result = .ok none ∧
      (Http.read transport.recorded format address (cluster, requests)).state =
        (cluster, requests ++ [Store.reading address]) := by
  let refusal : ServerRefusal := ⟨"Failure", address.path ++ " not found", "NotFound", 404⟩
  have served : serve (Store.reading address) cluster = (refuse refusal, cluster) := by
    simp [serve, Store.reading, absent, refusal]
  have told : ServerRefusal.record.format.ofText (refusalText refusal) = .ok refusal :=
    refusalText_read refusal (by decide : 404 ≤ 65535)
  have target := Http.targetOf_plain plain
  rw [Store.reading] at served
  simp [Http.read, target, Http.send, Http.Transport.recorded, transport,
    answer_faultless faultless, served, refuse, refusal, Http.validStatus, Http.Response.object,
    Http.refuses, Http.Response.refusal, told, Http.optionalResult, ClientFailure.isAbsence,
    Store.reading]

/-- An object that is stored is replaced by one request, after which the new document is stored
in its place. It is handed back as it was sent if it comes back from its document. -/
theorem replace_stored (faultless : cluster.faults = []) (plain : address.Plain)
    (room : address.path.utf8ByteSize < Http.longest)
    (stored : cluster.get? address.path = some text)
    (back : format.ofText (format.toText value) = .ok value) (requests : List Http.Request) :
    Http.replace transport.recorded format address value (cluster, requests) =
      ⟨.ok value, [], (cluster.put address.path (format.toText value),
        requests ++ [replacing address (format.toText value)])⟩ := by
  have served : serve (replacing address (format.toText value)) cluster =
      (⟨200, format.toText value⟩, cluster.put address.path (format.toText value)) := by
    simp [serve, replacing, stored]
  have target := Http.targetOf_question plain room
  rw [replacing] at served
  simp [Http.replace, target, Http.send, Http.Transport.recorded, transport,
    answer_faultless faultless, served, Http.validStatus, Http.Response.object, Http.refuses,
    back, replacing]

end Cluster

/-! ## What a grant survives -/

/-- Metadata whose parts come back has parts that come back with any other markers. -/
theorem Metadata.marked_comesBack {metadata : Metadata} {depth : Nat}
    (shallow : depth < Json.deepest) (carried : record.FieldsComeBack depth metadata)
    (markers : Option (List String)) :
    record.FieldsComeBack depth { metadata with finalizers := markers } := by
  have place : record.fields[4] ∈ record.fields := List.getElem_mem _
  intro field listed kept
  by_cases own : field.key = "finalizers"
  · obtain rfl : field = record.fields[4] := lawful.field_unique listed place own
    exact Format.comesBack_optional (Format.list_refusesNull _) markers fun markers _ =>
      Format.comesBack_list markers shallow fun marker _ => Format.comesBack_string _ marker
  · have same : field.get { metadata with finalizers := markers } = field.get metadata :=
      lawful.get_set_other record.fields[4] place field listed (Ne.symm own) metadata markers
    rw [same] at kept ⊢
    exact carried field listed kept

/-- A grant whose metadata comes back part by part is read back from its document. -/
theorem BucketAccess.read_back {access : BucketAccess}
    (carried : Metadata.record.FieldsComeBack 2 access.metadata) :
    kind.format.ofText (kind.format.toText access) = .ok access := by
  have metadata : Metadata.format.ComesBack 1 access.metadata :=
    Record.coreFormat_comesBack Metadata.lawful (by decide) carried
  exact (CustomKind.comesBack metadata (BucketAccessSpec.comesBack (by decide) _)
    fun status _ => BucketAccessStatus.comesBack (by decide) status).of_document

/-! ## One command -/

/-- A cluster without faults that stores a grant under a name, and elsewhere what another
cluster stores. -/
structure Cluster.Holds (cluster initial : Cluster) (name : String) (access : BucketAccess) :
    Prop where
  faultless : cluster.faults = []
  stored : ∃ text, cluster.get? (grantAddress name).path = some text ∧
    BucketAccess.kind.format.ofText text = .ok access
  elsewhere : ∀ path, path ≠ (grantAddress name).path → cluster.get? path = initial.get? path

/-- A stored grant whose name is plain and whose metadata comes back. -/
structure BucketAccess.Carried (access : BucketAccess) (name : String) : Prop where
  plain : PlainName name
  short : name.length ≤ 253
  named : access.metadata.name = some name
  metadata : Metadata.record.FieldsComeBack 2 access.metadata

namespace BucketAccess.Carried

variable {access : BucketAccess} {name : String} (carried : access.Carried name)

include carried

/-- A grant goes on being carried with any other markers. -/
theorem marked (toggle : Finalizer.Toggle) :
    (Node.marked toggle.action toggle.marker access).Carried name where
  plain := carried.plain
  short := carried.short
  named := carried.named
  metadata := Metadata.marked_comesBack (by decide) carried.metadata _

/-- A grant is shown by its name. -/
theorem displayName : access.metadata.displayName = name := by
  rw [Metadata.displayName, carried.named]
  rfl

end BucketAccess.Carried

namespace CommandLine

/-- Marking a stored grant reads it, replaces it at the same path by the marked copy, and
prints the markers of this copy. -/
theorem mark_stored {cluster initial : Cluster} {name : String} {access : BucketAccess}
    (holds : cluster.Holds initial name access) (carried : access.Carried name)
    (toggle : Finalizer.Toggle) (requests : List Http.Request) :
    let copy := Node.marked toggle.action toggle.marker access
    let document := BucketAccess.kind.format.toText copy
    let effect := mark (Http.client Cluster.transport.recorded) toggle.action name toggle.marker
      (cluster, requests)
    effect.result = .ok (markerLines copy) ∧
      effect.state = (cluster.put (grantAddress name).path document,
        requests ++ [Store.reading (grantAddress name), replacing (grantAddress name) document]) := by
  intro copy document effect
  obtain ⟨text, stored, decoded⟩ := holds.stored
  have plain := grantAddress_plain carried.plain carried.short
  have back := BucketAccess.read_back (carried.marked toggle).metadata
  let client := Http.client Cluster.transport.recorded
  have found : client.findBucketAccess name (cluster, requests) = ⟨.ok (some access), [],
      (cluster, requests ++ [Store.reading (grantAddress name)])⟩ :=
    Cluster.read_stored holds.faultless plain stored decoded requests
  have replaced (before : List Http.Request) :
      client.replaceBucketAccess copy (cluster, before) = ⟨.ok copy, [],
        (cluster.put (grantAddress name).path document,
          before ++ [replacing (grantAddress name) document])⟩ := by
    have own : (⟨.bucketAccess, none, copy.metadata.displayName⟩ : Address) = grantAddress name := by
      rw [(carried.marked toggle).displayName]
      rfl
    change Http.replace _ _ ⟨.bucketAccess, none, copy.metadata.displayName⟩ copy _ = _
    rw [own]
    exact Cluster.replace_stored holds.faultless plain (grantAddress_room carried.short) stored
      back before
  have result := Node.mark_result client toggle access
    (cluster, requests ++ [Store.reading (grantAddress name)])
  have left := Node.mark_state client toggle access
    (cluster, requests ++ [Store.reading (grantAddress name)])
  rw [replaced] at result left
  constructor
  · simp only [effect, mark, client] at found result ⊢
    simp only [found, Effect.behind, Effect.ofOutcome, result]
    rfl
  · simp only [effect, mark, client] at found left ⊢
    simp only [found, Effect.behind, Effect.ofOutcome, left]
    simp

/-- Marking a grant that is not stored fails after one request, which changes nothing. -/
theorem mark_absent {cluster : Cluster} (faultless : cluster.faults = []) {name : String}
    (plain : (grantAddress name).Plain)
    (absent : cluster.get? (grantAddress name).path = none) (toggle : Finalizer.Toggle)
    (requests : List Http.Request) :
    let effect := mark (Http.client Cluster.transport.recorded) toggle.action name toggle.marker
      (cluster, requests)
    effect.result = .error ⟨s!"bucketAccess {name} not found", []⟩ ∧
      effect.state = (cluster, requests ++ [Store.reading (grantAddress name)]) := by
  intro effect
  let client := Http.client Cluster.transport.recorded
  obtain ⟨found, left⟩ : (client.findBucketAccess name (cluster, requests)).result = .ok none ∧
      (client.findBucketAccess name (cluster, requests)).state =
        (cluster, requests ++ [Store.reading (grantAddress name)]) :=
    Cluster.read_absent faultless plain absent requests
  simp only [effect, mark, show Http.client Cluster.transport.recorded = client from rfl, found,
    Effect.failed]
  exact ⟨trivial, left⟩

/-! ## Commands in a row -/

/-- What commands leave behind that apply toggles to one grant, one after the other. -/
def markAll (surroundings : Surroundings) (name : String) (state : Cluster × List Http.Request)
    (toggles : List Finalizer.Toggle) : Cluster × List Http.Request :=
  toggles.foldl (fun state toggle =>
    (run (marking name toggle) surroundings Cluster.transport.recorded state).state) state

/-- A command on a stored grant leaves the marked grant behind in its place. -/
theorem run_holds {surroundings : Surroundings} (ready : surroundings.Ready)
    {cluster initial : Cluster} {name : String} {access : BucketAccess}
    (holds : cluster.Holds initial name access) (carried : access.Carried name)
    (toggle : Finalizer.Toggle) (requests : List Http.Request) :
    (run (marking name toggle) surroundings Cluster.transport.recorded
      (cluster, requests)).state.1.Holds initial name
        (Node.marked toggle.action toggle.marker access) := by
  obtain ⟨left, _⟩ := run_marking ready Cluster.transport.recorded name toggle (cluster, requests)
  obtain ⟨_, state⟩ := mark_stored holds carried toggle requests
  rw [left, state]
  refine ⟨holds.faultless, ⟨_, ?_, BucketAccess.read_back (carried.marked toggle).metadata⟩,
    fun path other => ?_⟩
  · rw [Cluster.get?_put, if_pos rfl]
  · rw [Cluster.get?_put, if_neg (Ne.symm other)]
    exact holds.elsewhere path other

/-- Behind commands in a row the stored grant has had their toggles applied to its markers, and
nothing else of it has changed.

The induction takes commands off the back, since each works on what the others leave. -/
theorem markAll_holds {surroundings : Surroundings} (ready : surroundings.Ready)
    {cluster : Cluster} {name : String} {access : BucketAccess}
    (holds : cluster.Holds cluster name access) (carried : access.Carried name)
    (requests : List Http.Request) (toggles : List Finalizer.Toggle) :
    let grant := access.remarked (Finalizer.replay toggles access.metadata.finalizers)
      access.metadata.resourceVersion
    (markAll surroundings name (cluster, requests) toggles).1.Holds cluster name grant ∧
      grant.Carried name := by
  induction toggles using List.reverseRecOn with
  | nil => exact ⟨holds, carried⟩
  | append_singleton toggles toggle inductionHypothesis =>
    obtain ⟨reached, still⟩ := inductionHypothesis
    rw [Finalizer.replay_snoc, markAll, List.foldl_append]
    exact ⟨run_holds ready reached still toggle _, still.marked toggle⟩

/-- Commands that mark one grant, one after the other, on a cluster without faults. Each of them
succeeds, reads the grant by one request and replaces it by another one to the same path, and
prints the markers that it leaves. The stored document is then that of the grant with the
toggles of all commands so far applied to its first markers and with nothing else changed,
and it is decoded to this grant; elsewhere nothing has changed. The same command once more
stores the same text. Where no grant is stored under the name, a command fails with a word
about it after one request, and changes nothing.

Proof: by induction on the commands, the stored text is decoded to the grant that the toggles
lead to; the next command is `mark_stored` on it. Applying its toggle again changes nothing,
so neither does writing the copy. -/
theorem finalizer_replays {surroundings : Surroundings} (ready : surroundings.Ready)
    {name : String} (plain : PlainName name) (short : name.length ≤ 253) {cluster : Cluster}
    (faultless : cluster.faults = []) (requests : List Http.Request) :
    (∀ text access, cluster.get? (grantAddress name).path = some text →
      BucketAccess.kind.format.ofText text = .ok access → access.metadata.name = some name →
      Metadata.record.FieldsComeBack 2 access.metadata →
      ∀ toggles toggle,
        let before := markAll surroundings name (cluster, requests) toggles
        let report := run (marking name toggle) surroundings Cluster.transport.recorded before
        let markers := Finalizer.replay (toggles ++ [toggle]) access.metadata.finalizers
        let grant : BucketAccess :=
          { access with metadata := { access.metadata with finalizers := markers } }
        let document := BucketAccess.kind.format.toText grant
        let again := run (marking name toggle) surroundings Cluster.transport.recorded report.state
        report.exitCode = 0 ∧ report.complaint = none ∧
        report.output = "\n".intercalate (markers.getD []) ++ "\n" ∧
        report.state.2 = before.2 ++
          [⟨.get, ⟨(grantAddress name).path, none⟩, none⟩,
            ⟨.put, ⟨(grantAddress name).path, some ""⟩, some document⟩] ∧
        report.state.1.get? (grantAddress name).path = some document ∧
        BucketAccess.kind.format.ofText document = .ok grant ∧
        (∀ path, path ≠ (grantAddress name).path → report.state.1.get? path = cluster.get? path) ∧
        again.state.1.get? (grantAddress name).path = some document) ∧
    (cluster.get? (grantAddress name).path = none → ∀ toggle,
      let report := run (marking name toggle) surroundings Cluster.transport.recorded
        (cluster, requests)
      report.exitCode = 1 ∧ report.output = "" ∧
      report.complaint = some ("Error: bucketAccess " ++ name ++ " not found") ∧
      report.state = (cluster, requests ++ [⟨.get, ⟨(grantAddress name).path, none⟩, none⟩])) := by
  constructor
  · intro text access stored decoded named metadata toggles toggle before report markers grant
      document again
    have holds : cluster.Holds cluster name access :=
      ⟨faultless, ⟨text, stored, decoded⟩, fun _ _ => rfl⟩
    obtain ⟨reached, carried⟩ :=
      markAll_holds ready holds ⟨plain, short, named, metadata⟩ requests toggles
    let current := BucketAccess.remarked access
      (Finalizer.replay toggles access.metadata.finalizers) access.metadata.resourceVersion
    have copy : Node.marked toggle.action toggle.marker current = grant := by
      simp only [grant, markers, Finalizer.replay_snoc]
      rfl
    obtain ⟨left, passes, _⟩ := run_marking ready Cluster.transport.recorded name toggle before
    obtain ⟨result, state⟩ := mark_stored reached carried toggle before.2
    obtain ⟨exitCode, output, complaint⟩ := passes _ result
    have behind : report.state = _ := left.trans state
    rw [copy] at behind output
    have next : report.state.1.Holds cluster name grant := by
      rw [← copy]
      exact run_holds ready reached carried toggle before.2
    have nextCarried : grant.Carried name := copy ▸ carried.marked toggle
    have same : Node.marked toggle.action toggle.marker grant = grant :=
      (Node.marked_iff toggle grant).mpr (by
        rw [← copy]
        exact toggle.applied_idle _)
    obtain ⟨leftAgain, _⟩ := run_marking ready Cluster.transport.recorded name toggle report.state
    obtain ⟨_, stateAgain⟩ := mark_stored next nextCarried toggle report.state.2
    have behindAgain : again.state = _ := leftAgain.trans stateAgain
    rw [same] at behindAgain
    refine ⟨exitCode, complaint, output, ?_, ?_, BucketAccess.read_back nextCarried.metadata,
      next.elsewhere, ?_⟩
    · rw [behind]
      rfl
    · rw [behind, Cluster.get?_put, if_pos rfl]
    · rw [behindAgain, Cluster.get?_put, if_pos rfl]
  · intro absent toggle report
    have address := grantAddress_plain plain short
    obtain ⟨left, _, fails⟩ :=
      run_marking ready Cluster.transport.recorded name toggle (cluster, requests)
    obtain ⟨result, state⟩ := mark_absent faultless address absent toggle requests
    obtain ⟨exitCode, output, complaint⟩ := fails _ result
    refine ⟨exitCode, output, complaint.trans (congrArg some ?_), left.trans state⟩
    rw [← String.toList_inj]
    simp [Complaint.text, toString]

/-- A grant of which nothing is reported, with one marker. -/
def unreportedGrant : BucketAccess :=
  ⟨{ Metadata.empty with name := some "grant", finalizers := some ["left"] },
    BucketAccessSpec.record.initial, none⟩

/-- The only marker of a grant is removed and another one is added, although nothing is
reported of the grant. -/
theorem unreported_grant_marked :
    let address := grantAddress "grant"
    let cluster := Cluster.empty.put address.path (BucketAccess.kind.format.toText unreportedGrant)
    let before := markAll plainSurroundings "grant" (cluster, []) [⟨.remove, "left"⟩]
    let report := run (marking "grant" ⟨.add, "right"⟩) plainSurroundings
      Cluster.transport.recorded before
    plainSurroundings.Ready ∧ PlainName "grant" ∧
      Metadata.record.FieldsComeBack 2 unreportedGrant.metadata ∧
      report.exitCode = 0 ∧ report.output = "right\n" ∧
      report.state.1.get? address.path = some (BucketAccess.kind.format.toText
        { unreportedGrant with
          metadata := { unreportedGrant.metadata with finalizers := some ["right"] } }) := by
  intro address cluster
  have ready : plainSurroundings.Ready := ⟨⟨_, rfl⟩, fun _ => ⟨_, rfl⟩⟩
  have plain : PlainName "grant" := by decide
  have metadata : Metadata.record.FieldsComeBack 2 unreportedGrant.metadata := by
    refine Metadata.fields_comeBack (by decide) ⟨?_, ?_, ?_⟩ <;>
      simp [unreportedGrant, Metadata.empty]
  have stored : cluster.get? address.path =
      some (BucketAccess.kind.format.toText unreportedGrant) := by
    rw [Cluster.get?_put, if_pos rfl]
  obtain ⟨exitCode, _, output, _, document, _⟩ :=
    (finalizer_replays ready plain (by decide) rfl []).1 _ unreportedGrant stored
      (BucketAccess.read_back metadata) rfl metadata [⟨.remove, "left"⟩] ⟨.add, "right"⟩
  have markers : Finalizer.replay ([⟨.remove, "left"⟩] ++ [⟨.add, "right"⟩])
      unreportedGrant.metadata.finalizers = some ["right"] := by decide
  have printed : "\n".intercalate ((some ["right"]).getD []) ++ "\n" = "right\n" := by simp
  rw [markers] at output document
  exact ⟨ready, plain, metadata, exitCode, output.trans printed, document⟩

end CommandLine

end BucketMount
