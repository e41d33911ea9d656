import BucketMount.CommandLine.Run
import BucketMount.Proofs.LegibleDocuments
import BucketMount.Proofs.MarkerSteps
import BucketMount.Proofs.PlainPaths
import BucketMount.Proofs.ServerSteps

/-!
# A grant that was marked

A grant is marked by reading the stored document, changing the markers of the copy, and
replacing the whole document by that of the copy. What the document says at other places
is written anew on this way. `Rewritten` tells, name by name, what becomes of it, and
`finalizer_rewrites_grant` says that a command that passes leaves behind exactly such a
document in place of the one it read.

What the document says under names that a grant does not know is lost
(`unknown_member_dropped`).
-/

namespace BucketMount

namespace Json

/-- No list stands on a path in front of its last value, so names lead on everywhere. -/
def Named : List String → Json → Prop
  | [], _ => True
  | key :: path, tree => ¬ tree.IsList ∧ ∀ part ∈ tree.get? key, Named path part

end Json

/-! ## Parts of a document -/

/-- The members of an object's document are those of its parts, behind the two that name
its group, version and kind. -/
theorem CustomKind.encode_get? {Spec Status : Type} (kind : CustomKind Spec Status)
    (object : CustomObject Spec Status) :
    (kind.format.encode object).get? "apiVersion" = some (.string apiVersion) ∧
    (kind.format.encode object).get? "kind" = some (.string kind.name) ∧
    ∀ key, key ≠ "apiVersion" → key ≠ "kind" →
      (kind.format.encode object).get? key =
        Json.member? key (kind.envelope.encodedMembers object) := by
  have members (key : String) : (kind.format.encode object).get? key =
      ((Json.member? key (kind.envelope.encodedMembers object)).or
        (if "kind" = key then some (.string kind.name) else none)).or
        (if "apiVersion" = key then some (.string apiVersion) else none) := by
    refine (Json.member?_cons key ("apiVersion", .string apiVersion) _).trans ?_
    rw [Json.member?_cons]
  have strange (key : String) (other : key ∉ ["metadata", "spec", "status"]) :
      Json.member? key (kind.envelope.encodedMembers object) = none := by
    by_contra found
    exact other (by simpa [envelope, Field.required] using Record.known_of_get? found)
  refine ⟨?_, ?_, fun key notVersion notKind => ?_⟩
  · rw [members, strange _ (by decide)]
    rfl
  · rw [members, strange _ (by decide)]
    rfl
  · rw [members, if_neg (Ne.symm notKind), if_neg (Ne.symm notVersion), Option.or_none,
      Option.or_none]

/-- The three parts of an object stand in its document, a status only if there is one. -/
theorem CustomKind.encode_parts {Spec Status : Type} (kind : CustomKind Spec Status)
    (object : CustomObject Spec Status) :
    (kind.format.encode object).get? "metadata" = some (Metadata.format.encode object.metadata) ∧
    (kind.format.encode object).get? "spec" = some (kind.spec.format.encode object.spec) ∧
    (kind.format.encode object).get? "status" =
      object.status.map kind.status.format.encode := by
  obtain ⟨_, _, members⟩ := kind.encode_get? object
  refine ⟨?_, ?_, ?_⟩
  · rw [members _ (by decide) (by decide)]
    exact Record.member?_encodedMembers kind.envelope_lawful object _ (.head _)
  · rw [members _ (by decide) (by decide)]
    exact Record.member?_encodedMembers kind.envelope_lawful object _ (.tail _ (.head _))
  · rw [members _ (by decide) (by decide)]
    refine (Record.member?_encodedMembers kind.envelope_lawful object _
      (.tail _ (.tail _ (.head _)))).trans ?_
    obtain ⟨_, _, status⟩ := object
    cases status <;> rfl

/-- Markers as they stand in a document. -/
def Finalizer.written (markers : Option (List String)) : Option Json :=
  markers.map fun markers => .array (markers.map .string) none

namespace Metadata

variable {old new : Json}

/-- Metadata that was read is rewritten with the markers toggled and nothing else changed. -/
theorem rewrites_toggled {tree : Json} {metadata : Metadata}
    (decoded : format.decode .text tree = .ok metadata) (toggle : Finalizer.Toggle) :
    let written := format.encode (Finalizer.applyTo toggle.action toggle.marker metadata).1
    record.Rewrites ["finalizers"] tree written ∧
      (tree.get? "finalizers").filter (· != .null) = Finalizer.written metadata.finalizers ∧
      written.get? "finalizers" = Finalizer.written (toggle.applied metadata.finalizers) := by
  obtain ⟨members, tail, rfl, decoded⟩ := object_decoded decoded
  have markers : record.fields[4] ∈ record.fields := List.getElem_mem _
  refine ⟨?_, ?_, Record.member?_optional lawful _ markers⟩
  · refine Record.rewrites_object lawful decoded fun field listed other => ?_
    exact lawful.get_set_other record.fields[4] markers field listed
      (fun same => other (List.mem_singleton.mpr same.symm)) metadata _
  · have same : record.Rewrites [] (.object members tail) (format.encode metadata) :=
      Record.rewrites_object lawful decoded fun _ _ _ => rfl
    have kept := (same.fields record.fields[4] markers List.not_mem_nil).kept
      (Format.list_faithful Format.string_faithful)
    exact kept.symm.trans (Record.member?_optional lawful metadata markers)

/-- The names in metadata whose texts and numbers stay as they are, unless they are null. -/
def keptNames : List String :=
  ["deletionGracePeriodSeconds", "generateName", "generation", "name", "namespace",
    "resourceVersion", "selfLink", "uid"]

/-- Each field of metadata but the markers is rewritten. -/
theorem rewrites_part (rewrites : record.Rewrites ["finalizers"] old new) (place : Fin 15)
    (other : (record.fields.get place).key ∉ ["finalizers"]) :
    (record.fields.get place).Rewrites (old.get? (record.fields.get place).key)
      (new.get? (record.fields.get place).key) :=
  rewrites.fields _ (List.get_mem _ _) other

/-- Texts and numbers of metadata stay as they are, unless they are null. -/
theorem rewrites_kept (rewrites : record.Rewrites ["finalizers"] old new) :
    ∀ key ∈ keptNames, new.get? key = (old.get? key).filter (· != .null) := by
  have part := rewrites_part rewrites
  intro key listed
  simp only [keptNames, List.mem_cons, List.not_mem_nil, or_false] at listed
  rcases listed with rfl | rfl | rfl | rfl | rfl | rfl | rfl | rfl
  · exact (part 2 (by decide)).kept Format.integer_faithful
  · exact (part 5 (by decide)).kept Format.string_faithful
  · exact (part 6 (by decide)).kept Format.integer_faithful
  · exact (part 9 (by decide)).kept Format.string_faithful
  · exact (part 10 (by decide)).kept Format.string_faithful
  · exact (part 12 (by decide)).kept Format.string_faithful
  · exact (part 13 (by decide)).kept Format.string_faithful
  · exact (part 14 (by decide)).kept Format.string_faithful

/-- The entries of both dictionaries in metadata stay as they are. -/
theorem rewrites_entries (rewrites : record.Rewrites ["finalizers"] old new) :
    ∀ key ∈ ["annotations", "labels"], ∀ name,
      (new.get? key).bind (Json.get? name) = (old.get? key).bind (Json.get? name) := by
  intro key listed
  simp only [List.mem_cons, List.not_mem_nil, or_false] at listed
  rcases listed with rfl | rfl
  · exact (rewrites_part rewrites 0 (by decide)).entries
  · exact (rewrites_part rewrites 7 (by decide)).entries

/-- Whatever metadata holds besides the markers is there exactly if it was and was not null. -/
theorem rewrites_present (rewrites : record.Rewrites ["finalizers"] old new) :
    ∀ key ∈ record.fields.map Field.key, key ≠ "finalizers" →
      (new.get? key).isSome = ((old.get? key).filter (· != .null)).isSome := by
  intro key listed other
  obtain ⟨field, member, rfl⟩ := List.mem_map.mp listed
  have part := rewrites.fields field member (by simpa using other)
  simp only [record, List.mem_cons, List.not_mem_nil, or_false] at member
  rcases member with rfl | rfl | rfl | rfl | rfl | rfl | rfl | rfl | rfl | rfl | rfl | rfl | rfl |
    rfl | rfl <;> exact part.present

end Metadata

/-- The parts of a reference stay as they are, unless they are null. -/
theorem Reference.rewrites_kept {old new : Json} (rewrites : record.Rewrites [] old new) :
    ∀ key ∈ record.fields.map Field.key, new.get? key = (old.get? key).filter (· != .null) := by
  intro key listed
  obtain ⟨field, member, rfl⟩ := List.mem_map.mp listed
  have part := rewrites.fields field member (List.not_mem_nil)
  simp only [record, List.mem_cons, List.not_mem_nil, or_false] at member
  rcases member with rfl | rfl | rfl <;> exact part.kept Format.string_faithful

namespace BucketAccessSpec

variable {old new : Json}

/-- Each field of what is wanted of a grant is rewritten. -/
theorem rewrites_part (rewrites : record.Rewrites [] old new) (place : Fin 7) :
    (record.fields.get place).Rewrites (old.get? (record.fields.get place).key)
      (new.get? (record.fields.get place).key) :=
  rewrites.fields _ (List.get_mem _ _) List.not_mem_nil

/-- What is wanted of a grant always names a bucket and a secret, if only by the empty
text, and its other texts stay as they are, unless they are empty. -/
theorem rewrites_texts (rewrites : record.Rewrites [] old new) :
    (∀ key ∈ ["bucketName", "mintedSecretName"],
      new.get? key = some ((old.get? key).getD (.string ""))) ∧
    ∀ key ∈ ["policyActionsConfigMapData", "principal"],
      new.get? key = (old.get? key).filter (· != .string "") := by
  have part := rewrites_part rewrites
  constructor
  · intro key listed
    simp only [List.mem_cons, List.not_mem_nil, or_false] at listed
    rcases listed with rfl | rfl
    · exact (part 0).filled Format.string_faithful
    · exact (part 3).filled Format.string_faithful
  · intro key listed
    simp only [List.mem_cons, List.not_mem_nil, or_false] at listed
    rcases listed with rfl | rfl
    · exact (part 4).thinned
    · exact (part 5).thinned

/-- A reference is there exactly if it was and was not null, and its parts stay as they are,
unless they are null. -/
theorem rewrites_reference (rewrites : record.Rewrites [] old new) :
    ∀ reference ∈ ["bucketAccessRequest", "serviceAccount"],
      (new.get? reference).isSome = ((old.get? reference).filter (· != .null)).isSome ∧
      ((∀ part ∈ old.get? reference, ¬ part.IsList) →
        ∀ key ∈ Reference.record.fields.map Field.key,
          (new.get? reference).bind (Json.get? key) =
            ((old.get? reference).bind (Json.get? key)).filter (· != .null)) := by
  have both {key : String} {description : Option String}
      {get : BucketAccessSpec → Option Reference}
      {set : BucketAccessSpec → Option Reference → BucketAccessSpec} {old new : Option Json}
      (part : (Field.optional key description Reference.record.format get set).Rewrites old new) :
      new.isSome = (old.filter (· != .null)).isSome ∧
      ((∀ part ∈ old, ¬ part.IsList) → ∀ key ∈ Reference.record.fields.map Field.key,
        new.bind (Json.get? key) = (old.bind (Json.get? key)).filter (· != .null)) := by
    refine ⟨part.present, fun named key listed => ?_⟩
    rcases part.within Reference.lawful named with
      ⟨unset, rfl⟩ | ⟨tree, rewritten, rfl, _, rfl, rewrites⟩
    · rw [Field.unset_get? unset]
      rfl
    · exact Reference.rewrites_kept rewrites key listed
  intro reference listed
  simp only [List.mem_cons, List.not_mem_nil, or_false] at listed
  rcases listed with rfl | rfl
  · exact both (rewrites_part rewrites 1)
  · exact both (rewrites_part rewrites 2)

/-- The entries of the parameters stay as they are, and the parameters are there exactly if
there is one. -/
theorem rewrites_parameters (rewrites : record.Rewrites [] old new) :
    (∀ name, (new.get? "parameters").bind (Json.get? name) =
      (old.get? "parameters").bind (Json.get? name)) ∧
    (new.get? "parameters" = none ↔ ∀ name, (old.get? "parameters").bind (Json.get? name) = none) :=
  (rewrites_part rewrites 6).gathered

/-- A reference stands in the document exactly if it is set. -/
theorem encode_references (spec : BucketAccessSpec) :
    (record.format.encode spec).get? "bucketAccessRequest" =
        spec.bucketAccessRequest.map Reference.record.format.encode ∧
      (record.format.encode spec).get? "serviceAccount" =
        spec.serviceAccount.map Reference.record.format.encode :=
  ⟨Record.member?_optional lawful spec (.tail _ (.head _)),
    Record.member?_optional lawful spec (.tail _ (.tail _ (.head _)))⟩

end BucketAccessSpec

/-! ## Whole documents -/

namespace BucketAccess

/-- The objects in a grant's document, by their paths, and the names known in each. -/
def knownNames : List (List String × List String) :=
  [([], ["apiVersion", "kind", "metadata", "spec", "status"]),
    (["metadata"], Metadata.record.fields.map Field.key),
    (["spec"], BucketAccessSpec.record.fields.map Field.key),
    (["spec", "bucketAccessRequest"], Reference.record.fields.map Field.key),
    (["spec", "serviceAccount"], Reference.record.fields.map Field.key),
    (["status"], BucketAccessStatus.record.fields.map Field.key)]

/-- The paths of texts and numbers that may be unset. -/
def keptPaths : List (List String) :=
  Metadata.keptNames.map (fun key => ["metadata", key]) ++
    ["bucketAccessRequest", "serviceAccount"].flatMap fun reference =>
      (Reference.record.fields.map Field.key).map fun key => ["spec", reference, key]

/-- The paths of dictionaries. -/
def dictionaryPaths : List (List String) :=
  [["metadata", "annotations"], ["metadata", "labels"], ["spec", "parameters"]]

/-- The paths of parts that may be unset and are written anew as a whole. -/
def partPaths : List (List String) :=
  (["annotations", "creationTimestamp", "deletionTimestamp", "labels", "managedFields",
      "ownerReferences"].map fun key => ["metadata", key]) ++
    (["bucketAccessRequest", "serviceAccount"].map fun key => ["spec", key]) ++ [["status"]]

/-- What the document of a grant says behind a toggle, name by name.

The first two members name the kind, whatever they said before, and nothing stands under a
name that is not known. Under the others the document says what it said, with these
exceptions: a null is left out; an empty text is, where it means the same; a name that must
be told is told, if only as empty or not granted; of the markers the toggle is applied. Where
a list stands in place of an object no names lead on; such a list, times, owners and managers
are written in the form of what they were decoded to. -/
structure Rewritten (toggle : Finalizer.Toggle) (old new : Json) : Prop where
  apiVersion : new.at? ["apiVersion"] = some (.string CustomKind.apiVersion)
  kind : new.at? ["kind"] = some (.string BucketAccess.kind.name)
  known : ∀ object ∈ knownNames, ∀ key, new.at? (object.1 ++ [key]) ≠ none → key ∈ object.2
  kept : ∀ path ∈ keptPaths, old.Named path → new.at? path = (old.at? path).filter (· != .null)
  filled : ∀ key ∈ ["bucketName", "mintedSecretName"], old.Named ["spec", key] →
    new.at? ["spec", key] = some ((old.at? ["spec", key]).getD (.string ""))
  thinned : ∀ key ∈ ["policyActionsConfigMapData", "principal"], old.Named ["spec", key] →
    new.at? ["spec", key] = (old.at? ["spec", key]).filter (· != .string "")
  entries : ∀ path ∈ dictionaryPaths, old.Named path → ∀ name,
    new.at? (path ++ [name]) = old.at? (path ++ [name])
  parameters : old.Named ["spec", "parameters"] →
    (new.at? ["spec", "parameters"] = none ↔
      ∀ name, old.at? (["spec", "parameters"] ++ [name]) = none)
  granted : old.Named ["status", "accessGranted"] →
    new.at? ["status", "accessGranted"] = ((old.at? ["status"]).filter (· != .null)).map
      fun status => (status.get? "accessGranted").getD (.boolean false)
  present : ∀ path ∈ partPaths, old.Named path →
    (new.at? path).isSome = ((old.at? path).filter (· != .null)).isSome
  markers : ∃ markers,
    (old.at? ["metadata", "finalizers"]).filter (· != .null) = Finalizer.written markers ∧
      new.at? ["metadata", "finalizers"] = Finalizer.written (toggle.applied markers)
  metadata : ∀ field ∈ Metadata.record.fields, field.key ≠ "finalizers" →
    field.Rewrites (old.at? ["metadata", field.key]) (new.at? ["metadata", field.key])
  parts : ∀ field ∈ BucketAccess.kind.envelope.fields, field.key ≠ "metadata" →
    field.Rewrites (old.at? [field.key]) (new.at? [field.key])

/-- In the document of a grant nothing stands under names that are not known. -/
theorem encode_known (access : BucketAccess) : ∀ object ∈ knownNames, ∀ key,
    (kind.format.encode access).at? (object.1 ++ [key]) ≠ none → key ∈ object.2 := by
  obtain ⟨metadata, _, status⟩ := kind.encode_parts access
  obtain ⟨_, _, members⟩ := kind.encode_get? access
  have spec : (kind.format.encode access).get? "spec" =
      some (BucketAccessSpec.record.format.encode access.spec) := (kind.encode_parts access).2.1
  obtain ⟨request, account⟩ := access.spec.encode_references
  have known {R : Type} {record : Record R} (part : Option R) (key : String)
      (found : (part.map record.format.encode).bind (Json.get? key) ≠ none) :
      key ∈ record.fields.map Field.key := by
    cases part with
    | none => exact absurd rfl found
    | some value => exact Record.known_of_get? found
  intro object listed key found
  simp only [knownNames, List.mem_cons, List.not_mem_nil, or_false] at listed
  rcases listed with rfl | rfl | rfl | rfl | rfl | rfl
  · by_cases named : key ∈ ["apiVersion", "kind"]
    · exact List.mem_append_left ["metadata", "spec", "status"] named
    · simp only [List.mem_cons, List.not_mem_nil, or_false, not_or] at named
      rw [List.nil_append, Json.at?_one, members key named.1 named.2] at found
      exact List.mem_append_right ["apiVersion", "kind"] (Record.known_of_get? found)
  · rw [Json.at?_snoc, Json.at?_one, metadata] at found
    exact Record.known_of_get? found
  · rw [Json.at?_snoc, Json.at?_one, spec] at found
    exact Record.known_of_get? found
  · rw [Json.at?_snoc, Json.at?_two, spec, Option.bind_some, request] at found
    exact known _ key found
  · rw [Json.at?_snoc, Json.at?_two, spec, Option.bind_some, account] at found
    exact known _ key found
  · rw [Json.at?_snoc, Json.at?_one, status] at found
    exact known _ key found

/-- The parts of a document that is decoded to a grant are rewritten by their records,
with the markers toggled.

Proof: the parts of the old document are decoded to those of the grant, and the new
document holds what is written of these. -/
theorem rewrites_parts {old : Json} {access : BucketAccess}
    (decoded : kind.format.decode .text old = .ok access) (named : ¬ old.IsList)
    (toggle : Finalizer.Toggle) :
    let new := kind.format.encode (Node.marked toggle.action toggle.marker access)
    (∃ before behind markers, old.get? "metadata" = some before ∧
      new.get? "metadata" = some behind ∧ Metadata.record.Rewrites ["finalizers"] before behind ∧
      (before.get? "finalizers").filter (· != .null) = Finalizer.written markers ∧
      behind.get? "finalizers" = Finalizer.written (toggle.applied markers)) ∧
    (∃ before behind, old.get? "spec" = some before ∧ new.get? "spec" = some behind ∧
      (¬ before.IsList → BucketAccessSpec.record.Rewrites [] before behind)) ∧
    ∀ field ∈ kind.envelope.fields, field.key ≠ "metadata" →
      field.Rewrites (old.get? field.key) (new.get? field.key) := by
  obtain ⟨members, tail, rfl, object⟩ := Record.decoded_by_name decoded named
  let changed := Node.marked toggle.action toggle.marker access
  obtain ⟨_, _, written⟩ := kind.encode_get? changed
  obtain ⟨newMetadata, newSpec, _⟩ := kind.encode_parts changed
  obtain ⟨_, ⟨oldMetadata, metadataFound, metadataDecoded⟩, ⟨oldSpec, specFound, specDecoded⟩, _⟩ :=
    CustomKind.parts_decoded decoded
  refine ⟨⟨oldMetadata, _, _, metadataFound, newMetadata,
    Metadata.rewrites_toggled metadataDecoded toggle⟩, ⟨oldSpec, _, specFound, newSpec,
    Record.rewrites_format BucketAccessSpec.lawful specDecoded⟩, fun field listed other => ?_⟩
  have agree : kind.envelope.Rewrites ["metadata"] (.object members tail)
      (.object (kind.envelope.encodedMembers changed) none) :=
    Record.rewrites_object kind.envelope_lawful object fun field listed other =>
      kind.envelope_lawful.get_set_other _ (.head _) field listed
        (fun same => other (List.mem_singleton.mpr same.symm)) access changed.metadata
  have part := agree.fields field listed (by simpa using other)
  rcases List.mem_cons.mp listed with rfl | listed
  · exact absurd rfl other
  rcases List.mem_cons.mp listed with rfl | listed
  · rwa [written _ (by decide) (by decide)]
  · obtain rfl := List.mem_singleton.mp listed
    rwa [written _ (by decide) (by decide)]

/-- A document that is decoded to a grant is rewritten by marking the grant.

Proof: its parts are rewritten by their records, and what this comes to under a name depends
on the field of this name. The cases are the lists of paths. -/
theorem rewritten {old : Json} {access : BucketAccess}
    (decoded : kind.format.decode .text old = .ok access) (named : ¬ old.IsList)
    (toggle : Finalizer.Toggle) :
    Rewritten toggle old (kind.format.encode (Node.marked toggle.action toggle.marker access)) := by
  have known := encode_known (Node.marked toggle.action toggle.marker access)
  obtain ⟨versionWritten, kindWritten, _⟩ :=
    kind.encode_get? (Node.marked toggle.action toggle.marker access)
  obtain ⟨⟨oldMetadata, newMetadata, markers, metadataBefore, metadataBehind, metadata,
    markersBefore, markersBehind⟩, ⟨oldSpec, newSpec, specBefore, specBehind, spec⟩, parts⟩ :=
    rewrites_parts decoded named toggle
  generalize kind.format.encode (Node.marked toggle.action toggle.marker access) = new at *
  have reported := parts _ (.tail _ (.tail _ (.head _))) (by decide)
  have status : (Field.optional "status" none BucketAccessStatus.record.format
      CustomObject.status (fun (object : BucketAccess) status =>
        { object with status := status })).Rewrites (old.get? "status") (new.get? "status") :=
    reported
  have specNamed {path : List String} (leads : old.Named ("spec" :: path)) (more : path ≠ []) :
      BucketAccessSpec.record.Rewrites [] oldSpec newSpec := by
    obtain ⟨key, path, rfl⟩ := List.exists_cons_of_ne_nil more
    exact spec (leads.2 oldSpec specBefore).1
  constructor
  case apiVersion => rwa [Json.at?_one]
  case kind => rwa [Json.at?_one]
  case known => exact known
  case kept =>
    intro path listed leads
    rcases List.mem_append.mp listed with inMetadata | inSpec
    · obtain ⟨key, keyListed, rfl⟩ := List.mem_map.mp inMetadata
      rw [Json.at?_two, Json.at?_two, metadataBefore, metadataBehind]
      exact Metadata.rewrites_kept metadata key keyListed
    · obtain ⟨reference, referenceListed, inReference⟩ := List.mem_flatMap.mp inSpec
      obtain ⟨key, keyListed, rfl⟩ := List.mem_map.mp inReference
      have inner := (BucketAccessSpec.rewrites_reference (specNamed leads (by simp)) reference
        referenceListed).2 fun part found => ((leads.2 oldSpec specBefore).2 part found).1
      rw [Json.at?_three, Json.at?_three, specBefore, specBehind]
      exact inner key keyListed
  case filled =>
    intro key listed leads
    rw [Json.at?_two, Json.at?_two, specBefore, specBehind]
    exact (BucketAccessSpec.rewrites_texts (specNamed leads (by simp))).1 key listed
  case thinned =>
    intro key listed leads
    rw [Json.at?_two, Json.at?_two, specBefore, specBehind]
    exact (BucketAccessSpec.rewrites_texts (specNamed leads (by simp))).2 key listed
  case entries =>
    intro path listed leads name
    simp only [dictionaryPaths, List.mem_cons, List.not_mem_nil, or_false] at listed
    rw [Json.at?_snoc, Json.at?_snoc]
    rcases listed with rfl | rfl | rfl
    · rw [Json.at?_two, Json.at?_two, metadataBefore, metadataBehind]
      exact Metadata.rewrites_entries metadata "annotations" (by simp) name
    · rw [Json.at?_two, Json.at?_two, metadataBefore, metadataBehind]
      exact Metadata.rewrites_entries metadata "labels" (by simp) name
    · rw [Json.at?_two, Json.at?_two, specBefore, specBehind]
      exact (BucketAccessSpec.rewrites_parameters (specNamed leads (by simp))).1 name
  case parameters =>
    intro leads
    simp only [Json.at?_snoc, Json.at?_two, specBefore, specBehind]
    exact (BucketAccessSpec.rewrites_parameters (specNamed leads (by simp))).2
  case granted =>
    intro leads
    rw [Json.at?_two, Json.at?_one]
    rcases status.within BucketAccessStatus.lawful fun part found => (leads.2 part found).1 with
      ⟨unset, missing⟩ | ⟨part, behind, found, filled, there, rewrites⟩
    · rw [unset, missing]
      rfl
    · rw [found, there]
      have flag : behind.get? "accessGranted" =
          some ((part.get? "accessGranted").getD (.boolean false)) :=
        (rewrites.fields _ (.head _) List.not_mem_nil).filled Format.boolean_faithful
      simpa [Option.filter, filled] using flag
  case present =>
    intro path listed leads
    rcases List.mem_append.mp listed with inParts | isStatus
    · rcases List.mem_append.mp inParts with inMetadata | inSpec
      · obtain ⟨key, keyListed, rfl⟩ := List.mem_map.mp inMetadata
        have other : ∀ key ∈ ["annotations", "creationTimestamp", "deletionTimestamp", "labels",
            "managedFields", "ownerReferences"],
            key ∈ Metadata.record.fields.map Field.key ∧ key ≠ "finalizers" := by decide
        rw [Json.at?_two, Json.at?_two, metadataBefore, metadataBehind]
        exact Metadata.rewrites_present metadata key (other key keyListed).1 (other key keyListed).2
      · obtain ⟨key, keyListed, rfl⟩ := List.mem_map.mp inSpec
        rw [Json.at?_two, Json.at?_two, specBefore, specBehind]
        exact (BucketAccessSpec.rewrites_reference (specNamed leads (by simp)) key keyListed).1
    · obtain rfl := List.mem_singleton.mp isStatus
      rw [Json.at?_one, Json.at?_one]
      exact status.present
  case markers =>
    simp only [Json.at?_two, metadataBefore, metadataBehind]
    exact ⟨markers, markersBefore, markersBehind⟩
  case metadata =>
    intro field listed other
    rw [Json.at?_two, Json.at?_two, metadataBefore, metadataBehind]
    exact metadata.fields field listed (by simpa using other)
  case parts =>
    intro field listed other
    rw [Json.at?_one, Json.at?_one]
    exact parts field listed other

end BucketAccess

namespace CommandLine

/-- Marking a grant passes if the grant is found and its copy, with the marker toggled,
replaces it; what this replacement leaves behind is left behind. -/
theorem mark_passed {σ : Type} {client : Client σ} {action : Finalizer.Action}
    {name marker : String} {state : σ} {output : String}
    (done : (mark client action name marker state).result = .ok output) :
    ∃ access answer, (client.findBucketAccess name state).result = .ok (some access) ∧
      (client.replaceBucketAccess (Node.marked action marker access)
        (client.findBucketAccess name state).state).result = .ok answer ∧
      (mark client action name marker state).state =
        (client.replaceBucketAccess (Node.marked action marker access)
          (client.findBucketAccess name state).state).state := by
  rcases found : (client.findBucketAccess name state).result with failure | _ | access
  · simp [mark, found, Effect.failed] at done
  · simp [mark, found, Effect.failed] at done
  · let next := (client.findBucketAccess name state).state
    have result := Node.mark_result client ⟨action, marker⟩ access next
    have left := Node.mark_state client ⟨action, marker⟩ access next
    simp only [mark, found] at done ⊢
    let copy := Node.marked action marker access
    cases replaced : (client.replaceBucketAccess copy next).result with
    | error failure =>
      rw [replaced] at result
      simp [Effect.behind, Effect.ofOutcome, next, result, Except.mapError, Except.map] at done
    | ok answer => exact ⟨access, answer, rfl, replaced, left⟩

/-- A command that adds a marker to a grant or removes one, and passes, reads the stored
document of a grant and stores another one under the grant's own name, which is in place of
the first if this is the name that was asked for. Nothing else is stored or removed. The new
document is rewritten from the old one, unless that is a list, and is read as the tree that
was written if the trees of the managers' fields are legible.

Proof: the command is a read and a replacement; what is replaced is what was read, with the
markers toggled. -/
theorem finalizer_rewrites_grant {cluster : Cluster} (faultless : cluster.faults = [])
    (action : Finalizer.Action) (name marker : String) {output : String}
    (done : (perform (Http.client Cluster.transport) (.finalizer action name marker)
      cluster).result = .ok output) :
    ∃ source target text access,
      Http.targetOf ⟨.bucketAccess, none, name⟩ "" = .ok source ∧
      cluster.get? source.path = some text ∧ BucketAccess.kind.format.ofText text = .ok access ∧
      Http.targetOf ⟨.bucketAccess, none, access.metadata.displayName⟩ "?" = .ok target ∧
      (access.metadata.displayName = name → target.path = source.path) ∧
      let new := BucketAccess.kind.format.encode (Node.marked action marker access)
      (perform (Http.client Cluster.transport) (.finalizer action name marker) cluster).state =
        cluster.put target.path new.text ∧
      (¬ (Json.ofText text).IsList →
        BucketAccess.Rewritten ⟨action, marker⟩ (Json.ofText text) new ∧
        ((∀ entries ∈ access.metadata.managedFields, ∀ entry ∈ entries, ∀ tree ∈ entry.fields,
          Json.Legible 4 tree) → Json.ofText new.text = new)) := by
  obtain ⟨access, answer, found, replaced, left⟩ := mark_passed done
  obtain ⟨source, text, read, stored, decoded, kept⟩ := Cluster.read_found faultless found
  rw [show ((Http.client Cluster.transport).findBucketAccess name cluster).state = cluster from
    kept] at replaced left
  obtain ⟨target, addressed, put⟩ := Cluster.replace_passed faultless replaced
  refine ⟨source, target, text, access, read, stored, decoded, addressed, fun own => ?_,
    left.trans put, fun named => ⟨?_, fun managed => ?_⟩⟩
  · exact Http.targetOf_same_path read (own ▸ addressed)
  · exact BucketAccess.rewritten (Format.decode_of_ofText decoded) named ⟨action, marker⟩
  · have numbers := BucketAccess.numbers_decoded (Format.decode_of_ofText decoded) named
    have metadata : Metadata.format.Legible 1 (Node.marked action marker access).metadata :=
      Metadata.legible (by decide) numbers.1 numbers.2 managed
    have read := (Json.reads_legible 0 _ (BucketAccess.legible metadata)).read_text
    rw [Json.ofText, read]

/-- A cluster that stores one grant. Its document names another version, says something under
a name that is not known, and says that a text is empty. -/
def foreignCluster : Cluster :=
  let document : Json := .object [("apiVersion", .string "v2"),
    ("metadata", .object [("name", .string "grant")] none),
    ("spec", .object [("note", .string "mine"), ("principal", .string "")] none)] none
  Cluster.empty.put (Address.path ⟨.bucketAccess, none, "grant"⟩) document.text

/-- A marker is added to the grant in this cluster: its document is rewritten in its place. -/
theorem foreign_grant_rewritten :
    let path := Address.path ⟨.bucketAccess, none, "grant"⟩
    ∃ text new, foreignCluster.get? path = some text ∧
      (perform (Http.client Cluster.transport) (.finalizer .add "grant" "m")
        foreignCluster).state = foreignCluster.put path new.text ∧
      Json.ofText new.text = new ∧
      BucketAccess.Rewritten ⟨.add, "m"⟩ (Json.ofText text) new := by
  obtain ⟨output, done⟩ : ∃ output, (perform (Http.client Cluster.transport)
      (.finalizer .add "grant" "m") foreignCluster).result = .ok output :=
    Operation.passes_of_isOk (by decide +kernel)
  obtain ⟨source, target, text, access, read, stored, decoded, _, samePath, left, rewritten⟩ :=
    finalizer_rewrites_grant (by rfl) .add "grant" "m" done
  have path : source.path = Address.path ⟨.bucketAccess, none, "grant"⟩ := by
    have plain : Address.Plain ⟨.bucketAccess, none, "grant"⟩ := by decide +kernel
    rw [Http.targetOf_plain plain] at read
    exact Except.ok.inj read ▸ rfl
  rw [path] at samePath stored
  have told : ∀ text ∈ foreignCluster.get? (Address.path ⟨.bucketAccess, none, "grant"⟩),
      ¬ (Json.ofText text).IsList ∧ ∀ access ∈ (BucketAccess.kind.format.ofText text).toOption,
        access.metadata.displayName = "grant" ∧ access.metadata.managedFields = none := by
    decide +kernel
  obtain ⟨named, content⟩ := told text stored
  obtain ⟨own, unmanaged⟩ := content access (by rw [decoded]; rfl)
  rw [samePath own] at left
  obtain ⟨rewrites, reads⟩ := rewritten named
  exact ⟨text, _, stored, left, reads (by simp [unmanaged]), rewrites⟩

/-- What the document said under the name that is not known is lost. -/
theorem unknown_member_dropped :
    let path := Address.path ⟨.bucketAccess, none, "grant"⟩
    let note (cluster : Cluster) : Option Json :=
      (cluster.get? path).bind fun text => (Json.ofText text).at? ["spec", "note"]
    let effect := perform (Http.client Cluster.transport) (.finalizer .add "grant" "m")
      foreignCluster
    effect.result.isOk = true ∧ (effect.state.get? path).isSome = true ∧
      note foreignCluster = some (.string "mine") ∧ note effect.state = none := by
  decide +kernel

end CommandLine

end BucketMount
