import BucketMount.Proofs.LiteralGates
import BucketMount.Proofs.ServerSteps
import BucketMount.Proofs.SharedPaths
import Mathlib.Data.List.TakeWhile

/-!
# Which object a lookup reads

Namespaces and names are put into a path as they are, whatever they are made of. A request ends
its path at the first question mark or number sign, and the server goes by that path, so a
lookup reads the text stored there: that of its own object where neither sign stands in a
namespace or a name, and else that of another one if there is any.

`lookups_served_by_path` says this of every store and of all names, and which objects have one
path. The server is one that never fails; what it answers to a fault that was planned is told of
no path.
-/

namespace BucketMount

/-! ## Paths that are served -/

namespace Address

/-- The path by which an object is served: its own path up to the first question mark or number
sign. -/
def servedPath (address : Address) : String :=
  String.ofList (address.path.toList.takeWhile fun character =>
    character != '?' && character != '#')

/-- Neither the namespace of an object nor its name ends a path. -/
structure Uncut (address : Address) : Prop where
  name : ∀ sign ∈ ['?', '#'], sign ∉ address.name.toList
  namespaceName : ∀ sign ∈ ['?', '#'], ∀ within ∈ address.namespaceName, sign ∉ within.toList

/-- The fixed parts of a path do not end it. -/
theorem fixed_uncut (kind : Kind) : ∀ sign ∈ ['?', '#'], sign ≠ '/' ∧
    sign ∉ kind.root.toList ∧ sign ∉ kind.plural.toList ∧ sign ∉ "namespaces".toList := by
  intro sign listed
  simp only [List.mem_cons, List.not_mem_nil, or_false] at listed
  rcases listed with rfl | rfl <;> cases kind <;> decide

/-- An object whose namespace and name do not end a path is served by its own path. -/
theorem Uncut.servedPath_eq {address : Address} (uncut : address.Uncut) :
    address.servedPath = address.path := by
  have absent : ∀ sign ∈ ['?', '#'], sign ∉ address.path.toList := by
    intro sign listed
    obtain ⟨slash, root, plural, word⟩ := fixed_uncut address.kind sign listed
    have name := uncut.name sign listed
    rw [path_characters]
    cases named : address.namespaceName with
    | none => simp [slash, root, plural, name]
    | some within =>
      have namespaceName := uncut.namespaceName sign listed within named
      simp only [List.mem_append, List.mem_cons, not_or]
      exact ⟨root, slash, word, slash, namespaceName, slash, plural, slash, name⟩
  have kept : ∀ character ∈ address.path.toList,
      (character != '?' && character != '#') = true := by
    intro character member
    have question : character ≠ '?' := fun same => absent '?' (by simp) (same ▸ member)
    have number : character ≠ '#' := fun same => absent '#' (by simp) (same ▸ member)
    simp [question, number]
  rw [servedPath, List.takeWhile_eq_self_iff.mpr kept, String.ofList_toList]

end Address

/-! ## Lookups -/

/-- A store serves a value for an object: a request for it can be made, and the value is what the
text under the served path is decoded to. -/
def ServedAs {α : Type} (objects : Dictionary String) (format : Format α) (address : Address)
    (value : α) : Prop :=
  (∃ target, Http.targetOf address "" = .ok target) ∧
    ∃ text, objects.get? address.servedPath = some text ∧ format.ofText text = .ok value

/-- The path of a request is the one by which the object is served. -/
theorem Http.targetOf_servedPath {address : Address} {target : Http.Target}
    (addressed : Http.targetOf address "" = .ok target) : target.path = address.servedPath := by
  rw [targetOf_path addressed, String.append_empty]
  rfl

/-- A lookup finds what the store serves. -/
theorem read_served {α : Type} (objects : Dictionary String) (format : Format α)
    (address : Address) (value : α) :
    (Http.read Cluster.transport format address ⟨objects, []⟩).result = .ok (some value) ↔
      ServedAs objects format address value := by
  have faultless : (⟨objects, []⟩ : Cluster).faults = [] := rfl
  constructor
  · intro found
    obtain ⟨target, text, addressed, stored, decoded, _⟩ := Cluster.read_found faultless found
    rw [Http.targetOf_servedPath addressed] at stored
    exact ⟨⟨target, addressed⟩, text, stored, decoded⟩
  · rintro ⟨⟨target, addressed⟩, text, stored, decoded⟩
    rw [← Http.targetOf_servedPath addressed] at stored
    exact Cluster.read_passes faultless addressed stored decoded

/-- Of any store, a lookup finds what the text under the served path of its object is decoded to,
and nothing else. This path is the object's own where neither its namespace nor its name holds
a question mark or a number sign. Two different objects have one path exactly if they cross,
and then a slash stands in the name of the one and in the namespace of the other.

Proof: a request ends its path at the first of the two signs and the server goes by that path;
paths are compared segment by segment. -/
theorem lookups_served_by_path (objects : Dictionary String) :
    let client := Http.client Cluster.transport
    let cluster : Cluster := ⟨objects, []⟩
    (∀ name namespaceName request,
      (client.findBucketAccessRequest name namespaceName cluster).result = .ok (some request) ↔
        ServedAs objects BucketAccessRequest.kind.format
          ⟨.bucketAccessRequest, some namespaceName, name⟩ request) ∧
    (∀ name access, (client.findBucketAccess name cluster).result = .ok (some access) ↔
      ServedAs objects BucketAccess.kind.format ⟨.bucketAccess, none, name⟩ access) ∧
    (∀ name namespaceName request,
      (client.findBucketRequest name namespaceName cluster).result = .ok (some request) ↔
        ServedAs objects BucketRequest.kind.format
          ⟨.bucketRequest, some namespaceName, name⟩ request) ∧
    (∀ name bucket, (client.findBucket name cluster).result = .ok (some bucket) ↔
      ServedAs objects Bucket.kind.format ⟨.bucket, none, name⟩ bucket) ∧
    (∀ name namespaceName secret,
      (client.findSecret name namespaceName cluster).result = .ok (some secret) ↔
        ServedAs objects Secret.format ⟨.secret, some namespaceName, name⟩ secret) ∧
    (∀ address : Address, address.Uncut → address.servedPath = address.path) ∧
    (∀ address other : Address, address.path = other.path ↔
      address = other ∨ address.Crosses other ∨ other.Crosses address) ∧
    ∀ address other : Address, address.Crosses other →
      '/' ∈ address.name.toList ∧ ∃ within ∈ other.namespaceName, '/' ∈ within.toList :=
  ⟨fun _ _ => read_served _ _ _, fun _ => read_served _ _ _, fun _ _ => read_served _ _ _,
    fun _ => read_served _ _ _, fun _ _ => read_served _ _ _, fun _ => Address.Uncut.servedPath_eq,
    Address.path_eq_iff, fun _ _ => Address.Crosses.slashes⟩

/-- A lookup of a name with a question mark finds the grant whose name ends in front of it, though
nothing is stored under the path of its own name. -/
theorem cut_name_reads_other_grant :
    let lookup := fun name =>
      (Http.client Cluster.transport).findBucketAccess name Node.grantingCluster
    ∃ access, (lookup "grant?x").result = .ok (some access) ∧
      (lookup "grant").result = .ok (some access) ∧
      Node.grantingCluster.get? (Address.path ⟨.bucketAccess, none, "grant?x"⟩) = none := by
  intro lookup
  have found : ((lookup "grant?x").result.toOption.join).isSome = true := by
    decide +kernel
  obtain ⟨access, joined⟩ := Option.isSome_iff_exists.mp found
  have passed : (lookup "grant?x").result = .ok (some access) :=
    Operation.passes_of_toOption (Option.join_eq_some_iff.mp joined)
  have served (name : String) := read_served Node.grantingCluster.objects BucketAccess.kind.format
    ⟨.bucketAccess, none, name⟩ access
  obtain ⟨_, text, stored, decoded⟩ := (served "grant?x").mp passed
  obtain ⟨target, addressed⟩ : ∃ target,
      Http.targetOf ⟨.bucketAccess, none, "grant"⟩ "" = .ok target :=
    Operation.passes_of_isOk (by decide +kernel)
  have servedAlike : Address.servedPath ⟨.bucketAccess, none, "grant?x"⟩ =
      Address.servedPath ⟨.bucketAccess, none, "grant"⟩ := by
    decide +kernel
  rw [servedAlike] at stored
  exact ⟨access, passed, (served "grant").mpr ⟨⟨target, addressed⟩, text, stored, decoded⟩,
    by decide +kernel⟩

end BucketMount
