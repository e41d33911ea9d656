import BucketMount.Proofs.SharedPaths
import Mathlib.Data.List.TakeWhile

/-!
# Paths of plain names

A name is plain if it is made of ASCII letters, digits, hyphens and points. Plain names
stand in a path as they are: no slash moves a boundary and nothing ends the path, so the
target of a request is the path itself (`targetOf_plain`), and no other object is served
under it (`path_plain_injective`), whatever the names of other objects are made of.

Names of another sort are not told of here; two of them may share a path.
-/

namespace BucketMount

/-- A name that is not empty and made of ASCII letters, digits, hyphens and points. -/
def PlainName (name : String) : Prop :=
  name ≠ "" ∧ ∀ character ∈ name.toList,
    character.isAlphanum = true ∨ character = '-' ∨ character = '.'

-- Looking at the name's own characters, and not at all characters there are.
instance (name : String) : Decidable (PlainName name) :=
  decidable_of_iff (name ≠ "" ∧ name.toList.all (fun character =>
    character.isAlphanum || character == '-' || character == '.') = true)
    (by simp [PlainName, or_assoc])

namespace Address

/-- An address names a namespace exactly if its kind's objects live in namespaces. -/
def Scoped (address : Address) : Prop :=
  address.namespaceName.isSome = true ↔ address.kind.scope = .namespaced

/-- An address of a kind whose objects live in namespaces names one. -/
theorem scoped_inside {kind : Kind} (inside : kind.scope = .namespaced)
    (namespaceName name : String) : Scoped ⟨kind, some namespaceName, name⟩ := by
  simp [Scoped, inside]

/-- An address of a kind whose objects belong to the cluster names no namespace. -/
theorem scoped_outside {kind : Kind} (outside : kind.scope = .cluster) (name : String) :
    Scoped ⟨kind, none, name⟩ := by
  simp [Scoped, outside]

/-- An address of plain names whose path is not too long. -/
structure Plain (address : Address) : Prop where
  name : PlainName address.name
  namespaceName : ∀ namespaceName ∈ address.namespaceName, PlainName namespaceName
  short : address.path.utf8ByteSize ≤ Http.longest

instance (address : Address) : Decidable address.Plain :=
  decidable_of_iff (PlainName address.name ∧
    (∀ namespaceName ∈ address.namespaceName, PlainName namespaceName) ∧
    address.path.utf8ByteSize ≤ Http.longest)
    ⟨fun ⟨name, namespaceName, short⟩ => ⟨name, namespaceName, short⟩,
      fun ⟨name, namespaceName, short⟩ => ⟨name, namespaceName, short⟩⟩

end Address

/-! ## Paths -/

/-- No slash stands in a plain name. -/
theorem PlainName.no_slash {name : String} (plain : PlainName name) : '/' ∉ name.toList := by
  intro member
  rcases plain.2 '/' member with alphanumeric | hyphen | point
  · revert alphanumeric
    decide
  · revert hyphen
    decide
  · revert point
    decide

namespace Address

/-- The path of an object in a namespace has a segment for it, and the path of an object
of the cluster has none. -/
theorem Scoped.path_shape {address : Address} (within : address.Scoped) :
    (address.kind.scope = .namespaced → ∃ namespaceName,
      address.namespaceName = some namespaceName ∧
      address.path = address.kind.root ++ "/namespaces/" ++ namespaceName ++ "/" ++
        address.kind.plural ++ "/" ++ address.name) ∧
    (address.kind.scope = .cluster → address.namespaceName = none ∧
      address.path = address.kind.root ++ "/" ++ address.kind.plural ++ "/" ++ address.name) := by
  obtain ⟨kind, namespaceName, name⟩ := address
  cases namespaceName <;> simp_all [Scoped, path, collectionPath]

/-- Under the path of plain names no other object is served. -/
theorem path_plain_injective {address other : Address} (plain : address.Plain)
    (same : other.path = address.path) : other = address := by
  rcases (path_eq_iff other address).mp same with same | crosses | crosses
  · exact same
  · obtain ⟨_, within, inside, slash⟩ := crosses.slashes
    exact absurd slash (plain.namespaceName within inside).no_slash
  · exact absurd crosses.slashes.1 plain.name.no_slash

/-! ## Targets of requests -/

/-- The characters that occur in paths of plain names. -/
def PathCharacter (character : Char) : Prop :=
  character.isAlphanum = true ∨ character = '-' ∨ character = '.' ∨ character = '/'

/-- Characters of plain paths may stand in a path and do not end it. -/
theorem PathCharacter.stands {character : Char} (inPath : PathCharacter character) :
    Http.inPath character = true ∧ character ≠ '?' ∧ character ≠ '#' := by
  rcases inPath with alphanumeric | rfl | rfl | rfl
  · have code : 48 ≤ character.toNat ∧ character.toNat ≤ 57 ∨
        65 ≤ character.toNat ∧ character.toNat ≤ 90 ∨
        97 ≤ character.toNat ∧ character.toNat ≤ 122 := by
      have ranges : ((decide (character.val ≥ 65 ∧ character.val ≤ 90) ||
          (decide (character.val ≥ 97) && decide (character.val ≤ 122))) ||
          (decide (character.val ≥ 48) && decide (character.val ≤ 57))) = true := alphanumeric
      simp only [Bool.or_eq_true, Bool.and_eq_true, decide_eq_true_eq, ge_iff_le,
        UInt32.le_iff_toNat_le] at ranges
      simp at ranges
      omega
    refine ⟨?_, ?_, ?_⟩
    · simp [Http.inPath]
      omega
    · rintro rfl
      revert code
      decide
    · rintro rfl
      revert code
      decide
  · decide
  · decide
  · decide

/-- A path of plain names is made of such characters. -/
theorem Plain.characters {address : Address} (plain : address.Plain) :
    ∀ character ∈ address.path.toList, PathCharacter character := by
  have ofName {name : String} (plainName : PlainName name) :
      ∀ character ∈ name.toList, PathCharacter character := by
    intro character member
    rcases plainName.2 character member with alphanumeric | hyphen | point
    · exact .inl alphanumeric
    · exact .inr (.inl hyphen)
    · exact .inr (.inr (.inl point))
  have literal (text : String) (all : text.toList.all (fun character => character.isAlphanum ||
      ['-', '.', '/'].contains character) = true) :
      ∀ character ∈ text.toList, PathCharacter character := by
    simpa [PathCharacter] using all
  have ofRoot := literal address.kind.root (by cases address.kind <;> decide)
  have ofPlural := literal address.kind.plural (by cases address.kind <;> decide)
  have ofWord := literal "namespaces" (by decide)
  have slash : PathCharacter '/' := .inr (.inr (.inr rfl))
  intro character member
  rw [path_characters] at member
  cases named : address.namespaceName with
  | none =>
    simp only [named, List.mem_append, List.mem_cons] at member
    rcases member with inRoot | rfl | inPlural | rfl | inName
    · exact ofRoot _ inRoot
    · exact slash
    · exact ofPlural _ inPlural
    · exact slash
    · exact ofName plain.name _ inName
  | some namespaceName =>
    simp only [named, List.mem_append, List.mem_cons] at member
    rcases member with inRoot | rfl | inWord | rfl | inNamespace | rfl | inPlural | rfl | inName
    · exact ofRoot _ inRoot
    · exact slash
    · exact ofWord _ inWord
    · exact slash
    · exact ofName (plain.namespaceName _ named) _ inNamespace
    · exact slash
    · exact ofPlural _ inPlural
    · exact slash
    · exact ofName plain.name _ inName

end Address

/-- The target of a request that concerns an object of plain names is its path. -/
theorem Http.targetOf_plain {address : Address} (plain : address.Plain) :
    Http.targetOf address "" = .ok ⟨address.path, none⟩ := by
  have stands : ∀ character ∈ address.path.toList,
      Http.inPath character = true ∧ character ≠ '?' ∧ character ≠ '#' :=
    fun character member => (plain.characters character member).stands
  have whole : address.path.toList.takeWhile
      (fun character => character != '?' && character != '#') = address.path.toList := by
    refine List.takeWhile_eq_self_iff.mpr fun character member => ?_
    simp [(stands character member).2]
  have allowed : address.path.toList.all Http.inPath = true :=
    List.all_eq_true.mpr fun character member => (stands character member).1
  have short := Nat.not_lt.mpr plain.short
  simp [Http.targetOf, plain.name.1, short, Http.Target.ofCharacters, whole, allowed,
    Except.mapError]

end BucketMount
