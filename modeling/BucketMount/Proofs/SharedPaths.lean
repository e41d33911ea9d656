import BucketMount.Http.Client

/-!
# Paths that objects share

A path is put together from the parts of an address as they are, with slashes between them, so
slashes in a namespace or a name move the boundaries of the parts. Two objects have one path
exactly if they are the same or cross: the namespace of one goes on with the plural of the
other, and the name of the other ends with the plural and the name of the first
(`path_eq_iff`).
-/

namespace BucketMount

/-! ## Segments -/

/-- The first segment of a text is determined. -/
theorem segment_unique {first other rest others : List Char} (inFirst : '/' ∉ first)
    (inOther : '/' ∉ other) (same : first ++ '/' :: rest = other ++ '/' :: others) :
    first = other ∧ rest = others := by
  induction first generalizing other with
  | nil =>
    cases other with
    | nil => simpa using same
    | cons character other =>
      simp only [List.nil_append, List.cons_append, List.cons.injEq] at same
      exact absurd (same.1 ▸ List.mem_cons_self) inOther
  | cons character first inductionHypothesis =>
    cases other with
    | nil =>
      simp only [List.nil_append, List.cons_append, List.cons.injEq] at same
      exact absurd (same.1 ▸ List.mem_cons_self) inFirst
    | cons otherCharacter other =>
      simp only [List.cons_append, List.cons.injEq] at same
      obtain ⟨rfl, same⟩ := same
      obtain ⟨rfl, rfl⟩ := inductionHypothesis (List.not_mem_of_not_mem_cons inFirst)
        (List.not_mem_of_not_mem_cons inOther) same
      exact ⟨rfl, rfl⟩

/-- Of a text that begins with a part without slashes between two slashes, what stands in front
of some slash is nothing, or has that part whole. -/
theorem split_behind {part rest front back : List Char} (plain : '/' ∉ part)
    (same : '/' :: (part ++ '/' :: rest) = front ++ '/' :: back) :
    front = [] ∨ ∃ between, front = '/' :: (part ++ between) ∧
      '/' :: rest = between ++ '/' :: back := by
  cases front with
  | nil => exact .inl rfl
  | cons character front =>
    rw [List.cons_append] at same
    obtain ⟨rfl, behind⟩ := List.cons.inj same
    right
    rcases List.append_eq_append_iff.mp behind with ⟨between, rfl, rest⟩ | ⟨inside, rfl, back⟩
    · exact ⟨between, rfl, rest⟩
    · cases inside with
      | nil => exact ⟨[], by simp, by simpa using back.symm⟩
      | cons character inside =>
        obtain ⟨rfl, _⟩ := List.cons.inj back
        simp at plain

/-! ## Kinds -/

namespace Kind

/-- Every kind is served under a plural of its own. -/
theorem plural_injective {kind other : Kind} (same : kind.plural = other.plural) :
    kind = other := by
  revert same
  cases kind <;> cases other <;> decide

/-- No slash stands in a plural, and none is the word in front of a namespace. -/
theorem plural_plain (kind : Kind) :
    '/' ∉ kind.plural.toList ∧ kind.plural.toList ≠ "namespaces".toList := by
  cases kind <;> decide

/-- Where two paths are one, the groups and versions are, and so is what stands behind. -/
theorem root_unique {kind other : Kind} {rest others : List Char}
    (same : kind.root.toList ++ '/' :: rest = other.root.toList ++ '/' :: others) :
    rest = others := by
  have secret : Kind.secret.root.toList = ['/', 'a', 'p', 'i', '/', 'v', '1'] := rfl
  have custom (kind : Kind) (notSecret : kind ≠ .secret) : kind.root.toList =
      ['/', 'a', 'p', 'i', 's'] ++ "/objectstorage.k8s.io/v1alpha1".toList := by
    cases kind <;> first | rfl | exact absurd rfl notSecret
  by_cases isSecret : kind = .secret <;> by_cases otherSecret : other = .secret
  · subst isSecret otherSecret
    simpa using same
  · subst isSecret
    simp [secret, custom other otherSecret] at same
  · subst otherSecret
    simp [secret, custom kind isSecret] at same
  · simpa [custom kind isSecret, custom other otherSecret] using same

/-- The end of a path, from the plural on, determines the kind and the name. -/
theorem end_unique {kind other : Kind} {name otherName : String}
    (same : kind.plural.toList ++ '/' :: name.toList =
      other.plural.toList ++ '/' :: otherName.toList) : kind = other ∧ name = otherName := by
  obtain ⟨samePlural, sameName⟩ := segment_unique kind.plural_plain.1 other.plural_plain.1 same
  exact ⟨plural_injective (String.toList_inj.mp samePlural), String.toList_inj.mp sameName⟩

end Kind

/-! ## Addresses -/

namespace Address

/-- The characters of a path. -/
theorem path_characters (address : Address) :
    address.path.toList = address.kind.root.toList ++ '/' ::
      match address.namespaceName with
      | some namespaceName => "namespaces".toList ++ '/' :: (namespaceName.toList ++ '/' ::
          (address.kind.plural.toList ++ '/' :: address.name.toList))
      | none => address.kind.plural.toList ++ '/' :: address.name.toList := by
  cases named : address.namespaceName <;>
    simp [path, collectionPath, named, String.toList_append]

/-- The namespace of the other object goes on behind this one's with this one's plural, and this
one's name ends with the other's plural and name. What stands between the two plurals is a part
of that namespace and of that name. -/
def Crosses (address other : Address) : Prop :=
  ∃ namespaceName between, address.kind.root = other.kind.root ∧
    address.namespaceName = some namespaceName ∧
    other.namespaceName = some (namespaceName ++ "/" ++ address.kind.plural ++ between) ∧
    "/" ++ address.name = between ++ "/" ++ other.kind.plural ++ "/" ++ other.name

/-- Objects that cross have one path. -/
theorem Crosses.path_eq {address other : Address} (crosses : address.Crosses other) :
    address.path = other.path := by
  obtain ⟨namespaceName, between, root, inside, within, names⟩ := crosses
  obtain ⟨kind, _, name⟩ := address
  obtain ⟨otherKind, _, otherName⟩ := other
  obtain rfl := inside
  obtain rfl := within
  simp only [path, collectionPath, String.append_assoc] at root names ⊢
  rw [names, root]

/-- Objects cross where the characters of their parts do. -/
theorem crosses_of_characters {kind otherKind : Kind} {namespaceName otherNamespace name
    otherName : String} {between : List Char} (root : kind.root = otherKind.root)
    (within : otherNamespace.toList =
      namespaceName.toList ++ '/' :: (kind.plural.toList ++ between))
    (names : '/' :: name.toList =
      between ++ '/' :: (otherKind.plural.toList ++ '/' :: otherName.toList)) :
    Crosses ⟨kind, some namespaceName, name⟩ ⟨otherKind, some otherNamespace, otherName⟩ := by
  refine ⟨namespaceName, String.ofList between, root, rfl, congrArg some ?_, ?_⟩
  · rw [← String.toList_inj]
    simp [within, String.toList_append]
  · rw [← String.toList_inj]
    simp [names, String.toList_append]

/-- Two objects have one path exactly if they are the same or cross.

Where the namespaces are equal, segment by segment the rest is. Where one goes on behind the
other, the other's plural comes next, since no slash stands in it. -/
theorem path_eq_iff (address other : Address) :
    address.path = other.path ↔
      address = other ∨ address.Crosses other ∨ other.Crosses address := by
  constructor
  · intro same
    obtain ⟨kind, namespaceName, name⟩ := address
    obtain ⟨otherKind, otherNamespace, otherName⟩ := other
    have characters := congrArg String.toList same
    rw [path_characters, path_characters] at characters
    have behind := Kind.root_unique characters
    have root : kind.root = otherKind.root := by
      rw [behind] at characters
      exact String.toList_inj.mp (List.append_cancel_right characters)
    have plain := kind.plural_plain
    have otherPlain := otherKind.plural_plain
    have word : '/' ∉ "namespaces".toList := by decide
    cases namespaceName with
    | none =>
      cases otherNamespace with
      | none =>
        obtain ⟨rfl, rfl⟩ := Kind.end_unique behind
        exact .inl rfl
      | some otherNamespace =>
        exact absurd (segment_unique plain.1 word behind).1 plain.2
    | some namespaceName =>
      cases otherNamespace with
      | none => exact absurd (segment_unique word otherPlain.1 behind).1.symm otherPlain.2
      | some otherNamespace =>
        obtain ⟨_, behind⟩ := segment_unique word word behind
        by_cases equal : namespaceName = otherNamespace
        · subst equal
          obtain ⟨rfl, rfl⟩ := Kind.end_unique (List.cons.inj (List.append_cancel_left behind)).2
          exact .inl rfl
        rcases List.append_eq_append_iff.mp behind with
          ⟨front, within, rest⟩ | ⟨front, within, rest⟩
        · rcases split_behind plain.1 rest with rfl | ⟨between, rfl, names⟩
          · exact absurd (String.toList_inj.mp (by simpa using within.symm)) equal
          · exact .inr (.inl (crosses_of_characters root within names))
        · rcases split_behind otherPlain.1 rest with rfl | ⟨between, rfl, names⟩
          · exact absurd (String.toList_inj.mp (by simpa using within)) equal
          · exact .inr (.inr (crosses_of_characters root.symm within names))
  · rintro (rfl | crosses | crosses)
    · rfl
    · exact crosses.path_eq
    · exact crosses.path_eq.symm

/-- Where objects cross, a slash stands in a name and one in a namespace. -/
theorem Crosses.slashes {address other : Address} (crosses : address.Crosses other) :
    '/' ∈ address.name.toList ∧ ∃ within ∈ other.namespaceName, '/' ∈ within.toList := by
  obtain ⟨namespaceName, between, _, _, within, names⟩ := crosses
  refine ⟨?_, _, within, by simp [String.toList_append]⟩
  have slashes := congrArg (fun text => text.toList.count '/') names
  simp only [String.toList_append, List.count_append, show "/".toList.count '/' = 1 from rfl]
    at slashes
  exact List.count_pos_iff.mp (by omega)

end Address

end BucketMount
