import BucketMount.Proofs.EncodedText

/-!
# Reading an indented text

An indented text differs from a compact one in its gaps alone: a line break and blanks in
front of every item and member and in front of the closing bracket, and a blank behind a
colon. A reader passes over them, so a legible tree is read from its indented text as it was
written (`reads_indented`).

Whoever collects a document of any shape gets its canonical form. A tree that is canonical
already is its own, so it is what is collected from its indented text
(`collected_indented`), also with a line break behind.
-/

namespace BucketMount.Json

/-! ## Gaps -/

/-- A line break and what indents the next line are blanks. -/
theorem blanks_newLine (indent : Nat) : Blanks (newLine indent) := by
  intro character member
  rcases List.mem_cons.mp member with rfl | inside
  · rfl
  · rw [List.eq_of_mem_replicate inside]
    rfl

/-- Items stand in a row, each on a line of its own. -/
theorem indentedItems_row (indent : Nat) (items : List Json) :
    indentedItems indent items = inRow (newLine indent) (items.map (indented indent)) := by
  induction items with
  | nil => rfl
  | cons item items inductionHypothesis =>
    cases items with
    | nil => simp [indentedItems, inRow, behindFirst]
    | cons next items =>
      simp only [indentedItems, inductionHypothesis, List.map_cons, inRow, behindFirst_cons,
        List.append_assoc]

/-- A member as it stands on a line. -/
def indentedMember (indent : Nat) (member : String × Json) : List Char :=
  writtenString member.1 ++ ':' :: ([' '] ++ indented indent member.2)

/-- Members stand in a row, each on a line of its own. -/
theorem indentedMembers_row (indent : Nat) (members : List (String × Json)) :
    indentedMembers indent members =
      inRow (newLine indent) (members.map (indentedMember indent)) := by
  induction members with
  | nil => rfl
  | cons member members inductionHypothesis =>
    cases members with
    | nil => simp [indentedMembers, inRow, behindFirst, indentedMember]
    | cons next members =>
      rw [indentedMembers, inductionHypothesis]
      · simp [inRow, behindFirst_cons, indentedMember]
      · simp

/-- An indented list is read as it was written if its items are. What closes it stands on a
line of its own, unless the list is empty. -/
theorem reads_indentedArray {depth indent : Nat} {items : List Json} (shallow : depth < deepest)
    (reads : ∀ item ∈ items, ReadsAs (depth + 1) (indented (indent + 2) item) item) :
    ReadsAs depth (indented indent (.array items none)) (.array items none) := by
  have texts : List.Forall₂ (ReadsAs (depth + 1)) (items.map (indented (indent + 2))) items :=
    List.forall₂_map_left_iff.mpr (List.forall₂_same.mpr reads)
  have row (close : List Char) (blanks : Blanks close) :=
    reads_list shallow (blanks_newLine (indent + 2)) blanks texts
  cases items with
  | nil => simpa [indented, inRow] using row [] blanks_nil
  | cons item items =>
    rw [indented, indentedItems_row, List.append_assoc]
    exact row (newLine indent) (blanks_newLine indent)

/-- An indented object is read as it was written if the values of its members are. -/
theorem reads_indentedObject {depth indent : Nat} {members : List (String × Json)}
    (shallow : depth < deepest)
    (reads : ∀ member ∈ members, ReadsAs (depth + 1) (indented (indent + 2) member.2) member.2) :
    ReadsAs depth (indented indent (.object members none)) (.object members none) := by
  have texts : List.Forall₂ (ReadsAsMember (depth + 1))
      (members.map (indentedMember (indent + 2))) members := by
    refine List.forall₂_map_left_iff.mpr (List.forall₂_same.mpr fun member listed => ?_)
    exact ⟨[' '], _, by simp [Blanks, blank], rfl, reads member listed⟩
  have row (close : List Char) (blanks : Blanks close) :=
    reads_members shallow (blanks_newLine (indent + 2)) blanks texts
  cases members with
  | nil => simpa [indented, inRow] using row [] blanks_nil
  | cons member members =>
    rw [indented, indentedMembers_row, List.append_assoc]
    exact row (newLine indent) (blanks_newLine indent)

/-! ## Whole trees -/

/-- A legible tree is read from its indented text as it was written, however deep the text is
indented. -/
theorem reads_indented (depth indent : Nat) (tree : Json) (legible : Legible depth tree) :
    ReadsAs depth (indented indent tree) tree := by
  induction tree using tree_induction generalizing depth indent with
  | null => exact reads_null depth
  | boolean value => exact reads_boolean depth value
  | number value => exact reads_number depth legible
  | string text => exact reads_string depth text
  | array items tail inductionHypothesis =>
    obtain ⟨rfl, shallow, each⟩ := legible
    refine reads_indentedArray shallow fun item listed => ?_
    exact inductionHypothesis item listed _ _ ((legibleItems_iff items).mp each item listed)
  | object members tail inductionHypothesis =>
    obtain ⟨rfl, shallow, each⟩ := legible
    refine reads_indentedObject shallow fun member listed => ?_
    exact inductionHypothesis member listed _ _
      ((legibleMembers_iff members).mp each member listed)
  | fault cause => exact legible.elim

/-! ## Collecting a document -/

/-- Items are canonical one by one. -/
theorem areCanonical_iff (items : List Json) :
    areCanonical items = true ↔ ∀ item ∈ items, item.isCanonical = true := by
  induction items with
  | nil => simp [areCanonical]
  | cons item rest inductionHypothesis => simp [areCanonical, inductionHypothesis]

/-- Members are canonical one by one. -/
theorem haveCanonical_iff (members : List (String × Json)) :
    haveCanonical members = true ↔ ∀ member ∈ members, member.2.isCanonical = true := by
  induction members with
  | nil => simp [haveCanonical]
  | cons member rest inductionHypothesis => simp [haveCanonical, inductionHypothesis]

/-- An object is canonical if its names ascend and every member has a canonical value. -/
theorem object_canonical {members : List (String × Json)}
    (ascends : (members.map Prod.fst).Pairwise (· < ·))
    (each : ∀ member ∈ members, member.2.isCanonical = true) :
    (Json.object members none).isCanonical = true := by
  simp only [isCanonical, Option.isNone_none, Bool.true_and, Bool.and_eq_true, decide_eq_true_eq]
  exact ⟨(haveCanonical_iff members).mpr each, ascends⟩

/-- Items that are their own canonical forms stay. -/
theorem canonicalItems_self {items : List Json} (each : ∀ item ∈ items, item.canonical = .ok item) :
    canonicalItems items = .ok items := by
  induction items with
  | nil => rfl
  | cons item rest inductionHypothesis =>
    obtain ⟨first, others⟩ := List.forall_mem_cons.mp each
    simp [canonicalItems, first, inductionHypothesis others, bind, Except.bind, pure, Except.pure]

/-- Members whose values are their own canonical forms stay, in their order. -/
theorem canonicalMembers_self {members : List (String × Json)}
    (each : ∀ member ∈ members, member.2.canonical = .ok member.2) :
    canonicalMembers members = .ok members := by
  induction members with
  | nil => rfl
  | cons member rest inductionHypothesis =>
    obtain ⟨first, others⟩ := List.forall_mem_cons.mp each
    simp [canonicalMembers, first, inductionHypothesis others, bind, Except.bind, pure,
      Except.pure]

/-- A canonical tree is its own canonical form. -/
theorem canonical_self {tree : Json} (sorted : tree.isCanonical = true) :
    tree.canonical = .ok tree := by
  induction tree using tree_induction with
  | null => rfl
  | boolean value => rfl
  | number value => rfl
  | string text => rfl
  | array items tail inductionHypothesis =>
    simp only [isCanonical, Bool.and_eq_true, Option.isNone_iff_eq_none] at sorted
    obtain ⟨rfl, each⟩ := sorted
    have stay := canonicalItems_self fun item listed =>
      inductionHypothesis item listed ((areCanonical_iff items).mp each item listed)
    simp [canonical, stay, close, bind, Except.bind, pure, Except.pure]
  | object members tail inductionHypothesis =>
    simp only [isCanonical, Bool.and_eq_true, Option.isNone_iff_eq_none, decide_eq_true_eq]
      at sorted
    obtain ⟨⟨rfl, each⟩, ascends⟩ := sorted
    have stay := canonicalMembers_self fun member listed =>
      inductionHypothesis member listed ((haveCanonical_iff members).mp each member listed)
    simp [canonical, stay, Dictionary.ofList_ascending ascends, close, bind, Except.bind, pure,
      Except.pure]
  | fault cause => simp [isCanonical] at sorted

/-- What is collected from a legible tree's compact text is its canonical form. -/
theorem collected_text {tree : Json} (legible : Legible 0 tree) :
    Format.unstructured.ofText tree.text = tree.canonical := by
  have read := (reads_legible 0 tree legible).read_text
  cases sorted : tree.canonical <;>
    simp [Format.ofText, read, Format.unstructured, sorted, finish, skipBlanks, bind, Except.bind,
      pure, Except.pure]

/-- A tree that is legible and canonical is what is collected from its indented text with a
line break behind. -/
theorem collected_indented {tree : Json} (legible : Legible 0 tree)
    (sorted : tree.isCanonical = true) :
    Format.unstructured.ofText (tree.indentedText ++ "\n") = .ok tree := by
  have characters : (tree.indentedText ++ "\n").toList = tree.indented 0 ++ ['\n'] := by
    simp [indentedText, String.toList_append]
  have ends : Ends ['\n'] := by
    intro character first
    obtain rfl : '\n' = character := Option.some.inj first
    decide
  have enough : 4 * (tree.indented 0).length ≤ enoughFuel (tree.indented 0 ++ ['\n']) := by
    simp only [enoughFuel, List.length_append]
    omega
  have read := (reads_indented 0 0 tree legible).read _ _ enough ends
  simp [Format.ofText, Json.read, characters, read, Format.unstructured,
    canonical_self sorted, finish, skipBlanks, blank, bind, Except.bind, pure, Except.pure]

end BucketMount.Json
