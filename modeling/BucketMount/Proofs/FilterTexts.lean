import BucketMount.Proofs.FilterDirectives
import Mathlib.Data.List.Forall2

/-!
# Which filter is in force

The text of a filter consists of directives. It is read as a whole if each of them says
something, and malformed if one of them says nothing. `SpanRules.InForce` tells which filter is
in force under a setting, apart from how it is read: what a text says that is well-formed as a
whole, and what the usual text says otherwise. That is the filter which is asked for
(`SpanRules.inForce_iff`), so there is always one, and only one.
-/

namespace BucketMount.Log

/-! ## Directives of either sort -/

/-- A directive speaks of spans or fields if a bracket opens in front of its first equals
sign. -/
def Bracketed (characters : List Char) : Prop :=
  ∃ front back, characters = front ++ '[' :: back ∧ '=' ∉ front

/-- A bracket in front of the equals sign is looked for. -/
theorem bracketed_iff {characters : List Char} :
    bracketed characters = true ↔ Bracketed characters := by
  rw [bracketed, List.contains_iff_mem]
  constructor
  · intro inside
    obtain ⟨front, between, same, _⟩ := List.eq_append_cons_of_mem inside
    have unsigned : '=' ∉ characters.takeWhile (· != '=') := fun sign => by
      simpa using List.mem_takeWhile_imp sign
    refine ⟨front, between ++ characters.dropWhile (· != '='), ?_, fun sign => unsigned ?_⟩
    · rw [← List.cons_append, ← List.append_assoc, ← same, List.takeWhile_append_dropWhile]
    · rw [same]
      exact List.mem_append_left _ sign
  · rintro ⟨front, back, rfl, unsigned⟩
    rw [List.takeWhile_append_of_pos (differs_of_unsigned unsigned)]
    simp

/-- A directive that does not speak of spans and fields has no bracket in front of the equals
sign. -/
theorem says_unbracketed {characters : List Char} {directive : Directive}
    (said : Says characters directive) : bracketed characters = false := by
  have unsigned {target level : List Char} (sign : '=' ∉ target) (plain : '[' ∉ target) :
      bracketed (target ++ '=' :: level) = false := by
    rw [bracketed, (sides_of_sign sign level).1]
    simpa using plain
  have whole {target : List Char} (plain : '[' ∉ target) : bracketed target = false := by
    rw [bracketed, Bool.eq_false_iff, ne_eq, List.contains_iff_mem]
    exact fun inside => plain ((List.takeWhile_sublist _).subset inside)
  cases said with
  | level _ given => exact whole (gives_plain given).2
  | target _ _ unbracketed => exact whole unbracketed
  | unlimited _ sign unbracketed | limited _ sign unbracketed => exact unsigned sign unbracketed

/-! ## Whole texts -/

/-- A text consists of the directives that stand between its commas, without empty ones. -/
def Consists (text : String) (directives : List (List Char)) : Prop :=
  ∃ parts, text.toList = [','].intercalate parts ∧ (∀ part ∈ parts, ',' ∉ part) ∧
    directives = parts.filter (!·.isEmpty)

/-- No comma stands in what a text is split into. -/
theorem split_plain (characters : List Char) : ∀ part ∈ characters.splitOn ',', ',' ∉ part := by
  induction characters with
  | nil => simp
  | cons first rest inductionHypothesis =>
    rw [List.splitOn_cons_eq_if_modifyHead]
    split
    · exact List.forall_mem_cons.mpr ⟨by simp, inductionHypothesis⟩
    case isFalse comma =>
      cases behind : rest.splitOn ',' with
      | nil => simp
      | cons part parts =>
        rw [behind, List.forall_mem_cons] at inductionHypothesis
        refine List.forall_mem_cons.mpr ⟨?_, inductionHypothesis.2⟩
        rw [List.mem_cons, not_or]
        exact ⟨fun same => comma (by simp [← same]), inductionHypothesis.1⟩

/-- A text is split into what it consists of. -/
theorem consists_iff {text : String} {directives : List (List Char)} :
    Consists text directives ↔ directives = pieces text := by
  constructor
  · rintro ⟨parts, same, plain, rfl⟩
    rw [pieces, same]
    by_cases none : parts = []
    · subst none
      rfl
    · rw [List.splitOn_intercalate ',' plain none]
  · rintro rfl
    exact ⟨text.toList.splitOn ',', (List.intercalate_splitOn ',').symm, split_plain _, rfl⟩

namespace SpanRules

variable {Rule : Type} (rules : SpanRules Rule)

/-- What a directive says: a rule that is read, if it speaks of spans or fields. -/
inductive Says : List Char → Directive ⊕ Rule → Prop where
  | plain {characters : List Char} {directive : Directive}
    (said : Log.Says characters directive) : Says characters (.inl directive)
  | spans {characters : List Char} {rule : Rule} (brackets : Bracketed characters)
    (read : rules.read characters = some rule) : Says characters (.inr rule)

/-- Exactly the directives are read that say something. -/
theorem directive?_iff {characters : List Char} {directive : Directive ⊕ Rule} :
    rules.directive? characters = some directive ↔ rules.Says characters directive := by
  rw [directive?]
  constructor
  · intro read
    split at read
    case isTrue brackets =>
      obtain ⟨rule, found, rfl⟩ := Option.map_eq_some_iff.mp read
      exact .spans (bracketed_iff.mp brackets) found
    case isFalse =>
      obtain ⟨directive, found, rfl⟩ := Option.map_eq_some_iff.mp read
      exact .plain (Log.directive?_iff.mp found)
  · intro said
    cases said with
    | plain said =>
      rw [says_unbracketed said, Log.directive?_iff.mpr said]
      rfl
    | spans brackets read =>
      rw [bracketed_iff.mpr brackets, read]
      rfl

/-- A text is read as a whole if each of its directives says something. -/
def ReadWhole (text : String) (directives : List (Directive ⊕ Rule)) : Prop :=
  ∃ pieces, Consists text pieces ∧ List.Forall₂ rules.Says pieces directives

/-- A text is malformed if one of its directives says nothing. -/
def Malformed (text : String) : Prop :=
  ∃ pieces, Consists text pieces ∧ ∃ piece ∈ pieces, ∀ directive, ¬ rules.Says piece directive

/-- Directives are read one by one, all of them. -/
theorem mapM_directive?_iff {pieces : List (List Char)} {directives : List (Directive ⊕ Rule)} :
    pieces.mapM rules.directive? = some directives ↔
      List.Forall₂ rules.Says pieces directives := by
  induction pieces generalizing directives with
  | nil => simp [eq_comm]
  | cons piece rest inductionHypothesis =>
    simp only [List.mapM_cons, List.forall₂_cons_left_iff, ← inductionHypothesis,
      ← rules.directive?_iff, Option.bind_eq_bind, Option.bind_eq_some_iff, Option.pure_def,
      Option.some.injEq]
    constructor
    · rintro ⟨first, read, later, readLater, rfl⟩
      exact ⟨first, later, read, readLater, rfl⟩
    · rintro ⟨first, later, read, readLater, rfl⟩
      exact ⟨first, read, later, readLater, rfl⟩

/-- Directives are not read as a whole if one of them says nothing. -/
theorem mapM_directive?_none_iff {pieces : List (List Char)} :
    pieces.mapM rules.directive? = none ↔
      ∃ piece ∈ pieces, ∀ directive, ¬ rules.Says piece directive := by
  have unread (piece : List Char) :
      rules.directive? piece = none ↔ ∀ directive, ¬ rules.Says piece directive := by
    simp only [← rules.directive?_iff, Option.eq_none_iff_forall_ne_some, ne_eq]
  induction pieces with
  | nil => simp
  | cons piece rest inductionHypothesis =>
    simp only [List.mem_cons, exists_eq_or_imp, List.mapM_cons]
    refine Iff.trans ?_ (or_congr (unread piece) inductionHypothesis)
    cases rules.directive? piece <;> cases rest.mapM rules.directive? <;> simp

/-- A text is read as a whole if each of its directives is. -/
theorem ofText?_iff {text : String} {directives : List (Directive ⊕ Rule)} :
    rules.ofText? text = some directives ↔ rules.ReadWhole text directives := by
  simp only [ReadWhole, consists_iff, exists_eq_left, ofText?, mapM_directive?_iff]

/-- A malformed text is not read as a whole, and all other texts are. -/
theorem ofText?_none_iff {text : String} :
    rules.ofText? text = none ↔ rules.Malformed text := by
  simp only [Malformed, consists_iff, exists_eq_left, ofText?, mapM_directive?_none_iff]

/-- What is read as a whole is read as the same directives when malformed ones are passed
over. -/
theorem filterMap_directive? {pieces : List (List Char)} {directives : List (Directive ⊕ Rule)}
    (said : List.Forall₂ rules.Says pieces directives) :
    pieces.filterMap rules.directive? = directives := by
  induction said with
  | nil => rfl
  | cons first _ inductionHypothesis =>
    rw [List.filterMap_cons_some (rules.directive?_iff.mpr first), inductionHypothesis]

/-- The usual text is read as the usual filter. -/
theorem ofText?_usual : rules.ofText? Filter.usualText = some (Filter.usual.map .inl) := by
  rfl

/-- The usual text is read as the usual filter also if malformed directives are passed over. -/
theorem ofTextLossy_usual :
    rules.ofTextLossy Filter.usualText = Filter.usual.map .inl := by
  have said := rules.mapM_directive?_iff.mp rules.ofText?_usual
  rw [ofTextLossy, rules.filterMap_directive? said]
  rfl

/-- The filter in force under a setting: what the text says if it is well-formed as a whole, and
what the usual text says if there is no text or a malformed one. -/
inductive InForce : Option String → List (Directive ⊕ Rule) → Prop where
  | whole {text : String} {directives : List (Directive ⊕ Rule)}
    (read : rules.ReadWhole text directives) : InForce (some text) directives
  | unset {directives : List (Directive ⊕ Rule)}
    (usual : rules.ReadWhole Filter.usualText directives) : InForce none directives
  | malformed {text : String} {directives : List (Directive ⊕ Rule)}
    (malformed : rules.Malformed text)
    (usual : rules.ReadWhole Filter.usualText directives) : InForce (some text) directives

/-- The filter in force is the one that the setting asks for. -/
theorem inForce_iff {setting : Option String} {directives : List (Directive ⊕ Rule)} :
    rules.InForce setting directives ↔ directives = rules.ofSetting setting := by
  have usual (directives : List (Directive ⊕ Rule)) :
      rules.ReadWhole Filter.usualText directives ↔ directives = Filter.usual.map .inl := by
    rw [← rules.ofText?_iff, rules.ofText?_usual, Option.some.injEq, eq_comm]
  rw [ofSetting, rules.ofTextLossy_usual]
  constructor
  · intro inForce
    cases inForce with
    | whole read => simp [rules.ofText?_iff.mpr read]
    | unset read => simpa using (usual _).mp read
    | malformed malformed read =>
      simpa [rules.ofText?_none_iff.mpr malformed] using (usual _).mp read
  · rintro rfl
    cases setting with
    | none => exact .unset ((usual _).mpr rfl)
    | some text =>
      cases read : rules.ofText? text with
      | none => exact .malformed (rules.ofText?_none_iff.mp read) ((usual _).mpr (by simp [read]))
      | some directives => exact .whole (rules.ofText?_iff.mp (by simp [read]))

end SpanRules

end BucketMount.Log
