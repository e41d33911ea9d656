import BucketMount.Format.Document
import Mathlib.Data.List.Forall2

/-!
# Reading a written text

A tree is written without blanks, so a reader meets its characters one after the
other and decides at each first character what follows. `ReadsAs` says that it meets
a given tree at the end of the text whatever stands behind, as long as that does not
go on with a number. The fuel it needs is four for each character, as much as a whole
document is given. An item of a list may be read as another tree than was written, and
so may a member of an object; the list or the object is then read with this tree in its
place.

`reads_legible` says that every legible tree is read as it was written: nothing in it
is at fault, its lists and objects are not nested too deeply, and its numbers are
legible themselves. Whole numbers of 64 bits are (`whole_legible`); of binary numbers
this is not told, since their texts are not read exactly.
-/

namespace BucketMount.Json

/-! ## Strings -/

/-- A control character is written as two zeros and two digits that spell its code. -/
theorem control_digits (character : Char) (control : character.toNat < 0x20) :
    ∃ tens units high low, fourDigits character.toNat = ['0', '0', tens, units] ∧
      tens.utf8Size = 1 ∧ units.utf8Size = 1 ∧ Text.hexValue? tens = some high ∧
      Text.hexValue? units = some low ∧ high * 16 + low = character.toNat := by
  have all : ∀ code : Fin 32, ∃ high : Fin 2, ∃ low : Fin 16,
      fourDigits code = ['0', '0', Nat.digitChar high, Nat.digitChar low] ∧
      (Nat.digitChar high).utf8Size = 1 ∧ (Nat.digitChar low).utf8Size = 1 ∧
      Text.hexValue? (Nat.digitChar high) = some high.val ∧
      Text.hexValue? (Nat.digitChar low) = some low.val ∧ high.val * 16 + low.val = code.val := by
    decide
  obtain ⟨high, low, digits⟩ := all ⟨character.toNat, control⟩
  exact ⟨_, _, _, _, digits⟩

/-- The four digits of a control character are read as this character. -/
theorem readString_control (character : Char) (control : character.toNat < 0x20)
    (rest : List Char) :
    readString .plain ('\\' :: 'u' :: (fourDigits character.toNat ++ rest)) =
      (readString .plain rest).map fun (text, rest) => (character :: text, rest) := by
  obtain ⟨tens, units, high, low, digits, narrowTens, narrowUnits, tensValue, unitsValue,
    spelled⟩ := control_digits character control
  have zero : Text.hexValue? '0' = some 0 := rfl
  have narrowZero : '0'.utf8Size = 1 := rfl
  have fits : hasBytes 4 ('0' :: '0' :: tens :: units :: rest) = true := by
    simp [hasBytes, narrowTens, narrowUnits, narrowZero]
  have code : unit (high * 16 + low) none = .ok (.inl character) := by
    rw [spelled, unit, if_neg (by omega), if_neg (by omega), Char.ofNat_toNat]
  rw [digits]
  simp [readString, fits, zero, tensValue, unitsValue, code]

/-- A written character is read as itself, and the rest as before. The cases are those
of the writer: seven characters have an escape of their own. -/
theorem readString_character (character : Char) (rest : List Char) :
    readString .plain (writtenCharacter character ++ rest) =
      (readString .plain rest).map fun (text, rest) => (character :: text, rest) := by
  unfold writtenCharacter
  split
  · subst_vars; simp [readString, simpleEscape?]
  split
  · subst_vars; simp [readString, simpleEscape?]
  split
  · subst_vars; simp [readString, simpleEscape?]
  split
  · subst_vars; simp [readString, simpleEscape?]
  split
  · subst_vars; simp [readString, simpleEscape?]
  split
  · subst_vars; simp [readString, simpleEscape?]
  split
  · subst_vars; simp [readString, simpleEscape?]
  split
  · rename_i control
    exact readString_control character control rest
  · rename_i noQuote noBackslash _ _ _ _ _ noControl
    simp [readString, noQuote, noBackslash, noControl]

/-- A written text is read up to its quote. -/
theorem readString_written (text rest : List Char) :
    readString .plain (text.flatMap writtenCharacter ++ '"' :: rest) = .ok (text, rest) := by
  induction text with
  | nil => simp [readString]
  | cons character text inductionHypothesis =>
    rw [List.flatMap_cons, List.append_assoc, readString_character, inductionHypothesis]
    rfl

/-! ## Numbers -/

/-- Nothing follows that would go on with a number. -/
def Ends (rest : List Char) : Prop :=
  ∀ character ∈ rest.head?,
    character.isDigit = false ∧ character ≠ '.' ∧ character ≠ 'e' ∧ character ≠ 'E'

/-- A number that is read from its text as it was written. -/
def Number.Legible (value : Number) : Prop :=
  ∀ rest, Ends rest → readNumber (writtenNumber value ++ rest) = .ok (value, rest)

/-- Digits are taken together up to where they end. -/
theorem digits_append {digits rest : List Char} (all : ∀ digit ∈ digits, digit.isDigit = true)
    (ends : Ends rest) :
    (digits ++ rest).takeWhile Char.isDigit = digits ∧ skipDigits (digits ++ rest) = rest := by
  have stops : ∀ character ∈ rest.head?, character.isDigit = false :=
    fun character first => (ends character first).1
  constructor
  · rw [List.takeWhile_append_of_pos all]
    cases rest with
    | nil => simp
    | cons character rest => simp [stops character (by simp)]
  · rw [skipDigits, List.dropWhile_append_of_pos all]
    cases rest with
    | nil => simp
    | cons character rest => simp [stops character (by simp)]

/-- More digits never make a number smaller. -/
theorem ofDigitChars_ge (digits : List Char) (start : Nat) :
    start ≤ Nat.ofDigitChars 10 digits start := by
  induction digits generalizing start with
  | nil => simp
  | cons digit rest inductionHypothesis =>
    rw [Nat.ofDigitChars_cons]
    exact Nat.le_trans (by omega) (inductionHypothesis _)

/-- Digits are all accumulated if their number fits. -/
theorem accumulate_fits (digits : List Char) (start : Nat)
    (fits : Nat.ofDigitChars 10 digits start ≤ significandLimit) :
    accumulate start digits = (Nat.ofDigitChars 10 digits start, digits.length) := by
  induction digits generalizing start with
  | nil => simp [accumulate]
  | cons digit rest inductionHypothesis =>
    have next : 10 * start + (digit.toNat - '0'.toNat) = start * 10 + (digit.toNat - 48) := by
      rw [Nat.mul_comm]
      rfl
    rw [Nat.ofDigitChars_cons, next] at fits ⊢
    have below : start * 10 + (digit.toNat - 48) ≤ significandLimit :=
      Nat.le_trans (ofDigitChars_ge rest _) fits
    simp [accumulate, Nat.not_lt.mpr below, inductionHypothesis _ fits]

/-- A decimal numeral begins with a digit, and with a zero only if it is the numeral
of zero. -/
theorem toDigits_head (number : Nat) : ∃ first rest, Nat.toDigits 10 number = first :: rest ∧
    first.isDigit = true ∧ (first = '0' → rest = []) := by
  induction number using Nat.strongRecOn with
  | _ number inductionHypothesis =>
    by_cases single : number < 10
    · rw [Nat.toDigits_of_lt_base single]
      exact ⟨_, _, rfl, by simp [Nat.isDigit_digitChar, single], by simp⟩
    · rw [Nat.toDigits_of_base_le (by decide) (by omega)]
      obtain ⟨first, rest, digits, isDigit, zero⟩ := inductionHypothesis (number / 10) (by omega)
      rw [digits]
      refine ⟨first, _, rfl, isDigit, fun same => ?_⟩
      have spelled := Nat.ofDigitChars_ten_toDigits (n := number / 10)
      rw [digits, same, zero same] at spelled
      simp [Nat.ofDigitChars_cons] at spelled
      omega

/-- A numeral behind an optional sign is read as the whole number it spells. A leading
zero stands alone, so what follows it is what follows the number. -/
theorem readNumber_digits (negative : Bool) (number : Nat) (rest : List Char) (ends : Ends rest)
    (fits : number ≤ significandLimit) :
    readNumber ((if negative then ['-'] else []) ++ (Nat.toDigits 10 number ++ rest)) =
      (wholeNumber negative number).map fun value => (value, rest) := by
  obtain ⟨first, others, digits, isDigit, zero⟩ := toDigits_head number
  have all : ∀ digit ∈ first :: others, digit.isDigit = true := by
    intro digit member
    exact Nat.isDigit_of_mem_toDigits (by decide) (by decide) (digits ▸ member)
  obtain ⟨taken, left⟩ := digits_append all ends
  have spelled : Nat.ofDigitChars 10 (first :: others) 0 = number :=
    digits ▸ Nat.ofDigitChars_ten_toDigits
  have gathered : accumulate 0 (first :: others) = (number, (first :: others).length) := by
    rw [accumulate_fits _ _ (spelled.symm ▸ fits), spelled]
  have unsigned : first ≠ '-' := by
    rintro rfl
    simp at isDigit
  rw [digits]
  rw [List.cons_append] at taken left
  cases rest with
  | nil =>
    cases negative <;>
      simp only [readNumber, List.nil_append, List.cons_append, if_true, if_false,
        Bool.false_eq_true, List.cons.injEq, false_and, unsigned, false_implies, implies_true,
        isDigit, Bool.not_true, taken, left, gathered, Nat.sub_self, Int.ofNat_zero] <;>
      rw [if_neg] <;>
      by_cases same : first = '0' <;> simp [same, zero]
  | cons character rest =>
    obtain ⟨noDigit, noPoint, noSmall, noLarge⟩ := ends character (by simp)
    cases negative <;>
      simp only [readNumber, List.nil_append, List.cons_append, if_true, if_false,
        Bool.false_eq_true, List.cons.injEq, false_and, unsigned, false_implies, implies_true,
        isDigit, Bool.not_true, taken, left, gathered, Nat.sub_self, Int.ofNat_zero, noPoint,
        noSmall, noLarge] <;>
      rw [if_neg] <;>
      by_cases same : first = '0' <;> simp [same, zero, noDigit]

/-- A whole number of 64 bits is read as it was written. -/
theorem whole_legible (value : Int) (low : -9223372036854775808 ≤ value)
    (high : value ≤ 18446744073709551615) : (Number.whole value).Legible := by
  intro rest ends
  rw [writtenNumber, Int.toString_eq_repr, Int.repr_eq_if]
  by_cases natural : 0 ≤ value
  · have read := readNumber_digits false value.toNat rest ends (by simp [significandLimit]; omega)
    have exact : wholeNumber false value.toNat = .ok (.whole value) := by
      rw [wholeNumber, if_pos (by simp), Int.toNat_of_nonneg natural]
    rw [exact] at read
    rw [if_pos natural, Nat.toList_repr]
    exact read
  · have read := readNumber_digits true (-value).toNat rest ends (by simp [significandLimit]; omega)
    have exact : wholeNumber true (-value).toNat = .ok (.whole value) := by
      rw [wholeNumber, if_neg (by simp), if_neg (by omega)]
      congr 2
      omega
    rw [exact] at read
    rw [if_neg natural, String.toList_append, Nat.toList_repr]
    exact read

/-- A legible number begins with a sign or a digit. -/
theorem legible_head {value : Number} (legible : value.Legible) :
    ∃ first others, writtenNumber value = first :: others ∧
      (first = '-' ∨ first.isDigit = true) := by
  have read := legible [] (by simp [Ends])
  rw [List.append_nil] at read
  cases text : writtenNumber value with
  | nil => simp [text, readNumber] at read
  | cons first others =>
    refine ⟨first, others, rfl, ?_⟩
    by_cases minus : first = '-'
    · exact .inl minus
    · by_cases digit : first.isDigit = true
      · exact .inr digit
      · simp [text, readNumber, minus, digit] at read

/-- No value but a number begins as a number does, and neither does the end of a list. -/
theorem number_head {first : Char} (head : first = '-' ∨ first.isDigit = true) :
    blank first = false ∧ first ∉ ['"', '[', '\x7b', 'n', 't', 'f', ']'] := by
  rcases head with rfl | digit
  · decide
  · constructor
    · cases isBlank : blank first with
      | false => rfl
      | true =>
        simp only [blank, Bool.or_eq_true, beq_iff_eq] at isBlank
        rcases isBlank with ((rfl | rfl) | rfl) | rfl <;> simp at digit
    · intro member
      simp only [List.mem_cons, List.not_mem_nil, or_false] at member
      rcases member with rfl | rfl | rfl | rfl | rfl | rfl | rfl <;> simp at digit

/-! ## Values -/

/-- A text whose first character begins a value: it is no blank and closes no list. -/
def Opens (characters : List Char) : Prop :=
  ∃ first others, characters = first :: others ∧ blank first = false ∧ first ≠ ']'

/-- A text is read as a tree inside so many lists and objects, whatever follows. -/
structure ReadsAs (depth : Nat) (characters : List Char) (tree : Json) : Prop where
  opens : Opens characters
  read (fuel : Nat) (rest : List Char) : 4 * characters.length ≤ fuel → Ends rest →
    readValue fuel depth (characters ++ rest) = (tree, rest)

/-- The end of a text goes on with nothing. -/
theorem ends_nil : Ends [] := by simp [Ends]

/-- The marks between values go on with nothing. -/
theorem ends_mark {mark : Char} (isMark : mark ∈ [',', ']', '\x7d']) (rest : List Char) :
    Ends (mark :: rest) := by
  simp only [List.mem_cons, List.not_mem_nil, or_false] at isMark
  rcases isMark with rfl | rfl | rfl <;> simp [Ends]

/-- A text that begins with no blank is not shortened. -/
theorem skipBlanks_cons {character : Char} (visible : blank character = false) (rest : List Char) :
    skipBlanks (character :: rest) = character :: rest := by
  simp [skipBlanks, visible]

/-- A text that is not empty leaves fuel for its first character. -/
theorem readsAs_of_step {depth : Nat} {first : Char} {others : List Char} {tree : Json}
    (visible : blank first = false) (noBracket : first ≠ ']')
    (step : ∀ fuel rest, 4 * others.length + 3 ≤ fuel → Ends rest →
      readValue (fuel + 1) depth (first :: (others ++ rest)) = (tree, rest)) :
    ReadsAs depth (first :: others) tree := by
  refine ⟨⟨first, others, rfl, visible, noBracket⟩, fun fuel rest enough ends => ?_⟩
  simp only [List.length_cons] at enough
  obtain ⟨less, rfl⟩ : ∃ less, fuel = less + 1 := ⟨fuel - 1, by omega⟩
  exact step less rest (by omega) ends

/-- A written string is read as it was written. -/
theorem reads_string (depth : Nat) (text : String) :
    ReadsAs depth (writtenString text) (.string text) := by
  refine readsAs_of_step rfl (by decide) fun fuel rest _ _ => ?_
  simp [readValue, skipBlanks_cons (show blank '"' = false from rfl), stringValue,
    readString_written]

/-- Null is read as it was written. -/
theorem reads_null (depth : Nat) : ReadsAs depth (written .null) .null := by
  refine readsAs_of_step rfl (by decide) fun fuel rest _ _ => ?_
  simp [readValue, skipBlanks_cons (show blank 'n' = false from rfl), wordValue]

/-- A flag is read as it was written. -/
theorem reads_boolean (depth : Nat) (value : Bool) :
    ReadsAs depth (written (.boolean value)) (.boolean value) := by
  cases value with
  | false =>
    refine readsAs_of_step rfl (by decide) fun fuel rest _ _ => ?_
    simp [readValue, skipBlanks_cons (show blank 'f' = false from rfl), wordValue]
  | true =>
    refine readsAs_of_step rfl (by decide) fun fuel rest _ _ => ?_
    simp [readValue, skipBlanks_cons (show blank 't' = false from rfl), wordValue]

/-- A legible number is read as it was written. -/
theorem reads_number (depth : Nat) {value : Number} (legible : value.Legible) :
    ReadsAs depth (writtenNumber value) (.number value) := by
  obtain ⟨first, others, text, head⟩ := legible_head legible
  obtain ⟨visible, other⟩ := number_head head
  simp only [List.mem_cons, List.not_mem_nil, or_false, not_or] at other
  rw [text]
  refine readsAs_of_step visible other.2.2.2.2.2.2 fun fuel rest _ ends => ?_
  have read := legible rest ends
  rw [text, List.cons_append] at read
  simp [readValue, skipBlanks_cons visible, other, head, numberValue, read]

/-! ## Rows of texts

The items of a list and the members of an object stand in a row between brackets. Each may
stand behind a gap of blanks, and so may the closing bracket. -/

/-- A text of blanks, which a reader passes over. -/
def Blanks (characters : List Char) : Prop :=
  ∀ character ∈ characters, blank character = true

/-- No characters are blanks. -/
theorem blanks_nil : Blanks [] := by simp [Blanks]

/-- Blanks in front are passed over. -/
theorem Blanks.skipped {blanks : List Char} (all : Blanks blanks) (rest : List Char) :
    skipBlanks (blanks ++ rest) = skipBlanks rest :=
  List.dropWhile_append_of_pos all

/-- Blanks do not go on with a number. -/
theorem Blanks.ends {blanks rest : List Char} (all : Blanks blanks) (ends : Ends rest) :
    Ends (blanks ++ rest) := by
  cases blanks with
  | nil => exact ends
  | cons character blanks =>
    intro first same
    obtain rfl : character = first := Option.some.inj same
    have visible := all character List.mem_cons_self
    simp only [blank, Bool.or_eq_true, beq_iff_eq] at visible
    rcases visible with ((rfl | rfl) | rfl) | rfl <;> decide

/-- A value is read behind blanks as it is without them. -/
theorem Blanks.readValue {blanks : List Char} (all : Blanks blanks) (fuel depth : Nat)
    (rest : List Char) :
    readValue fuel depth (blanks ++ rest) = Json.readValue fuel depth rest := by
  cases fuel with
  | zero => simp only [Json.readValue]
  | succ fuel => simp only [Json.readValue, all.skipped]

/-- Texts behind a first one, each with a comma and a gap in front. -/
def behindFirst (gap : List Char) (texts : List (List Char)) : List Char :=
  texts.flatMap fun text => ',' :: (gap ++ text)

/-- The first of several texts behind another. -/
theorem behindFirst_cons (gap text : List Char) (texts : List (List Char)) :
    behindFirst gap (text :: texts) = ',' :: (gap ++ (text ++ behindFirst gap texts)) := by
  simp [behindFirst]

/-- Texts in a row, each behind a gap and all but the first behind a comma. -/
def inRow (gap : List Char) : List (List Char) → List Char
  | [] => []
  | text :: texts => gap ++ (text ++ behindFirst gap texts)

section Rows

variable {depth : Nat} {gap close : List Char} {texts : List (List Char)}

/-- A text in a row is followed by a comma or, behind blanks, by the bracket. -/
theorem ends_row (blankClose : Blanks close) (mark : Char) (isMark : mark ∈ [']', '\x7d'])
    (texts : List (List Char)) (rest : List Char) :
    Ends (behindFirst gap texts ++ (close ++ mark :: rest)) := by
  cases texts with
  | nil => exact blankClose.ends (ends_mark (List.mem_cons_of_mem _ isMark) rest)
  | cons text texts =>
    rw [behindFirst_cons]
    exact ends_mark (by simp) _

/-! ### Lists -/

/-- The items behind a first one are read up to the bracket. -/
theorem readItems_behind (blankGap : Blanks gap) (blankClose : Blanks close) {trees : List Json}
    (reads : List.Forall₂ (ReadsAs depth) texts trees) (fuel : Nat) (rest : List Char)
    (enough : 4 * (behindFirst gap texts).length + 1 ≤ fuel) :
    readItems fuel depth false (behindFirst gap texts ++ (close ++ ']' :: rest)) =
      (trees, none, rest) := by
  induction reads generalizing fuel with
  | nil =>
    obtain ⟨less, rfl⟩ : ∃ less, fuel = less + 1 := ⟨fuel - 1, by omega⟩
    simp [behindFirst, readItems, blankClose.skipped,
      skipBlanks_cons (show blank ']' = false from rfl)]
  | @cons text tree texts trees read others inductionHypothesis =>
    obtain ⟨first, characters, opening, visible, noBracket⟩ := read.opens
    simp only [behindFirst_cons, List.length_append, List.length_cons] at enough
    obtain ⟨less, rfl⟩ : ∃ less, fuel = less + 2 := ⟨fuel - 2, by omega⟩
    have ends : Ends (behindFirst gap texts ++ (close ++ ']' :: rest)) :=
      ends_row blankClose ']' (by simp) texts rest
    have met := read.read less _ (by omega) ends
    have later := inductionHypothesis less (by omega)
    rw [opening, List.cons_append] at met
    simp [behindFirst_cons, readItems, readItem, skipBlanks_cons (show blank ',' = false from rfl),
      blankGap.skipped, opening, skipBlanks_cons visible, noBracket, met, later]

/-- A list is read as the list of what its items' texts are read as. -/
theorem reads_list (shallow : depth < deepest) (blankGap : Blanks gap) (blankClose : Blanks close)
    {trees : List Json} (reads : List.Forall₂ (ReadsAs (depth + 1)) texts trees) :
    ReadsAs depth ('[' :: (inRow gap texts ++ (close ++ [']']))) (.array trees none) := by
  refine readsAs_of_step rfl (by decide) fun fuel rest enough ends => ?_
  have within : ¬ deepest ≤ depth := Nat.not_le.mpr shallow
  cases reads with
  | nil =>
    obtain ⟨less, rfl⟩ : ∃ less, fuel = less + 1 := ⟨fuel - 1, by omega⟩
    simp [inRow, readValue, readItems, skipBlanks_cons (show blank '[' = false from rfl),
      blankClose.skipped, skipBlanks_cons (show blank ']' = false from rfl), nested, within]
  | @cons text tree texts trees read others =>
    obtain ⟨first, characters, opening, visible, noBracket⟩ := read.opens
    simp only [inRow, List.length_append, List.length_cons, List.length_nil] at enough
    obtain ⟨less, rfl⟩ : ∃ less, fuel = less + 2 := ⟨fuel - 2, by omega⟩
    have ends : Ends (behindFirst gap texts ++ (close ++ ']' :: rest)) :=
      ends_row blankClose ']' (by simp) texts rest
    have met := read.read less _ (by omega) ends
    have later := readItems_behind blankGap blankClose others less rest (by omega)
    rw [opening, List.cons_append] at met
    simp [inRow, readValue, readItems, readItem, skipBlanks_cons (show blank '[' = false from rfl),
      blankGap.skipped, opening, skipBlanks_cons visible, noBracket, met, later, nested, within]

/-! ### Objects -/

/-- A text is read as a member: it is the member's name, a colon, and behind blanks a text
that is read as the member's value. -/
def ReadsAsMember (depth : Nat) (text : List Char) (member : String × Json) : Prop :=
  ∃ blanks value, Blanks blanks ∧ text = writtenString member.1 ++ ':' :: (blanks ++ value) ∧
    ReadsAs depth value member.2

/-- A member is read from behind its first quote, and then those behind it. -/
theorem readMember_text {text : List Char} {member : String × Json}
    (read : ReadsAsMember depth text member) (fuel : Nat) (rest : List Char) (ends : Ends rest)
    (enough : 4 * text.length ≤ fuel + 3) :
    ∃ others, text = '"' :: others ∧
      readMember (fuel + 2) depth (others ++ rest) =
        (let (members, tail, rest) := readMembers fuel depth false rest
        (member :: members, tail, rest)) := by
  obtain ⟨key, tree⟩ := member
  obtain ⟨blanks, value, blank, rfl, valueRead⟩ := read
  refine ⟨_, rfl, ?_⟩
  simp only [writtenString, List.cons_append, List.length_cons, List.length_append] at enough
  have met := valueRead.read fuel rest (by omega) ends
  simp [readMember, readString_written, readAfterKey,
    skipBlanks_cons (show Json.blank ':' = false from rfl), blank.readValue, met,
    String.ofList_toList]

/-- The members behind a first one are read up to the brace. -/
theorem readMembers_behind (blankGap : Blanks gap) (blankClose : Blanks close)
    {members : List (String × Json)} (reads : List.Forall₂ (ReadsAsMember depth) texts members)
    (fuel : Nat) (rest : List Char) (enough : 4 * (behindFirst gap texts).length + 1 ≤ fuel) :
    readMembers fuel depth false (behindFirst gap texts ++ (close ++ '\x7d' :: rest)) =
      (members, none, rest) := by
  induction reads generalizing fuel with
  | nil =>
    obtain ⟨less, rfl⟩ : ∃ less, fuel = less + 1 := ⟨fuel - 1, by omega⟩
    simp [behindFirst, readMembers, blankClose.skipped,
      skipBlanks_cons (show blank '\x7d' = false from rfl)]
  | @cons text member texts members read others inductionHypothesis =>
    simp only [behindFirst_cons, List.length_append, List.length_cons] at enough
    obtain ⟨less, rfl⟩ : ∃ less, fuel = less + 3 := ⟨fuel - 3, by omega⟩
    obtain ⟨characters, opening, met⟩ := readMember_text read less _
      (ends_row blankClose '\x7d' (by simp) texts rest) (by omega)
    have later := inductionHypothesis less (by
      simp only [opening, List.length_cons] at enough
      omega)
    rw [later] at met
    simp [behindFirst_cons, readMembers, skipBlanks_cons (show blank ',' = false from rfl),
      blankGap.skipped, opening, skipBlanks_cons (show blank '"' = false from rfl), met]

/-- An object is read as the object of what its members' texts are read as. -/
theorem reads_members (shallow : depth < deepest) (blankGap : Blanks gap)
    (blankClose : Blanks close) {members : List (String × Json)}
    (reads : List.Forall₂ (ReadsAsMember (depth + 1)) texts members) :
    ReadsAs depth ('\x7b' :: (inRow gap texts ++ (close ++ ['\x7d']))) (.object members none) := by
  refine readsAs_of_step rfl (by decide) fun fuel rest enough ends => ?_
  have within : ¬ deepest ≤ depth := Nat.not_le.mpr shallow
  cases reads with
  | nil =>
    obtain ⟨less, rfl⟩ : ∃ less, fuel = less + 1 := ⟨fuel - 1, by omega⟩
    simp [inRow, readValue, readMembers, skipBlanks_cons (show blank '\x7b' = false from rfl),
      blankClose.skipped, skipBlanks_cons (show blank '\x7d' = false from rfl), nested, within]
  | @cons text member texts members read others =>
    simp only [inRow, List.length_append, List.length_cons, List.length_nil] at enough
    obtain ⟨less, rfl⟩ : ∃ less, fuel = less + 3 := ⟨fuel - 3, by omega⟩
    obtain ⟨characters, opening, met⟩ := readMember_text read less _
      (ends_row blankClose '\x7d' (by simp) texts rest) (by omega)
    have later := readMembers_behind blankGap blankClose others less rest (by
      simp only [opening, List.length_cons] at enough
      omega)
    rw [later] at met
    simp [inRow, readValue, readMembers, skipBlanks_cons (show blank '\x7b' = false from rfl),
      blankGap.skipped, opening, skipBlanks_cons (show blank '"' = false from rfl), met, nested,
      within]

end Rows

/-! ## Compact lists and objects -/

section Compact

variable {depth : Nat}

/-- Items stand in a row without gaps. -/
theorem writtenItems_row (items : List Json) :
    writtenItems items = inRow [] (items.map written) := by
  induction items with
  | nil => rfl
  | cons item items inductionHypothesis =>
    cases items with
    | nil => simp [writtenItems, inRow, behindFirst]
    | cons next items => simp [writtenItems, inRow, behindFirst, inductionHypothesis]

/-- The items of a list are read one by one. -/
abbrev ItemsReadAs (depth : Nat) : List Json → List Json → Prop :=
  List.Forall₂ fun item tree => ReadsAs depth (written item) tree

/-- A written list is read as the list of what its items are read as. -/
theorem reads_array {items trees : List Json} (shallow : depth < deepest)
    (reads : ItemsReadAs (depth + 1) items trees) :
    ReadsAs depth (written (.array items none)) (.array trees none) := by
  rw [written, writtenItems_row]
  exact reads_list shallow blanks_nil blanks_nil (List.forall₂_map_left_iff.mpr reads)

/-- A member as it is written. -/
def writtenMember (member : String × Json) : List Char :=
  writtenString member.1 ++ ':' :: written member.2

/-- Members stand in a row without gaps. -/
theorem writtenMembers_row (members : List (String × Json)) :
    writtenMembers members = inRow [] (members.map writtenMember) := by
  induction members with
  | nil => rfl
  | cons member members inductionHypothesis =>
    cases members with
    | nil => simp [writtenMembers, inRow, behindFirst, writtenMember]
    | cons next members =>
      simp [writtenMembers, inRow, behindFirst, writtenMember, inductionHypothesis]

/-- A member keeps its name, and its value is read as the other's. -/
def MemberReadsAs (depth : Nat) (member tree : String × Json) : Prop :=
  tree.1 = member.1 ∧ ReadsAs depth (written member.2) tree.2

/-- The members of an object are read one by one. -/
abbrev MembersReadAs (depth : Nat) : List (String × Json) → List (String × Json) → Prop :=
  List.Forall₂ (MemberReadsAs depth)

/-- A written object is read as the object of what its members are read as. -/
theorem reads_object {members trees : List (String × Json)} (shallow : depth < deepest)
    (reads : MembersReadAs (depth + 1) members trees) :
    ReadsAs depth (written (.object members none)) (.object trees none) := by
  have texts : List.Forall₂ (ReadsAsMember (depth + 1)) (members.map writtenMember) trees := by
    refine List.forall₂_map_left_iff.mpr (reads.imp fun member tree read => ?_)
    obtain ⟨sameName, valueRead⟩ := read
    exact ⟨[], written member.2, blanks_nil, by rw [sameName]; rfl, valueRead⟩
  rw [written, writtenMembers_row]
  exact reads_members shallow blanks_nil blanks_nil texts

end Compact

/-! ## Whole trees -/

/-- What holds of every tree if it holds of its items and of the values of its members. -/
theorem tree_induction {motive : Json → Prop} (null : motive .null)
    (boolean : ∀ value, motive (.boolean value)) (number : ∀ value, motive (.number value))
    (string : ∀ value, motive (.string value))
    (array : ∀ items tail, (∀ item ∈ items, motive item) → motive (.array items tail))
    (object : ∀ members tail, (∀ member ∈ members, motive member.2) →
      motive (.object members tail))
    (fault : ∀ cause, motive (.fault cause)) (tree : Json) : motive tree :=
  @Json.rec motive (fun items => ∀ item ∈ items, motive item)
    (fun members => ∀ member ∈ members, motive member.2) (fun member => motive member.2)
    null boolean number string array object fault (by simp)
    (fun _ _ first rest => List.forall_mem_cons.mpr ⟨first, rest⟩) (by simp)
    (fun _ _ first rest => List.forall_mem_cons.mpr ⟨first, rest⟩) (fun _ _ value => value) tree

mutual

/-- Nothing in a tree is at fault, nothing stands too deep, and every number is read as
it is written. -/
def Legible (depth : Nat) : Json → Prop
  | .number value => value.Legible
  | .array items tail => tail = none ∧ depth < deepest ∧ LegibleItems (depth + 1) items
  | .object members tail => tail = none ∧ depth < deepest ∧ LegibleMembers (depth + 1) members
  | .fault _ => False
  | _ => True

/-- Every item is legible. -/
def LegibleItems (depth : Nat) : List Json → Prop
  | [] => True
  | item :: rest => Legible depth item ∧ LegibleItems depth rest

/-- Every member has a legible value. -/
def LegibleMembers (depth : Nat) : List (String × Json) → Prop
  | [] => True
  | (_, value) :: rest => Legible depth value ∧ LegibleMembers depth rest

end

/-- Items are legible one by one. -/
theorem legibleItems_iff {depth : Nat} (items : List Json) :
    LegibleItems depth items ↔ ∀ item ∈ items, Legible depth item := by
  induction items with
  | nil => simp [LegibleItems]
  | cons item rest inductionHypothesis => simp [LegibleItems, inductionHypothesis]

/-- Members are legible one by one. -/
theorem legibleMembers_iff {depth : Nat} (members : List (String × Json)) :
    LegibleMembers depth members ↔ ∀ member ∈ members, Legible depth member.2 := by
  induction members with
  | nil => simp [LegibleMembers]
  | cons member rest inductionHypothesis => simp [LegibleMembers, inductionHypothesis]

/-- A legible tree is read as it was written. -/
theorem reads_legible (depth : Nat) (tree : Json) (legible : Legible depth tree) :
    ReadsAs depth (written tree) tree := by
  induction tree using tree_induction generalizing depth with
  | null => exact reads_null depth
  | boolean value => exact reads_boolean depth value
  | number value => exact reads_number depth legible
  | string text => exact reads_string depth text
  | array items tail inductionHypothesis =>
    obtain ⟨rfl, shallow, each⟩ := legible
    refine reads_array shallow (List.forall₂_same.mpr fun item listed => ?_)
    exact inductionHypothesis item listed _ ((legibleItems_iff items).mp each item listed)
  | object members tail inductionHypothesis =>
    obtain ⟨rfl, shallow, each⟩ := legible
    refine reads_object shallow (List.forall₂_same.mpr fun member listed => ⟨rfl, ?_⟩)
    exact inductionHypothesis member listed _ ((legibleMembers_iff members).mp each member listed)
  | fault cause => exact legible.elim

/-- What a text is read as on its own, with nothing behind it. -/
theorem ReadsAs.read_text {value tree : Json} (reads : ReadsAs 0 (written value) tree) :
    Json.read value.text = (tree, []) := by
  have met := reads.read (enoughFuel (written value)) [] (by simp only [enoughFuel]; omega) ends_nil
  rw [List.append_nil] at met
  rw [Json.read, text, String.toList_ofList, met]

end BucketMount.Json
