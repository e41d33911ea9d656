import BucketMount.Log.Subscriber
import Mathlib.Data.List.Induction
import Mathlib.Data.List.TakeWhile
import Mathlib.Tactic.IntervalCases

/-!
# What a directive says

A directive of a filter gives a level for all targets, or it names targets and may give them a
level. `Says` tells which texts are such directives and what each of them says, apart from how
they are read; `directive?_iff` shows that exactly these are read, and as what they say. Blanks
in front of a name are part of the name, and the name of a level with blanks around it is a
target like any other.

What directives say about spans and fields is not told here.
-/

namespace BucketMount.Log

/-! ## Levels -/

/-- The names of levels in a filter, and of the absence of any. -/
def ceilingNames : List (String × Option Level) :=
  [("off", none), ("error", some .error), ("warn", some .warn), ("info", some .info),
    ("debug", some .debug), ("trace", some .trace)]

/-- The numbers of levels in a filter, and of the absence of any. -/
def ceilingDigits : List (Char × Option Level) :=
  [('0', none), ('1', some .error), ('2', some .warn), ('3', some .info), ('4', some .debug),
    ('5', some .trace)]

/-- A text gives a level by its name, in letters of any case, or by its number. Noughts may stand
in front of the number, and in front of these a plus sign. -/
inductive Gives : List Char → Option Level → Prop where
  | name {word : String} {ceiling : Option Level} {characters : List Char}
    (listed : (word, ceiling) ∈ ceilingNames)
    (spelt : characters.map Char.toLower = word.toList) : Gives characters ceiling
  | number {digit : Char} {ceiling : Option Level} {sign : List Char}
    (listed : (digit, ceiling) ∈ ceilingDigits) (signed : sign = [] ∨ sign = ['+'])
    (noughts : Nat) : Gives (sign ++ (List.replicate noughts '0' ++ [digit])) ceiling

/-- The value of decimal digits. -/
def valueOf (digits : List Char) : Nat :=
  digits.foldl (fun value digit => 10 * value + (digit.toNat - 48)) 0

/-- One more digit is worth itself, and makes those in front of it worth ten times as much. -/
theorem valueOf_snoc (digits : List Char) (digit : Char) :
    valueOf (digits ++ [digit]) = 10 * valueOf digits + (digit.toNat - 48) := by
  simp [valueOf]

/-- A digit is one of ten characters, and the character of its value. -/
theorem digit_eq {digit : Char} (decimal : digit.isDigit = true) :
    digit.toNat - 48 < 10 ∧ digit = Char.ofNat (48 + (digit.toNat - 48)) := by
  simp only [Char.isDigit, Bool.and_eq_true, decide_eq_true_eq, ge_iff_le,
    UInt32.le_iff_toNat_le] at decimal
  have least : 48 ≤ digit.toNat := decimal.1
  have most : digit.toNat ≤ 57 := decimal.2
  rw [show 48 + (digit.toNat - 48) = digit.toNat by omega, Char.ofNat_toNat]
  exact ⟨by omega, rfl⟩

/-- Digits that are worth nothing are noughts. -/
theorem noughts_of_valueOf {digits : List Char}
    (decimal : ∀ digit ∈ digits, digit.isDigit = true) (nothing : valueOf digits = 0) :
    digits = List.replicate digits.length '0' := by
  refine List.eq_replicate_iff.mpr ⟨rfl, ?_⟩
  induction digits using List.reverseRecOn with
  | nil => simp
  | append_singleton front digit inductionHypothesis =>
    rw [List.forall_mem_append, List.forall_mem_singleton] at decimal ⊢
    rw [valueOf_snoc] at nothing
    refine ⟨inductionHypothesis decimal.1 (by omega), ?_⟩
    rw [(digit_eq decimal.2).2, show digit.toNat - 48 = 0 by omega]

/-- Noughts add nothing to a digit behind them. -/
theorem valueOf_noughts (noughts : Nat) (digit : Char) :
    valueOf (List.replicate noughts '0' ++ [digit]) = digit.toNat - 48 := by
  have nothing : valueOf (List.replicate noughts '0') = 0 := by
    induction noughts with
    | zero => rfl
    | succ noughts inductionHypothesis =>
      rw [List.replicate_succ', valueOf_snoc, inductionHypothesis]
      rfl
  rw [valueOf_snoc, nothing, Nat.mul_zero, Nat.zero_add]

/-- A number is read from digits with or without a plus sign in front of them. -/
theorem number?_iff {characters : List Char} {value : Nat} :
    number? characters = some value ↔ ∃ sign digits, (sign = [] ∨ sign = ['+']) ∧
      characters = sign ++ digits ∧ digits ≠ [] ∧ (∀ digit ∈ digits, digit.isDigit = true) ∧
      valueOf digits = value := by
  have digitwise (digits : List Char) :
      (if digits.isEmpty || digits.any (!·.isDigit) then none else some (valueOf digits)) =
          some value ↔
        digits ≠ [] ∧ (∀ digit ∈ digits, digit.isDigit = true) ∧ valueOf digits = value := by
    simp [and_assoc]
  constructor
  · intro read
    unfold number? at read
    split at read
    case h_1 rest => exact ⟨['+'], rest, .inr rfl, rfl, (digitwise rest).mp read⟩
    case h_2 => exact ⟨[], characters, .inl rfl, rfl, (digitwise characters).mp read⟩
  · rintro ⟨sign, digits, rfl | rfl, rfl, told⟩
    · unfold number?
      split
      case h_1 =>
        have plus : '+'.isDigit = true := told.2.1 '+' (by simp)
        exact absurd plus (by decide)
      case h_2 => exact (digitwise _).mpr told
    · exact (digitwise digits).mpr told

/-- A digit is the number of a level, or of none, if it is listed as that. -/
theorem levelNumbered_digit {digit : Char} (decimal : digit.isDigit = true)
    {ceiling : Option Level} :
    levelNumbered (digit.toNat - 48) = some ceiling ↔ (digit, ceiling) ∈ ceilingDigits := by
  obtain ⟨small, same⟩ := digit_eq decimal
  rw [same]
  generalize digit.toNat - 48 = value at small
  have back : (Char.ofNat (48 + value)).toNat - 48 = value := by
    revert value
    decide
  rw [back]
  interval_cases value <;> simp [levelNumbered, ceilingDigits, eq_comm]

/-- Levels have small numbers. -/
theorem levelNumbered_le {value : Nat} {ceiling : Option Level}
    (given : levelNumbered value = some ceiling) : value ≤ 5 := by
  unfold levelNumbered at given
  split at given <;> simp_all

/-- A level has a name if it is listed under it in small letters. -/
theorem levelNamed_iff {characters : List Char} {ceiling : Option Level} :
    levelNamed characters = some ceiling ↔
      ∃ word, (word, ceiling) ∈ ceilingNames ∧ characters.map Char.toLower = word.toList := by
  constructor
  · intro given
    unfold levelNamed at given
    split at given
    case h_7 => cases given
    all_goals
      rename_i spelt
      obtain rfl := Option.some.inj given
      exact ⟨String.ofList (characters.map Char.toLower), by simp [spelt, ceilingNames], by simp⟩
  · rintro ⟨word, listed, spelt⟩
    have whole : String.ofList (characters.map Char.toLower) = word := by
      rw [spelt, String.ofList_toList]
    unfold levelNamed
    rw [whole]
    simp only [ceilingNames, List.mem_cons, Prod.mk.injEq, List.not_mem_nil, or_false] at listed
    rcases listed with ⟨rfl, rfl⟩ | ⟨rfl, rfl⟩ | ⟨rfl, rfl⟩ | ⟨rfl, rfl⟩ | ⟨rfl, rfl⟩ |
      ⟨rfl, rfl⟩ <;> rfl

/-- The name of a level is not a number. -/
theorem name_not_number {word : String} {ceiling : Option Level} {characters : List Char}
    (listed : (word, ceiling) ∈ ceilingNames)
    (spelt : characters.map Char.toLower = word.toList) : number? characters = none := by
  have letters : ∀ entry ∈ ceilingNames, entry.1.toList.all (!·.isDigit) = true := by decide
  refine Option.eq_none_iff_forall_ne_some.mpr fun value read => ?_
  obtain ⟨sign, digits, _, rfl, nonempty, decimal, _⟩ := number?_iff.mp read
  obtain ⟨digit, inside⟩ := List.exists_mem_of_ne_nil digits nonempty
  have unchanged : digit.toLower = digit := by
    have each : ∀ value < 10,
        (Char.ofNat (48 + value)).toLower = Char.ofNat (48 + value) := by decide
    obtain ⟨small, same⟩ := digit_eq (decimal digit inside)
    rw [same, each _ small]
  have letter : digit ∈ word.toList := by
    rw [← spelt, ← unchanged]
    exact List.mem_map_of_mem (by simp [inside])
  have word := List.all_eq_true.mp (letters _ listed) digit letter
  rw [decimal digit inside] at word
  cases word

/-- A level is read from exactly the texts that give one. -/
theorem level?_iff {characters : List Char} {ceiling : Option Level} :
    level? characters = some ceiling ↔ Gives characters ceiling := by
  constructor
  · intro read
    rw [level?] at read
    cases found : number? characters with
    | none =>
      rw [found] at read
      obtain ⟨word, listed, spelt⟩ := levelNamed_iff.mp read
      exact .name listed spelt
    | some value =>
      rw [found] at read
      have small : value ≤ 5 := levelNumbered_le read
      obtain ⟨sign, digits, signed, rfl, nonempty, decimal, worth⟩ := number?_iff.mp found
      obtain ⟨front, digit, rfl⟩ := (List.eq_nil_or_concat digits).resolve_left nonempty
      rw [List.concat_eq_append, List.forall_mem_append, List.forall_mem_singleton] at decimal
      rw [List.concat_eq_append, valueOf_snoc] at worth
      have noughts := noughts_of_valueOf decimal.1 (by omega)
      have last : levelNumbered (digit.toNat - 48) = some ceiling := by
        rw [show digit.toNat - 48 = value by omega]
        exact read
      rw [List.concat_eq_append, noughts]
      exact .number ((levelNumbered_digit decimal.2).mp last) signed _
  · intro given
    cases given with
    | name listed spelt =>
      rw [level?, name_not_number listed spelt]
      exact levelNamed_iff.mpr ⟨_, listed, spelt⟩
    | @number digit _ sign listed signed noughts =>
      have decimal : ∀ entry ∈ ceilingDigits, entry.1.isDigit = true := by decide
      have last : digit.isDigit = true := decimal _ listed
      have digits : ∀ other ∈ List.replicate noughts '0' ++ [digit], other.isDigit = true := by
        rw [List.forall_mem_append, List.forall_mem_singleton]
        exact ⟨fun nought listed => List.eq_of_mem_replicate listed ▸ rfl, last⟩
      have read := number?_iff.mpr
        ⟨sign, _, signed, rfl, by simp, digits, valueOf_noughts noughts digit⟩
      rw [level?, read]
      exact (levelNumbered_digit last).mpr listed

/-! ## Directives -/

/-- A text begins a directive with its first character that is not blank. -/
def Begins (characters : List Char) : Prop :=
  ∃ blanks first rest, characters = blanks ++ first :: rest ∧
    (∀ character ∈ blanks, Text.blank character = true) ∧ begins first = true

/-- What a directive says that does not speak of spans and fields. A level without targets is
for all of them. Targets without a level are let through at all levels, be it that there is
nothing behind the equals sign or no such sign. -/
inductive Says : List Char → Directive → Prop where
  | level {characters : List Char} {ceiling : Option Level} (begun : Begins characters)
    (given : Gives characters ceiling) : Says characters ⟨"", ceiling⟩
  | target {characters : List Char} (begun : Begins characters) (unsigned : '=' ∉ characters)
    (unbracketed : '[' ∉ characters) (notLevel : ∀ ceiling, ¬ Gives characters ceiling) :
    Says characters ⟨String.ofList characters, some .trace⟩
  | unlimited {first : Char} {rest : List Char} (begun : begins first = true)
    (unsigned : '=' ∉ first :: rest) (unbracketed : '[' ∉ first :: rest) :
    Says (first :: rest ++ ['=']) ⟨String.ofList (first :: rest), some .trace⟩
  | limited {first : Char} {rest level : List Char} {ceiling : Option Level}
    (begun : begins first = true) (unsigned : '=' ∉ first :: rest)
    (unbracketed : '[' ∉ first :: rest) (given : Gives level ceiling) :
    Says (first :: rest ++ '=' :: level) ⟨String.ofList (first :: rest), ceiling⟩

/-- No blank begins a directive. -/
theorem begins_not_blank {character : Char} (begun : begins character = true) :
    Text.blank character = false := by
  have each : ∀ code ∈ [0x09, 0x0a, 0x0b, 0x0c, 0x0d, 0x20, 0x85, 0xa0, 0x1680, 0x2000, 0x2001,
      0x2002, 0x2003, 0x2004, 0x2005, 0x2006, 0x2007, 0x2008, 0x2009, 0x200a, 0x2028, 0x2029,
      0x202f, 0x205f, 0x3000], begins (Char.ofNat code) = false := by decide +kernel
  by_contra blank
  rw [Bool.not_eq_false] at blank
  simp only [Text.blank, Bool.or_eq_true, Bool.and_eq_true, decide_eq_true_eq, beq_iff_eq] at blank
  have stops := each character.toNat (by simp only [List.mem_cons, List.not_mem_nil]; omega)
  rw [Char.ofNat_toNat, begun] at stops
  cases stops

/-- The first character that is not blank is the first one of what is trimmed. -/
theorem trim_head (blanks : List Char) {rest : List Char} {first : Char}
    (blank : ∀ character ∈ blanks, Text.blank character = true)
    (visible : Text.blank first = false) :
    (Text.trim (blanks ++ first :: rest)).head? = some first := by
  have started : Text.trimStart (blanks ++ first :: rest) = first :: rest := by
    rw [Text.trimStart, List.dropWhile_append_of_pos blank,
      List.dropWhile_cons_of_neg (by simp [visible])]
  have ended : ∃ front, Text.trimStart (rest.reverse ++ [first]) = front ++ [first] := by
    rw [Text.trimStart, List.dropWhile_append]
    split
    · exact ⟨[], by simp [visible]⟩
    · exact ⟨_, rfl⟩
  obtain ⟨front, ended⟩ := ended
  rw [Text.trim, started, List.reverse_cons, ended]
  simp

/-- What is trimmed begins a directive if the text does. -/
theorem begins_iff {characters : List Char} :
    Begins characters ↔
      ∃ first, (Text.trim characters).head? = some first ∧ begins first = true := by
  constructor
  · rintro ⟨blanks, first, rest, rfl, blank, begun⟩
    exact ⟨first, trim_head blanks blank (begins_not_blank begun), begun⟩
  · rintro ⟨first, head, begun⟩
    have blank : ∀ character ∈ characters.takeWhile Text.blank, Text.blank character = true :=
      fun _ => List.mem_takeWhile_imp
    have whole := List.takeWhile_append_dropWhile (p := Text.blank) (l := characters)
    cases left : characters.dropWhile Text.blank with
    | nil => simp [Text.trim, Text.trimStart, left] at head
    | cons other rest =>
      have visible : Text.blank other = false := by
        have first := List.head_dropWhile_not (p := Text.blank) (l := characters) (by simp [left])
        simpa [left] using first
      rw [left] at whole
      rw [← whole, trim_head _ blank visible] at head
      obtain rfl := Option.some.inj head
      exact ⟨_, other, rest, whole.symm, blank, begun⟩

/-- The empty text gives no level. -/
theorem gives_ne_nil {characters : List Char} {ceiling : Option Level}
    (given : Gives characters ceiling) : characters ≠ [] := by
  cases given with
  | name listed spelt =>
    have words : ∀ entry ∈ ceilingNames, entry.1.toList ≠ [] := by decide
    rintro rfl
    exact words _ listed spelt.symm
  | number => simp

/-- A level is given in letters, digits and the plus sign. -/
theorem gives_plain {characters : List Char} {ceiling : Option Level}
    (given : Gives characters ceiling) : '=' ∉ characters ∧ '[' ∉ characters := by
  cases given with
  | @name word _ _ listed spelt =>
    have letters : ∀ entry ∈ ceilingNames, '=' ∉ entry.1.toList ∧ '[' ∉ entry.1.toList := by
      decide
    have plain := letters _ listed
    rw [← spelt] at plain
    exact ⟨fun inside => plain.1 (List.mem_map_of_mem (f := Char.toLower) inside),
      fun inside => plain.2 (List.mem_map_of_mem (f := Char.toLower) inside)⟩
  | @number digit _ sign listed signed noughts =>
    have digits : ∀ entry ∈ ceilingDigits, '=' ≠ entry.1 ∧ '[' ≠ entry.1 := by decide
    have last := digits _ listed
    rcases signed with rfl | rfl <;> simp [List.mem_replicate, last.1, last.2]

/-- What does not begin a directive is not read as one. -/
theorem directive?_not_begun {characters : List Char} (unbegun : ¬ Begins characters) :
    directive? characters = none := by
  unfold directive?
  split
  case h_1 => rfl
  case h_2 first rest trimmed =>
    have stops : begins first ≠ true := fun begun =>
      unbegun (begins_iff.mpr ⟨first, by rw [trimmed]; rfl, begun⟩)
    simp [stops]

/-- Each character of a text without an equals sign differs from it. -/
theorem differs_of_unsigned {characters : List Char} (unsigned : '=' ∉ characters) :
    ∀ character ∈ characters, (character != '=') = true :=
  fun _ inside => bne_iff_ne.mpr fun same => unsigned (same ▸ inside)

/-- What is read without an equals sign is a level, or else the targets of a directive. -/
theorem directive?_unsigned {characters : List Char} (begun : Begins characters)
    (unsigned : '=' ∉ characters) :
    directive? characters = if '[' ∈ characters then none else
      some (((level? characters).map (Directive.mk "")).getD
        ⟨String.ofList characters, some .trace⟩) := by
  obtain ⟨first, head, begun⟩ := begins_iff.mp begun
  have before : characters.takeWhile (· != '=') = characters :=
    List.takeWhile_eq_self_iff.mpr (differs_of_unsigned unsigned)
  have behind : characters.dropWhile (· != '=') = [] :=
    List.dropWhile_eq_nil_iff.mpr (differs_of_unsigned unsigned)
  unfold directive?
  split
  case h_1 trimmed =>
    rw [trimmed] at head
    cases head
  case h_2 other rest trimmed =>
    rw [trimmed] at head
    obtain rfl : other = first := Option.some.inj head
    simp only [begun, before, behind, List.contains_iff_mem]
    cases level? characters <;> rfl

/-- The two sides of the first equals sign. -/
theorem sides_of_sign {target : List Char} (unsigned : '=' ∉ target) (level : List Char) :
    (target ++ '=' :: level).takeWhile (· != '=') = target ∧
      (target ++ '=' :: level).dropWhile (· != '=') = '=' :: level := by
  rw [List.takeWhile_append_of_pos (differs_of_unsigned unsigned),
    List.dropWhile_append_of_pos (differs_of_unsigned unsigned)]
  simp

/-- What is read with an equals sign are the targets in front of it and the level behind it, if
there is one. -/
theorem directive?_signed {first : Char} {rest : List Char} (begun : begins first = true)
    (unsigned : '=' ∉ first :: rest) (level : List Char) :
    directive? (first :: rest ++ '=' :: level) = if '[' ∈ first :: rest then none else
      if level = [] then some ⟨String.ofList (first :: rest), some .trace⟩
      else (level? level).map (Directive.mk (String.ofList (first :: rest))) := by
  obtain ⟨before, behind⟩ := sides_of_sign unsigned level
  have head : (Text.trim (first :: rest ++ '=' :: level)).head? = some first :=
    trim_head [] (by simp) (begins_not_blank begun)
  unfold directive?
  split
  case h_1 trimmed =>
    rw [trimmed] at head
    cases head
  case h_2 other _ trimmed =>
    rw [trimmed] at head
    obtain rfl : other = first := Option.some.inj head
    simp only [begun, before, behind, List.contains_iff_mem, List.isEmpty_iff, List.head?_cons,
      bne_self_eq_false, Bool.not_true, Bool.false_eq_true, ↓reduceIte]

/-- The targets in front of an equals sign begin the directive, without blanks in front of
them. -/
theorem target_begins {target level : List Char} {directive : Directive} (unsigned : '=' ∉ target)
    (read : directive? (target ++ '=' :: level) = some directive) :
    ∃ first rest, target = first :: rest ∧ begins first = true := by
  obtain ⟨before, behind⟩ := sides_of_sign unsigned level
  unfold directive? at read
  split at read
  case h_1 => cases read
  case h_2 first _ _ =>
    simp only [before, behind] at read
    by_cases begun : begins first = true
    case neg => simp [begun] at read
    cases target with
    | nil => simp [begun] at read
    | cons other rest =>
      by_cases same : other = first
      case neg => simp [begun, same] at read
      exact ⟨other, rest, rfl, same ▸ begun⟩

/-- Exactly the texts are read as directives that say something, and as what they say. -/
theorem directive?_iff {characters : List Char} {directive : Directive} :
    directive? characters = some directive ↔ Says characters directive := by
  constructor
  · intro read
    by_cases signed : '=' ∈ characters
    · obtain ⟨target, level, rfl, unsigned⟩ := List.eq_append_cons_of_mem signed
      obtain ⟨first, rest, rfl, begun⟩ := target_begins unsigned read
      rw [directive?_signed begun unsigned] at read
      by_cases bracketed : '[' ∈ first :: rest
      · rw [if_pos bracketed] at read
        cases read
      rw [if_neg bracketed] at read
      by_cases none : level = []
      · rw [if_pos none] at read
        obtain rfl := Option.some.inj read
        subst none
        exact .unlimited begun unsigned bracketed
      · rw [if_neg none] at read
        obtain ⟨ceiling, given, rfl⟩ := Option.map_eq_some_iff.mp read
        exact .limited begun unsigned bracketed (level?_iff.mp given)
    · have begun : Begins characters := by
        by_contra unbegun
        rw [directive?_not_begun unbegun] at read
        cases read
      rw [directive?_unsigned begun signed] at read
      by_cases bracketed : '[' ∈ characters
      · rw [if_pos bracketed] at read
        cases read
      rw [if_neg bracketed] at read
      obtain rfl := Option.some.inj read
      cases found : level? characters with
      | some ceiling => exact .level begun (level?_iff.mp found)
      | none =>
        refine .target begun signed bracketed fun ceiling given => ?_
        rw [level?_iff.mpr given] at found
        cases found
  · intro said
    cases said with
    | level begun given =>
      obtain ⟨unsigned, unbracketed⟩ := gives_plain given
      rw [directive?_unsigned begun unsigned, if_neg unbracketed, level?_iff.mpr given]
      rfl
    | target begun unsigned unbracketed notLevel =>
      have unread : level? characters = none :=
        Option.eq_none_iff_forall_ne_some.mpr fun ceiling read =>
          notLevel ceiling (level?_iff.mp read)
      rw [directive?_unsigned begun unsigned, if_neg unbracketed, unread]
      rfl
    | unlimited begun unsigned unbracketed =>
      rw [directive?_signed begun unsigned, if_neg unbracketed, if_pos rfl]
    | @limited first rest level ceiling begun unsigned unbracketed given =>
      rw [directive?_signed begun unsigned, if_neg unbracketed, if_neg (gives_ne_nil given),
        level?_iff.mpr given]
      rfl

end BucketMount.Log
