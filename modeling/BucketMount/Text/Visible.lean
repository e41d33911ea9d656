/-!
# What a text shows

A terminal obeys controls, and the sequences that an escape begins, in place of
showing them. What is left of a text without them is what it shows: characters
other than controls, and the controls that move to another place of the text.

Such a control inside a sequence is shown as well, and so is everything from there
to the next character that is not shown; that one belongs to the sequence again.
What a sequence asks of the terminal is not modelled.
-/

namespace BucketMount.Text

/-- Where a character stands: in the text, right behind an escape, behind further marks
of a short sequence, or in a sequence of one of three forms. -/
inductive Position where
  | text
  | escape
  | marks
  | parameters
  | title
  | string
  deriving DecidableEq, Repr

namespace Position

/-- The position behind a character that is not shown. A title ends at a bell, and a
string at a byte that only a terminal without an encoding takes for an end. -/
def after (position : Position) (character : Char) : Position :=
  let code := character.toNat
  if code = 0x1b then .escape
  else if code = 0x18 ∨ code = 0x1a then .text
  else match position with
    | .text => .text
    | .escape =>
      if character = '[' then .parameters
      else if character = ']' then .title
      else if ['P', 'X', '^', '_'].contains character then .string
      else if 0x20 ≤ code ∧ code ≤ 0x2f then .marks
      else if 0x30 ≤ code ∧ code ≤ 0x7e then .text
      else .escape
    | .marks => if 0x30 ≤ code ∧ code ≤ 0x7e then .text else .marks
    | .parameters => if 0x40 ≤ code ∧ code ≤ 0x7e then .text else .parameters
    | .title => if code = 0x07 then .text else .title
    | .string => if (String.utf8EncodeChar character).contains 0x9c then .text else .string

/-- True where a control that moves is obeyed at once. -/
def obeys : Position → Bool
  | .title | .string => false
  | _ => true

end Position

/-- True for the controls that move to another place of the text. -/
def moves (character : Char) : Bool :=
  character == '\t' || character == '\n' || character == '\x0c' || character == '\r'

/-- True for a character that a text shows. -/
def shows (character : Char) : Bool :=
  moves character || (0x20 ≤ character.toNat && character.toNat != 0x7f)

/-- What is shown of the characters from a position on, which may follow a character
that was shown. -/
def visibleFrom (position : Position) (showing : Bool) : List Char → List Char
  | [] => []
  | character :: rest =>
    if (showing || position == .text) && shows character || position.obeys && moves character then
      character :: visibleFrom (if character.toNat < 0x80 then position else .text) true rest
    else visibleFrom (position.after character) false rest

/-- What a text shows. -/
def visible (text : String) : String := String.ofList (visibleFrom .text false text.toList)

/-- A text of characters that are shown shows all of them. -/
theorem visibleFrom_of_shows (characters : List Char) (showing : Bool)
    (plain : ∀ character ∈ characters, shows character = true) :
    visibleFrom .text showing characters = characters := by
  induction characters generalizing showing with
  | nil => rfl
  | cons character rest inductionHypothesis =>
    have first : shows character = true := plain character List.mem_cons_self
    have others := inductionHypothesis true fun other member =>
      plain other (List.mem_cons_of_mem character member)
    simp [visibleFrom, first, others]

end BucketMount.Text
