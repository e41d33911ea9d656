import BucketMount.Format.Document

/-!
# Where a document is refused

A reader goes through a text from its beginning and stops where nothing behind can
change any more what it will say. So a text is refused behind its shortest
beginning that is refused the same way whatever follows. That a decimal digit and
nothing at all make no difference stands for all that may follow: a digit goes on
with a number and with no other value.

A number is known to be the wrong value only by what follows it, and a list or an
object by its first bracket; both are refused before these. What is wrong with a
member as a whole is said behind the blanks after it, and behind the brace there
if it is the last. A text that ends too early is refused at its end.

Places are lines and columns, the latter counted in bytes.
-/

namespace BucketMount

/-- A place in a text: its line, from one, and the bytes before it on that line. -/
structure TextPlace where
  line : Nat
  column : Nat
  deriving DecidableEq, Repr

namespace TextPlace

/-- The place behind a character that stands here. -/
def after (place : TextPlace) (character : Char) : TextPlace :=
  if character = '\n' then ⟨place.line + 1, 0⟩
  else { place with column := place.column + character.utf8Size }

/-- The place behind a text. -/
def behind (characters : List Char) : TextPlace := characters.foldl after ⟨1, 0⟩

end TextPlace

namespace Json

/-- True for a malformation that is the end of the text. -/
def Malformation.isEnd : Malformation → Bool
  | .valueEnds | .listEnds | .objectEnds | .stringEnds => true
  | _ => false

/-- How much further a reader has gone, or how much less far, than to the end of the
beginning that decides about a refusal. -/
inductive Overshoot where
  | none
  | oneLess
  | lessUnlessEnd
  | digits
  | listEnd
  | memberEnd
  deriving DecidableEq, Repr

/-- The names of the core types, which no list can be. -/
def coreNames : List String := ["ObjectMeta", "ManagedFieldsEntry", "OwnerReference", "Secret"]

/-- How far the reader of a refused value has gone. -/
def Refusal.overshoot : Refusal → Overshoot
  | .wrongType .list expected => if coreNames.contains expected then .listEnd else .oneLess
  | .wrongType .object _ => .oneLess
  | .wrongType (.number _) _ | .wrongValue (.number _) _ => .lessUnlessEnd
  | .malformed .numberRange => .digits
  | .wrongValue (.string _) _ | .duplicateField _ => .memberEnd
  | _ => .none

/-- The characters that a reader has gone through: those that decide, and the rest. -/
def Overshoot.apply (overshoot : Overshoot) (decisive rest : List Char) : List Char :=
  let blanks := rest.takeWhile blank
  let closed (bracket : Char) : List Char :=
    decisive ++ blanks ++ (rest.drop blanks.length).take
      (if rest[blanks.length]? = some bracket then 1 else 0)
  match overshoot with
  | .none => decisive
  | .oneLess => decisive.dropLast
  | .lessUnlessEnd => if rest.isEmpty && decisive.getLast?.any Char.isDigit then decisive
      else decisive.dropLast
  | .digits => decisive ++ rest.takeWhile Char.isDigit
  | .listEnd => closed ']'
  | .memberEnd => closed '\x7d'

/-- The least number between two bounds from which on a test holds, found by halving. -/
def leastFrom (test : Nat → Bool) : (fuel : Nat) → (low high : Nat) → Nat
  | 0, _, high => high
  | fuel + 1, low, high =>
    if high ≤ low then high
    else
      let middle := (low + high) / 2
      if test middle then leastFrom test fuel low middle
      else leastFrom test fuel (middle + 1) high

end Json

namespace Format

variable {α : Type}

/-- How a text is refused, if it is. -/
def refusal? (format : Format α) (characters : List Char) : Option Json.Refusal :=
  match format.ofText (String.ofList characters) with
  | .ok _ => none
  | .error refusal => some refusal

/-- How many characters at the beginning of a text decide how it is refused. -/
def decisive (format : Format α) (characters : List Char) (refusal : Json.Refusal) : Nat :=
  let length := characters.length
  Json.leastFrom (fun count =>
    let beginning := characters.take count
    length ≤ count || (format.refusal? beginning == some refusal
      && format.refusal? (beginning ++ ['7']) == some refusal)) (length + 1) 0 length

/-- The place where a text is refused. -/
def placeOf (format : Format α) (text : String) (refusal : Json.Refusal) : TextPlace :=
  let characters := text.toList
  let atEnd := match refusal with
    | .malformed cause => cause.isEnd
    | _ => false
  if atEnd then .behind characters
  else
    let count := format.decisive characters refusal
    .behind (refusal.overshoot.apply (characters.take count) (characters.drop count))

end Format

end BucketMount
