import BucketMount.Binary64
import BucketMount.Text.Quoted
import BucketMount.Yaml.Node

/-!
# Values of YAML documents

A value is what a node stands for once aliases are followed and plain scalars are
understood. A mapping keeps its entries in their order, and no key comes twice.
Two mappings with the same entries are equal in any order.

A plain scalar is null, a flag, a whole number, another number or a text, in this
order: whole numbers may be written with the base 16, 8 or 2; digits behind a
needless zero are a text. A whole number of more than 64 bits is no value,
unless it takes more than 128 bits, and then it is a binary number.
-/

namespace BucketMount.Yaml

/-- A number. Binary numbers may also be infinite or no number at all. -/
inductive Number where
  | whole (value : Int)
  | real (value : Binary64)
  | infinite (negative : Bool)
  | undefined
  deriving DecidableEq, Repr

/-- A value. -/
inductive Value where
  | null
  | boolean (value : Bool)
  | number (value : Number)
  | text (value : String)
  | list (items : List Value)
  | mapping (entries : List (Value × Value))
  | tagged (tag : String) (value : Value)
  deriving Repr, Inhabited

namespace Number

/-- True for numbers that compare as equal; zeros do, whatever their sign. -/
def same : Number → Number → Bool
  | .real left, .real right => left == right || (left.mantissa == 0 && right.mantissa == 0)
  | left, right => left == right

/-- A number in a text. -/
def text : Number → String
  | .whole value => toString value
  | .real value => value.shortText false
  | .infinite negative => if negative then "-.inf" else ".inf"
  | .undefined => ".nan"

/-- A number where another value was wanted. -/
def found : Number → String
  | .whole value => s!"integer `{value}`"
  | .real value => s!"floating point `{value.positionalText}`"
  | .infinite negative => if negative then "floating point `-inf`" else "floating point `inf`"
  | .undefined => "floating point `NaN`"

end Number

namespace Value

mutual

/-- True for equal values. -/
def same : Value → Value → Bool
  | .null, .null => true
  | .boolean left, .boolean right => left == right
  | .number left, .number right => left.same right
  | .text left, .text right => left == right
  | .list left, .list right => sameItems left right
  | .mapping left, .mapping right => left.length == right.length && haveSame left right
  | .tagged leftTag left, .tagged rightTag right => leftTag == rightTag && same left right
  | _, _ => false

/-- True for lists of equal items. -/
def sameItems : List Value → List Value → Bool
  | [], [] => true
  | left :: lefts, right :: rights => same left right && sameItems lefts rights
  | _, _ => false

/-- True if every entry has an equal one among others. -/
def haveSame : List (Value × Value) → List (Value × Value) → Bool
  | [], _ => true
  | (key, value) :: rest, others =>
    (others.any fun other => same key other.1 && same value other.2) && haveSame rest others

end

/-- The value behind its tag. -/
def untagged : Value → Value
  | .tagged _ value => untagged value
  | value => value

/-- What a reader met who wanted another value. -/
def found : Value → String
  | .null => "unit value"
  | .boolean value => s!"boolean `{value}`"
  | .number value => value.found
  | .text value => s!"string {Text.quoted value}"
  | .list _ => "sequence"
  | .mapping _ => "map"
  | .tagged _ _ => "enum"

/-- The value under a key; null for a key that is not there. -/
def member (key : String) (value : Value) : Value :=
  match value.untagged with
  | .mapping entries =>
    ((entries.find? fun entry => match entry.1.untagged with
      | .text name => name == key
      | _ => false).map Prod.snd).getD .null
  | _ => .null

/-- The items of a list; none for any other value. -/
def items (value : Value) : List Value :=
  match value.untagged with
  | .list items => items
  | _ => []

/-- The text that a value is, if it is one. -/
def text? (value : Value) : Option String :=
  match value.untagged with
  | .text words => some words
  | _ => none

end Value

/-- True for the spellings of null. -/
def isNull (word : String) : Bool := ["null", "Null", "NULL", "~"].contains word

/-- The flag with a spelling. -/
def flag? (word : String) : Option Bool :=
  if ["true", "True", "TRUE"].contains word then some true
  else if ["false", "False", "FALSE"].contains word then some false
  else none

/-- The number in digits of a base; there must be one digit. -/
def digits? (base : Nat) (characters : List Char) : Option Nat :=
  if characters.isEmpty then none
  else characters.foldlM (fun value character =>
    match Text.hexValue? character with
    | some digit => if digit < base then some (value * base + digit) else none
    | none => none) 0

/-- True for digits behind a needless zero. -/
def hasNeedlessZero (characters : List Char) : Bool :=
  let unsigned := match characters with
    | '-' :: rest => rest
    | '+' :: rest => rest
    | _ => characters
  match unsigned with
  | '0' :: rest => !rest.isEmpty && rest.all Char.isDigit
  | _ => false

/-- The number behind the mark of a base. -/
def marked? : List Char → Option Nat
  | '0' :: 'x' :: rest => digits? 16 rest
  | '0' :: 'o' :: rest => digits? 8 rest
  | '0' :: 'b' :: rest => digits? 2 rest
  | _ => none

/-- The whole number with a spelling. -/
def whole? (characters : List Char) : Option Int :=
  let (negative, unsigned) := match characters with
    | '-' :: rest => (true, rest)
    | '+' :: rest => (false, rest)
    | _ => (false, characters)
  let magnitude := (marked? unsigned).or
    (if hasNeedlessZero characters then none else digits? 10 unsigned)
  magnitude.map fun magnitude => if negative then -(magnitude : Int) else magnitude

/-- The digits of a binary number: those before and behind the point, of which one
must be there, and an exponent. -/
def decimal? (characters : List Char) : Option (List Char × List Char × Int) :=
  let before := characters.takeWhile Char.isDigit
  let (behind, rest) := match characters.drop before.length with
    | '.' :: rest => (rest.takeWhile Char.isDigit, rest.dropWhile Char.isDigit)
    | rest => ([], rest)
  if before.isEmpty && behind.isEmpty then none
  else match rest with
    | [] => some (before, behind, 0)
    | mark :: exponent =>
      if mark = 'e' ∨ mark = 'E' then
        let (down, digits) := match exponent with
          | '-' :: digits => (true, digits)
          | '+' :: digits => (false, digits)
          | digits => (false, digits)
        (digits? 10 digits).map fun power => (before, behind, if down then -(power : Int) else power)
      else none

/-- The number with a spelling that is no whole number. One that is too large for the
format is a text. -/
def real? (word : String) : Option Number :=
  let unsigned := match word.toList with
    | '+' :: rest => rest
    | characters => characters
  if word.toList.head? = some '+' && unsigned.head?.any fun next => next == '+' || next == '-' then
    none
  else if [".inf", ".Inf", ".INF"].contains (String.ofList unsigned) then some (.infinite false)
  else if ["-.inf", "-.Inf", "-.INF"].contains word then some (.infinite true)
  else if [".nan", ".NaN", ".NAN"].contains word then some .undefined
  else
    let (negative, magnitude) := match unsigned with
      | '-' :: rest => (true, rest)
      | _ => (false, unsigned)
    (decimal? magnitude).bind fun (before, behind, power) =>
      let digits := before ++ behind
      let significand := digitsValue digits
      let length := if significand = 0 then 0 else (digits.dropWhile (· == '0')).length
      (Binary64.ofDecimal? negative significand length (power - behind.length)).map .real

/-- True for a whole number of so many bits, with or without a sign. -/
def fitsIn (bits : Nat) (value : Int) : Bool :=
  -(Nat.pow 2 (bits - 1) : Int) ≤ value && value < (Nat.pow 2 bits : Int)

/-- The whole number with a spelling, if it is a value or almost one. -/
def integer? (word : String) : Option Int := (whole? word.toList).filter (fitsIn 128)

/-- What a plain scalar stands for; on the left a whole number that is no value. -/
def plainValue (word : String) : Except Int Value :=
  if word = "" ∨ isNull word then .ok .null
  else match flag? word with
    | some value => .ok (.boolean value)
    | none => match integer? word with
      | some value => if fitsIn 64 value then .ok (.number (.whole value)) else .error value
      | none =>
        if hasNeedlessZero word.toList then .ok (.text word)
        else .ok ((real? word).elim (.text word) .number)

end BucketMount.Yaml
