/-!
# Binary floating point numbers, exactly

A finite number of the 64-bit format is a sign, a mantissa below 2^53 and a
binary exponent of at least -1074. Every operation computes on natural numbers
and rounds once, to the nearest number of the format and to the even mantissa
on a tie; nothing is delegated to the machine's own arithmetic.

The shortest text of a number is found on decimal grids: the coarsest power of
ten with a multiple that still rounds to the number, of two such multiples the
nearer one. Infinities and not-a-number have no value here, since no document
can hold them.
-/

namespace BucketMount

/-- A finite number `(-1)^negative * mantissa * 2^exponent`. -/
structure Binary64 where
  negative : Bool
  mantissa : Nat
  exponent : Int
  deriving DecidableEq, Repr

namespace Binary64

/-- Zero keeps its sign. -/
def zero (negative : Bool) : Binary64 := ⟨negative, 0, -1074⟩

/-- The quotient rounded to the nearest natural number, ties to even. -/
def roundQuotient (numerator denominator : Nat) : Nat :=
  let quotient := numerator / denominator
  let twice := 2 * (numerator % denominator)
  if twice < denominator then quotient
  else if denominator < twice then quotient + 1
  else quotient + quotient % 2

/-- Multiplies the numerator by a power of two, or the denominator for a
negative power. -/
def scaled (numerator denominator : Nat) (power : Int) : Nat × Nat :=
  match power with
  | .ofNat up => (numerator * Nat.pow 2 up, denominator)
  | .negSucc down => (numerator, denominator * Nat.pow 2 (down + 1))

/-- The number of the format nearest to a positive quotient; none if it lies
beyond the largest one. -/
def ofQuotient (negative : Bool) (numerator denominator : Nat) : Option Binary64 :=
  if numerator = 0 then some (zero negative)
  else
    let guess : Int := (numerator.log2 : Int) - (denominator.log2 : Int) - 52
    let (top, bottom) := scaled numerator denominator (-guess)
    let floating := if top / bottom < Nat.pow 2 52 then guess - 1 else guess
    let exponent := max floating (-1074)
    let (top, bottom) := scaled numerator denominator (-exponent)
    let mantissa := roundQuotient top bottom
    let result : Binary64 :=
      if mantissa = Nat.pow 2 53 then ⟨negative, Nat.pow 2 52, exponent + 1⟩
      else ⟨negative, mantissa, exponent⟩
    if 971 < result.exponent then none else some result

/-- The number nearest to a natural number. -/
def ofNat? (number : Nat) : Option Binary64 := ofQuotient false number 1

/-- The rounded product of two numbers; none beyond the largest. -/
def mul? (left right : Binary64) : Option Binary64 :=
  let (top, bottom) := scaled (left.mantissa * right.mantissa) 1 (left.exponent + right.exponent)
  ofQuotient (left.negative != right.negative) top bottom

/-- The rounded quotient by a nonzero number; none beyond the largest. -/
def div? (left right : Binary64) : Option Binary64 :=
  let (top, bottom) := scaled left.mantissa right.mantissa (left.exponent - right.exponent)
  ofQuotient (left.negative != right.negative) top bottom

/-- `10^power` rounded to the format. -/
def powerOfTen? (power : Nat) : Option Binary64 := ofNat? (Nat.pow 10 power)

/-- Scales down by whole steps of 10^308 until the exponent is in the table's
reach. The steps are bounded by the exponent itself. -/
def shrink : Nat → Binary64 → Nat → Option Binary64
  | 0, number, _ => some number
  | fuel + 1, number, power =>
    if power ≤ 308 then (powerOfTen? power).bind number.div?
    else if number.mantissa = 0 then some number
    else ((powerOfTen? 308).bind number.div?).bind fun smaller => shrink fuel smaller (power - 308)

/-- The value read from a whole significand and a decimal exponent. The
significand is rounded first and then scaled by one rounded power of ten, so
the last bit may differ from the exactly rounded decimal; none means that the
number is out of range. -/
def ofScaled? (negative : Bool) (significand : Nat) (exponent : Int) : Option Binary64 := do
  let start ← ofNat? significand
  let magnitude ← match exponent with
    | .ofNat up =>
      if up ≤ 308 then (powerOfTen? up).bind start.mul?
      else if start.mantissa = 0 then some start
      else none
    | .negSucc down => shrink (down + 2) start (down + 1)
  pure { magnitude with negative := negative }

/-- Twice two: the number's half-gaps in quarters of its unit. The gap below a
power of two is half as wide, except at the bottom of the range. -/
def interval (number : Binary64) : Nat × Nat × Nat :=
  let centre := 4 * number.mantissa
  let below := if number.mantissa = Nat.pow 2 52 ∧ -1074 < number.exponent then 1 else 2
  (centre - below, centre, centre + 2)

/-- The multiple of `10^power` nearest to the number among those that round to
it, if there is one. -/
def multiple? (number : Binary64) (power : Int) : Option Nat :=
  let (low, centre, high) := number.interval
  let (unitTop, unitBottom) := scaled 1 1 (number.exponent - 2)
  let (gridTop, gridBottom) : Nat × Nat := match power with
    | .ofNat up => (Nat.pow 10 up, 1)
    | .negSucc down => (1, Nat.pow 10 (down + 1))
  let place (bound : Nat) : Nat := bound * unitTop * gridBottom
  let grid := gridTop * unitBottom
  let inside (candidate : Nat) : Bool :=
    if number.mantissa % 2 = 0 then
      place low ≤ candidate * grid && candidate * grid ≤ place high
    else place low < candidate * grid && candidate * grid < place high
  let down := place centre / grid
  let up := down + 1
  match decide (0 < down) && inside down, inside up with
  | true, true =>
    let lower := place centre - down * grid
    let upper := up * grid - place centre
    some (if lower < upper then down else if upper < lower then up else down + down % 2)
  | true, false => some down
  | false, true => some up
  | false, false => none

/-- Searches from a coarse grid to finer ones. -/
def shortestFrom (number : Binary64) : Nat → Int → Nat × Int
  | 0, power => (0, power)
  | fuel + 1, power =>
    match number.multiple? power with
    | some digits => (digits, power)
    | none => shortestFrom number fuel (power - 1)

/-- The fewest decimal digits that read back as the number, and their power of
ten. No number of the format needs a grid outside the searched range. -/
def shortest (number : Binary64) : Nat × Int := shortestFrom number 660 310

/-- The digits of a number and where the point stands behind them; zero is one
digit. -/
def digitsAndPoint (number : Binary64) : List Char × Int :=
  if number.mantissa = 0 then (['0'], 1)
  else
    let (significand, power) := number.shortest
    let digits := Nat.toDigits 10 significand
    (digits, digits.length + power)

/-- Digits with a point among them and at least one digit on each side of it. -/
def positional (digits : List Char) (point : Int) : List Char :=
  let zeros (count : Int) : List Char := List.replicate count.toNat '0'
  if digits.length ≤ point then digits ++ zeros (point - digits.length) ++ ['.', '0']
  else if 0 < point then digits.take point.toNat ++ '.' :: digits.drop point.toNat
  else '0' :: '.' :: (zeros (-point) ++ digits)

/-- Digits with a point behind the first, if there are more, and an exponent. -/
def scientific (plus : Bool) (digits : List Char) (point : Int) : List Char :=
  let exponent := 'e' :: (if plus ∧ 1 ≤ point then ['+'] else []) ++ (toString (point - 1)).toList
  match digits with
  | [single] => single :: exponent
  | first :: rest => first :: '.' :: (rest ++ exponent)
  | [] => exponent

/-- The sign of a number before its digits. -/
def signed (number : Binary64) (digits : List Char) : String :=
  String.ofList (if number.negative then '-' :: digits else digits)

/-- The short text of a number: positional for decimal points from -4 to 16, otherwise
scientific. A plus sign may stand before a positive exponent. -/
def shortText (plus : Bool) (number : Binary64) : String :=
  let (digits, point) := number.digitsAndPoint
  number.signed
    (if -5 < point ∧ point ≤ 16 then positional digits point else scientific plus digits point)

/-- The text of a number in documents and messages. -/
def text (number : Binary64) : String := number.shortText true

/-- The text of a number without an exponent. -/
def positionalText (number : Binary64) : String :=
  let (digits, point) := number.digitsAndPoint
  number.signed (positional digits point)

/-- The number nearest to a whole significand of so many digits with a power of ten;
none beyond the largest. Powers far outside of the format's range are not computed. -/
def ofDecimal? (negative : Bool) (significand digits : Nat) (power : Int) : Option Binary64 :=
  if significand = 0 then some (zero negative)
  else if 310 < digits + power then none
  else if digits + power < -330 then some (zero negative)
  else match power with
    | .ofNat up => ofQuotient negative (significand * Nat.pow 10 up) 1
    | .negSucc down => ofQuotient negative significand (Nat.pow 10 (down + 1))

end Binary64

end BucketMount
