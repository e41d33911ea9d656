import BucketMount.Text.Quoted
import BucketMount.Text.Visible

/-!
# Parameters of a command line

A parameter has a long name and perhaps a short one. It is a flag, or takes a
value, once or any number of times. A value is checked as it is met; the checks
here are those for whole numbers of 64 bits, for pairs, and for two words.

A usage error is told in one line, where the words of the user stand as they show.
Hints and the text on how to use a command come behind that line and are not
modelled.
-/

namespace BucketMount.CommandLine

/-- Why a command line makes no sense. -/
inductive UsageError where
  | unexpected (argument : String)
  | unknownCommand (name : String)
  | valueMissing (parameter : String)
  | badValue (value parameter complaint : String)
  | badChoice (value parameter : String)
  | repeated (parameter : String)
  | surplusValue (value parameter : String)
  | parameterMissing
  | commandMissing (description : String)
  deriving DecidableEq, Repr

/-- The line that tells an error. -/
def UsageError.line : UsageError → String
  | .unexpected argument => s!"error: unexpected argument '{Text.visible argument}' found"
  | .unknownCommand name => s!"error: unrecognized subcommand '{Text.visible name}'"
  | .valueMissing parameter =>
    s!"error: a value is required for '{parameter}' but none was supplied"
  | .badValue value parameter complaint =>
    s!"error: invalid value '{Text.visible value}' for '{parameter}': {complaint}"
  | .badChoice value parameter =>
    s!"error: invalid value '{Text.visible value}' for '{parameter}'"
  | .repeated parameter => s!"error: the argument '{parameter}' cannot be used multiple times"
  | .surplusValue value parameter =>
    s!"error: unexpected value '{Text.visible value}' for '{parameter}' found; " ++
      "no more were expected"
  | .parameterMissing => "error: the following required arguments were not provided:"
  | .commandMissing description => description

/-- What a parameter takes. -/
inductive Takes where
  | nothing
  | help
  | version
  | value (placeholder : String)
  | values (placeholder : String)
  deriving DecidableEq, Repr

/-- A parameter: its names, what it takes, and what is wrong with a value. -/
structure Parameter where
  long : String
  short : Option Char
  takes : Takes
  complaint? : String → Option String

namespace Parameter

/-- A parameter as errors show it. -/
def shown (parameter : Parameter) : String :=
  match parameter.takes with
  | .value placeholder | .values placeholder => "--" ++ parameter.long ++ " <" ++ placeholder ++ ">"
  | _ => "--" ++ parameter.long

/-- True if a value belongs to the parameter. -/
def takesValue (parameter : Parameter) : Bool :=
  match parameter.takes with
  | .value _ | .values _ => true
  | _ => false

end Parameter

/-- Why a text is no whole number of 64 bits. -/
inductive NumberFault where
  | empty
  | badDigit
  | tooLarge
  deriving DecidableEq, Repr

/-- The wording of a fault. -/
def NumberFault.message : NumberFault → String
  | .empty => "cannot parse integer from empty string"
  | .badDigit => "invalid digit found in string"
  | .tooLarge => "number too large to fit in target type"

/-- Takes one more digit. -/
def takeDigit (number : Nat) (digit : Char) : Except NumberFault Nat :=
  if !digit.isDigit then .error .badDigit
  else
    let next := 10 * number + (digit.toNat - 48)
    if 18446744073709551615 < next then .error .tooLarge else .ok next

/-- Reads a whole number of 64 bits: digits, perhaps behind a plus sign. -/
def wholeNumber (text : String) : Except NumberFault Nat :=
  match text.toList with
  | [] => .error .empty
  | ['+'] => .error .badDigit
  | '+' :: digits | digits => digits.foldlM takeDigit 0

/-- What is wrong with a text that should be a whole number. -/
def numberComplaint? (text : String) : Option String :=
  match wholeNumber text with
  | .ok _ => none
  | .error fault => some fault.message

/-- Reads a key and a value around the first equals sign. -/
def pair? (text : String) : Option (String × String) :=
  let key := text.toList.takeWhile (· != '=')
  match text.toList.drop key.length with
  | _ :: value => some (String.ofList key, String.ofList value)
  | [] => none

/-- What is wrong with a text that should be a key and a value. -/
def pairComplaint? (text : String) : Option String :=
  match pair? text with
  | some _ => none
  | none => some ("expected key=value, got " ++ Text.quoted text)

/-- Reads one of the two words of a flag. -/
def flagWord? : String → Option Bool
  | "true" => some true
  | "false" => some false
  | _ => none

end BucketMount.CommandLine
