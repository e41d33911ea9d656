import BucketMount.Json.Basic
import BucketMount.Text.Quoted

/-!
# Log events

An event has a level, a target that says which part of the library speaks, a
message and fields. It may stand inside a span, which names the operation in
progress and its arguments. An event is written as a tree or as a line; both show
the same things. Times are not modelled.

In a line the message cannot move the cursor or change colours: controls that a
terminal obeys are shown as escapes. Fields stand as they are.
-/

namespace BucketMount.Log

/-- How urgent an event is, the most urgent first. -/
inductive Level where
  | error
  | warn
  | info
  | debug
  | trace
  deriving DecidableEq, Repr

namespace Level

/-- The place of a level among the levels, from one. -/
def rank : Level → Nat
  | .error => 1
  | .warn => 2
  | .info => 3
  | .debug => 4
  | .trace => 5

/-- The word for a level. -/
def word : Level → String
  | .error => "ERROR"
  | .warn => "WARN"
  | .info => "INFO"
  | .debug => "DEBUG"
  | .trace => "TRACE"

end Level

/-- The value of a field: something already put into words, a text that lines
show in quotes, or a flag. -/
inductive Value where
  | shown (text : String)
  | text (value : String)
  | flag (value : Bool)
  deriving DecidableEq, Repr

namespace Value

/-- A value in a tree. -/
def tree : Value → Json
  | .shown words => .string words
  | .text value => .string value
  | .flag value => .boolean value

/-- A value in a line. -/
def line : Value → String
  | .shown words => words
  | .text value => Text.quoted value
  | .flag value => if value then "true" else "false"

end Value

/-- An operation in progress and its arguments. -/
structure Span where
  name : String
  target : String
  arguments : List (String × String)
  deriving DecidableEq, Repr

namespace Span

/-- A span in a tree. Its own name hides an argument called by that word. -/
def tree (span : Span) : Json :=
  let shown := span.arguments.filter fun argument => argument.1 != "name"
  .object (("name", .string span.name) :: shown.map fun argument =>
    (argument.1, .string argument.2)) none

/-- A span in a line. -/
def line (span : Span) : String :=
  let shown := span.arguments.map fun argument => argument.1 ++ "=" ++ Text.quoted argument.2
  span.name ++ "\x7b" ++ " ".intercalate shown ++ "\x7d: "

end Span

/-- Something that happened. -/
structure Event where
  level : Level
  target : String
  message : String
  fields : List (String × Value)
  span : Option Span
  deriving DecidableEq, Repr

/-- A character of a message as a line shows it. -/
def harmless (character : Char) : List Char :=
  let code := character.toNat
  if code = 0x1b ∨ code = 0x07 ∨ code = 0x08 ∨ code = 0x0c ∨ code = 0x7f then
    '\\' :: 'x' :: Nat.toDigits 16 (code / 16) ++ Nat.toDigits 16 (code % 16)
  else if 0x80 ≤ code ∧ code ≤ 0x9f then
    '\\' :: 'u' :: '\x7b' :: Nat.toDigits 16 code ++ ['\x7d']
  else [character]

namespace Event

/-- An event as a tree. -/
def tree (event : Event) : Json :=
  let fields := ("message", .string event.message)
    :: event.fields.map fun field => (field.1, field.2.tree)
  let span := match event.span with
    | some span => [("span", span.tree)]
    | none => []
  .object (("level", .string event.level.word) :: ("target", .string event.target)
    :: ("fields", .object fields none) :: span) none

/-- An event as a line. -/
def line (event : Event) : String :=
  let level := event.level.word
  let fields := event.fields.map fun field => " " ++ field.1 ++ "=" ++ field.2.line
  let span := match event.span with
    | some span => span.line
    | none => ""
  String.ofList (List.replicate (5 - level.length) ' ') ++ level ++ " " ++ span
    ++ event.target ++ ": " ++ String.ofList (event.message.toList.flatMap harmless)
    ++ String.join fields

end Event

end BucketMount.Log
