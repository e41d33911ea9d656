import BucketMount.Log.Event
import BucketMount.Text.Alphanumeric
import BucketMount.Text.Blank

/-!
# Which events are written

A filter is a list of directives. Each allows the events of some targets up to a
level: a target is meant by the texts it begins with, so the empty text means
every target. The longest such text decides, and of two equal ones the last. A
target that no directive means is silent.

A filter is written as directives between commas. One malformed directive makes
the whole text malformed, and then the usual filter applies, as it does when
there is no text at all. The empty text is a filter that lets nothing through.
Directives about spans count as malformed here; a `Subscriber` leaves them to rules
of their own.
-/

namespace BucketMount.Log

/-- Allows the events of the targets that begin with a text up to a level; none
allows nothing. -/
structure Directive where
  target : String
  ceiling : Option Level
  deriving DecidableEq, Repr

/-- Directives in the order they were written. -/
abbrev Filter := List Directive

/-- The level with a number; no level has number zero. -/
def levelNumbered : Nat → Option (Option Level)
  | 0 => some none
  | 1 => some (some .error)
  | 2 => some (some .warn)
  | 3 => some (some .info)
  | 4 => some (some .debug)
  | 5 => some (some .trace)
  | _ => none

/-- The level with a name, in letters of any case. -/
def levelNamed (name : List Char) : Option (Option Level) :=
  match String.ofList (name.map Char.toLower) with
  | "off" => some none
  | "error" => some (some .error)
  | "warn" => some (some .warn)
  | "info" => some (some .info)
  | "debug" => some (some .debug)
  | "trace" => some (some .trace)
  | _ => none

/-- The number written in digits, with or without a plus sign. -/
def number? (characters : List Char) : Option Nat :=
  let digits := match characters with
    | '+' :: rest => rest
    | other => other
  if digits.isEmpty || digits.any (!·.isDigit) then none
  else some (digits.foldl (fun value digit => 10 * value + (digit.toNat - 48)) 0)

/-- The level that a text gives, by number or by name. -/
def level? (characters : List Char) : Option (Option Level) :=
  match number? characters with
  | some number => levelNumbered number
  | none => levelNamed characters

/-- True for a character that a directive may begin with. -/
def begins (character : Char) : Bool :=
  character == '-' || character == ':' || character == '_' || Text.alphanumeric character

/-- Reads one directive. Blanks around it do not count for how it begins, but
they are part of what it says. -/
def directive? (characters : List Char) : Option Directive :=
  match Text.trim characters with
  | [] => none
  | first :: _ =>
    if !begins first then none
    else
      let target := characters.takeWhile (· != '=')
      if target.contains '[' then none
      else match characters.dropWhile (· != '=') with
        | [] => match level? characters with
          | some ceiling => some ⟨"", ceiling⟩
          | none => some ⟨String.ofList characters, some .trace⟩
        | _ :: level =>
          if target.head? != some first then none
          else if level.isEmpty then some ⟨String.ofList target, some .trace⟩
          else (level? level).map fun ceiling => ⟨String.ofList target, ceiling⟩

namespace Filter

/-- Reads a filter: directives between commas, empty ones left out. -/
def ofText? (text : String) : Option Filter :=
  ((text.toList.splitOn ',').filter (!·.isEmpty)).mapM directive?

/-- The text of the usual filter. -/
def usualText : String := "info,cosi_node=debug,kube=info,tower=warn,hyper=warn"

/-- The usual filter. -/
def usual : Filter := [⟨"", some .info⟩, ⟨"cosi_node", some .debug⟩, ⟨"kube", some .info⟩,
  ⟨"tower", some .warn⟩, ⟨"hyper", some .warn⟩]

/-- The usual filter is what its text says. -/
theorem ofText?_usualText : ofText? usualText = some usual := by rfl

/-- The filter that a setting asks for: the usual one if there is no setting or a
malformed one. -/
def ofSetting (setting : Option String) : Filter := (setting.bind ofText?).getD usual

/-- True if a directive means a target. -/
def means (directive : Directive) (target : String) : Bool :=
  directive.target.toList.isPrefixOf target.toList

/-- The directive that decides about a target. -/
def deciding? (filter : Filter) (target : String) : Option Directive :=
  filter.foldl (fun chosen directive =>
    if means directive target && chosen.all fun (other : Directive) =>
        other.target.length ≤ directive.target.length
    then some directive else chosen) none

/-- True if a filter lets events of a target and a level through. -/
def allows (filter : Filter) (target : String) (level : Level) : Bool :=
  ((filter.deciding? target).bind Directive.ceiling).any fun ceiling => level.rank ≤ ceiling.rank

/-- An event as it is written, if at all. Its span is shown if the filter lets
spans through, which count as events of the information level. -/
def pass? (filter : Filter) (event : Event) : Option Event :=
  if filter.allows event.target event.level then
    some { event with span := event.span.filter fun span => filter.allows span.target .info }
  else none

end Filter

/-- How events are written. -/
inductive Style where
  | tree
  | line
  deriving DecidableEq, Repr

/-- A written event. -/
inductive Entry where
  | tree (value : Json)
  | line (text : String)

/-- Writes an event in a style. -/
def Style.entry : Style → Event → Entry
  | .tree, event => .tree event.tree
  | .line, event => .line event.line

/-- The events that a filter lets through, written in a style. -/
def written (style : Style) (filter : Filter) (events : List Event) : List Entry :=
  (events.filterMap filter.pass?).map style.entry

end BucketMount.Log
