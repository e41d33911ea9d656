import BucketMount.Log.Install

/-!
# Subscribers

A subscriber has one filter and, behind it, layers that write. An event that the filter stops
reaches none of them, and one that it lets through reaches each of them in turn. There is a
layer for each style; the one that is not wanted is absent.

Directives may also speak of spans and fields, in brackets. What those say is left open:
`SpanRules` tells how they are read and what a filter that has one of them lets through. A
`Logger` is what is left when none of them can be read.

The text of a filter can be read as a whole, where one malformed directive is enough to refuse
it, or as far as it is well-formed, where malformed directives are passed over. A setting is
read as a whole. The usual text is read the other way, which cannot fail.
-/

namespace BucketMount.Log

/-- The directives in the text of a filter. They stand between commas, and empty ones are left
out. -/
def pieces (text : String) : List (List Char) :=
  (text.toList.splitOn ',').filter (!·.isEmpty)

/-- True for a directive that speaks of spans or fields: a bracket opens in front of its
level. -/
def bracketed (characters : List Char) : Bool := (characters.takeWhile (· != '=')).contains '['

/-- How directives about spans and fields are read, which events a filter with such a directive
lets through, and which spans. -/
structure SpanRules (Rule : Type) where
  read : List Char → Option Rule
  admits : List (Directive ⊕ Rule) → Event → Bool
  opens : List (Directive ⊕ Rule) → Span → Bool

namespace SpanRules

/-- No directive about spans or fields can be read. -/
def unread : SpanRules Empty := ⟨fun _ => none, fun _ _ => false, fun _ _ => false⟩

variable {Rule : Type} (rules : SpanRules Rule)

/-- Reads one directive of either sort. -/
def directive? (characters : List Char) : Option (Directive ⊕ Rule) :=
  if bracketed characters then (rules.read characters).map .inr
  else (Log.directive? characters).map .inl

/-- Reads a filter as a whole. -/
def ofText? (text : String) : Option (List (Directive ⊕ Rule)) :=
  (pieces text).mapM rules.directive?

/-- Reads a filter as far as it is well-formed. A filter of which nothing is left lets errors
through. -/
def ofTextLossy (text : String) : List (Directive ⊕ Rule) :=
  match (pieces text).filterMap rules.directive? with
  | [] => [.inl ⟨"", some .error⟩]
  | directives => directives

/-- The filter that a setting asks for: the usual one if there is no setting or a malformed
one. -/
def ofSetting (setting : Option String) : List (Directive ⊕ Rule) :=
  (setting.bind rules.ofText?).getD (rules.ofTextLossy Filter.usualText)

/-- True if a filter lets an event through. -/
def lets (directives : List (Directive ⊕ Rule)) (event : Event) : Bool :=
  match directives.mapM Sum.getLeft? with
  | some filter => Filter.allows filter event.target event.level
  | none => rules.admits directives event

/-- True if a filter lets a span through. Spans count as events of the information level. -/
def shows (directives : List (Directive ⊕ Rule)) (span : Span) : Bool :=
  match directives.mapM Sum.getLeft? with
  | some filter => Filter.allows filter span.target .info
  | none => rules.opens directives span

/-- An event as layers see it: in no span, unless the filter lets the span through. -/
def shown (directives : List (Directive ⊕ Rule)) (event : Event) : Event :=
  { event with span := event.span.filter (rules.shows directives) }

end SpanRules

/-- A filter and the styles of the layers behind it. -/
structure Subscriber (Rule : Type) where
  filter : List (Directive ⊕ Rule)
  layers : List Style

namespace SpanRules

variable {Rule : Type} (rules : SpanRules Rule)

/-- The subscriber that a setting asks for, with a layer that writes trees or one that writes
lines. -/
def subscriber (treeLog : Bool) (setting : Option String) : Subscriber Rule :=
  let trees := if treeLog then some Style.tree else none
  let lines := if !treeLog then some Style.line else none
  ⟨rules.ofSetting setting, trees.toList ++ lines.toList⟩

/-- What has been written when one more event has been received. -/
def receive (subscriber : Subscriber Rule) (entries : List Entry) (event : Event) : List Entry :=
  if rules.lets subscriber.filter event then
    let event := rules.shown subscriber.filter event
    subscriber.layers.foldl (fun entries style => entries ++ [style.entry event]) entries
  else entries

/-- What a subscriber writes of events. -/
def write (subscriber : Subscriber Rule) (events : List Event) : List Entry :=
  events.foldl (rules.receive subscriber) []

end SpanRules

end BucketMount.Log
