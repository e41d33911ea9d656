import BucketMount.Proofs.FilterTexts
import Mathlib.Data.List.Induction

/-!
# Events that are written

A filter decides about an event by the longest of its targets that the event's target begins
with, and by the last one of two that are equal (`Filter.Passes`). A subscriber writes the
events that the filter in force lets through, in their order and each of them once, and
`events_filtered_alike` says that this holds whichever of the two layers it has.

Which events a filter lets through that speaks of spans or fields is up to the rules for these.
That it stands in front of the layers is not: every one of them writes the same events.
-/

namespace BucketMount.Log

/-! ## The deciding directive -/

namespace Filter

/-- A directive decides about a target if it means the target, none in front of it with a longer
text does, and none behind it with a text that is as long. -/
def Decides (filter : Filter) (directive : Directive) (target : String) : Prop :=
  ∃ front back, filter = front ++ directive :: back ∧
    directive.target.toList <+: target.toList ∧
    (∀ other ∈ front, other.target.toList <+: target.toList →
      other.target.length ≤ directive.target.length) ∧
    ∀ other ∈ back, other.target.toList <+: target.toList →
      other.target.length < directive.target.length

/-- A filter lets a target through at a level if the directive that decides about the target
allows that level. -/
def Passes (filter : Filter) (target : String) (level : Level) : Prop :=
  ∃ directive, filter.Decides directive target ∧
    ∃ ceiling, directive.ceiling = some ceiling ∧ level.rank ≤ ceiling.rank

/-- A directive means the targets that begin with its text. -/
theorem means_iff (directive : Directive) (target : String) :
    means directive target = true ↔ directive.target.toList <+: target.toList :=
  List.isPrefixOf_iff_prefix

/-- One more directive decides if it means the target and is as long as the one that decided
before; otherwise it changes nothing. -/
theorem deciding?_snoc (filter : Filter) (directive : Directive) (target : String) :
    deciding? (filter ++ [directive]) target =
      if means directive target = true ∧ ∀ other, filter.deciding? target = some other →
          other.target.length ≤ directive.target.length
      then some directive else filter.deciding? target := by
  have last : deciding? (filter ++ [directive]) target =
      if means directive target && (filter.deciding? target).all fun (other : Directive) =>
          other.target.length ≤ directive.target.length
      then some directive else filter.deciding? target := by
    rw [deciding?, List.foldl_append]
    rfl
  rw [last]
  refine if_congr ?_ rfl rfl
  simp [Option.all_eq_true]

/-- No directive that means the target is longer than the one that decides. -/
theorem Decides.longest {filter : Filter} {directive : Directive} {target : String}
    (decides : filter.Decides directive target) :
    ∀ other ∈ filter, other.target.toList <+: target.toList →
      other.target.length ≤ directive.target.length := by
  obtain ⟨front, back, rfl, _, before, behind⟩ := decides
  intro other listed meant
  rcases List.mem_append.mp listed with inFront | inBack
  · exact before other inFront meant
  · rcases List.mem_cons.mp inBack with rfl | inBack
    · exact le_refl _
    · exact (behind other inBack meant).le

/-- The one that decides is the only one that does. -/
theorem Decides.unique {filter : Filter} {directive other : Directive} {target : String}
    (decides : filter.Decides directive target) (otherDecides : filter.Decides other target) :
    directive = other := by
  have least := decides.longest
  have otherLeast := otherDecides.longest
  obtain ⟨front, back, rfl, meant, _, behind⟩ := decides
  obtain ⟨otherFront, otherBack, same, otherMeant, _, otherBehind⟩ := otherDecides
  have shorter := otherLeast directive (by simp) meant
  have longer := least other (by simp [same]) otherMeant
  rcases List.append_eq_append_iff.mp same with ⟨between, _, split⟩ | ⟨between, _, split⟩
  · rcases between with _ | ⟨first, between⟩
    · exact (List.cons.inj split).1
    · have inBack : other ∈ back := by
        rw [(List.cons.inj split).2]
        simp
      exact absurd (behind other inBack otherMeant) (by omega)
  · rcases between with _ | ⟨first, between⟩
    · exact (List.cons.inj split).1.symm
    · have inBack : directive ∈ otherBack := by
        rw [(List.cons.inj split).2]
        simp
      exact absurd (otherBehind directive inBack meant) (by omega)

/-- The directive that is found decides, and if none is found, none means the target.

The proof is by induction on the directives from the last one: either it decides from now on, or
the one that decided before still does, which is longer if the last one means the target. -/
theorem deciding?_decides (filter : Filter) (target : String) :
    (∀ directive, filter.deciding? target = some directive → filter.Decides directive target) ∧
      (filter.deciding? target = none →
        ∀ directive ∈ filter, ¬ directive.target.toList <+: target.toList) := by
  induction filter using List.reverseRecOn with
  | nil =>
    constructor
    · intro _ found
      cases found
    · simp
  | append_singleton filter last inductionHypothesis =>
    obtain ⟨decides, silent⟩ := inductionHypothesis
    rw [deciding?_snoc]
    by_cases taken : means last target = true ∧
        ∀ other, deciding? filter target = some other → other.target.length ≤ last.target.length
    · rw [if_pos taken]
      refine ⟨fun directive found => ?_, fun found => by cases found⟩
      obtain rfl := Option.some.inj found
      refine ⟨filter, [], rfl, (means_iff _ _).mp taken.1, fun other listed meant => ?_, by simp⟩
      cases before : deciding? filter target with
      | none => exact absurd meant (silent before other listed)
      | some longest =>
        exact ((decides longest before).longest other listed meant).trans (taken.2 longest before)
    · rw [if_neg taken]
      constructor
      · intro directive found
        obtain ⟨front, back, same, meant, before, behind⟩ := decides directive found
        refine ⟨front, back ++ [last], by simp [same], meant, before, ?_⟩
        rw [List.forall_mem_append, List.forall_mem_singleton]
        refine ⟨behind, fun lastMeant => ?_⟩
        by_contra longer
        refine taken ⟨(means_iff _ _).mpr lastMeant, fun other otherFound => ?_⟩
        obtain rfl := Option.some.inj (found.symm.trans otherFound)
        omega
      · intro found
        rw [List.forall_mem_append, List.forall_mem_singleton]
        refine ⟨silent found, fun lastMeant => ?_⟩
        refine taken ⟨(means_iff _ _).mpr lastMeant, fun other otherFound => ?_⟩
        rw [found] at otherFound
        cases otherFound

/-- Exactly the directive is found that decides. -/
theorem deciding?_iff {filter : Filter} {directive : Directive} {target : String} :
    filter.deciding? target = some directive ↔ filter.Decides directive target := by
  obtain ⟨decides, silent⟩ := deciding?_decides filter target
  refine ⟨decides directive, fun decided => ?_⟩
  cases found : filter.deciding? target with
  | none =>
    obtain ⟨front, back, rfl, meant, _⟩ := decided
    exact absurd meant (silent found directive (by simp))
  | some other => rw [(decides other found).unique decided]

/-- A filter lets exactly those targets and levels through that pass it. -/
theorem allows_iff {filter : Filter} {target : String} {level : Level} :
    filter.allows target level = true ↔ filter.Passes target level := by
  simp only [allows, Passes, ← deciding?_iff, Option.any_eq_true, Option.bind_eq_some_iff,
    decide_eq_true_eq]
  constructor
  · rintro ⟨ceiling, ⟨directive, found, allowed⟩, low⟩
    exact ⟨directive, found, ceiling, allowed, low⟩
  · rintro ⟨directive, found, ceiling, allowed, low⟩
    exact ⟨ceiling, ⟨directive, found, allowed⟩, low⟩

end Filter

/-! ## What is let through -/

namespace SpanRules

variable {Rule : Type} (rules : SpanRules Rule)

/-- A filter lets an event through if its target and level pass the directives, or by the rules
for spans and fields if a directive speaks of these. -/
inductive Lets (directives : List (Directive ⊕ Rule)) (event : Event) : Prop where
  | plain {filter : Filter} (plain : directives = filter.map .inl)
    (passes : filter.Passes event.target event.level) : Lets directives event
  | spans {rule : Rule} (speaks : .inr rule ∈ directives)
    (admits : rules.admits directives event = true) : Lets directives event

/-- Directives are all about targets, or one of them speaks of spans or fields. -/
theorem mapM_getLeft? (directives : List (Directive ⊕ Rule)) :
    (∃ filter, directives = filter.map .inl ∧ directives.mapM Sum.getLeft? = some filter) ∨
      (∃ rule, .inr rule ∈ directives) ∧ directives.mapM Sum.getLeft? = none := by
  induction directives with
  | nil => exact .inl ⟨[], rfl, rfl⟩
  | cons first rest inductionHypothesis =>
    rcases first with directive | rule
    · rcases inductionHypothesis with ⟨filter, rfl, taken⟩ | ⟨⟨rule, speaks⟩, taken⟩
      · exact .inl ⟨directive :: filter, rfl, by simp [taken]⟩
      · exact .inr ⟨⟨rule, by simp [speaks]⟩, by simp [taken]⟩
    · exact .inr ⟨⟨rule, by simp⟩, by simp⟩

/-- Exactly those events are let through. -/
theorem lets_iff {directives : List (Directive ⊕ Rule)} {event : Event} :
    rules.lets directives event = true ↔ rules.Lets directives event := by
  rcases mapM_getLeft? directives with ⟨filter, rfl, taken⟩ | ⟨⟨rule, speaks⟩, taken⟩
  · rw [lets, taken, Filter.allows_iff]
    refine ⟨.plain rfl, fun lets => ?_⟩
    cases lets with
    | plain same passes => rwa [List.map_injective_iff.mpr Sum.inl_injective same]
    | spans speaks => simp at speaks
  · rw [lets, taken]
    refine ⟨.spans speaks, fun lets => ?_⟩
    cases lets with
    | plain same => simp [same] at speaks
    | spans _ admits => exact admits

instance (directives : List (Directive ⊕ Rule)) : DecidablePred (rules.Lets directives) :=
  fun _ => decidable_of_iff _ rules.lets_iff

/-! ## Steps and runs -/

/-- Each layer writes an event that is let through behind what has been written, and nothing is
written of any other event. -/
theorem receive_entries (subscriber : Subscriber Rule) (entries : List Entry) (event : Event) :
    rules.receive subscriber entries event =
      entries ++ if rules.Lets subscriber.filter event then
        subscriber.layers.map fun style => style.entry (rules.shown subscriber.filter event)
      else [] := by
  have layers (event : Event) (styles : List Style) (entries : List Entry) :
      styles.foldl (fun entries style => entries ++ [style.entry event]) entries =
        entries ++ styles.map fun style => style.entry event := by
    induction styles generalizing entries with
    | nil => simp
    | cons style rest inductionHypothesis =>
      rw [List.foldl_cons, inductionHypothesis, List.append_assoc]
      rfl
  by_cases passes : rules.Lets subscriber.filter event
  · rw [receive, if_pos (rules.lets_iff.mpr passes), if_pos passes, layers]
  · rw [receive, if_neg (rules.lets_iff.not.mpr passes), if_neg passes, List.append_nil]

/-- Of a run of events those are written that are let through, in their order, and by each
layer. -/
theorem foldl_receive (subscriber : Subscriber Rule) (events : List Event)
    (entries : List Entry) :
    events.foldl (rules.receive subscriber) entries =
      entries ++ (events.filter (rules.Lets subscriber.filter ·)).flatMap fun event =>
        subscriber.layers.map fun style => style.entry (rules.shown subscriber.filter event) := by
  induction events generalizing entries with
  | nil => simp
  | cons event rest inductionHypothesis =>
    rw [List.foldl_cons, inductionHypothesis, receive_entries]
    by_cases passes : rules.Lets subscriber.filter event <;> simp [passes]

/-- The subscriber that a setting asks for has one layer, and it writes the events that the
filter of the setting lets through. -/
theorem write_subscriber (treeLog : Bool) (setting : Option String) (events : List Event) :
    rules.write (rules.subscriber treeLog setting) events =
      (events.filter (rules.Lets (rules.ofSetting setting) ·)).map fun event =>
        (if treeLog then Style.tree else .line).entry
          (rules.shown (rules.ofSetting setting) event) := by
  rw [write, foldl_receive, List.nil_append, List.map_eq_flatMap]
  cases treeLog <;> rfl

/-- Where no directive speaks of spans and fields, a subscriber writes what a logger does. -/
theorem write_plain {setting : Option String} {filter : Filter}
    (plain : rules.ofSetting setting = filter.map .inl) (treeLog : Bool) (events : List Event) :
    rules.write (rules.subscriber treeLog setting) events =
      Logger.write ⟨if treeLog then .tree else .line, filter⟩ events := by
  have taken : (filter.map (Sum.inl : Directive → Directive ⊕ Rule)).mapM Sum.getLeft? =
      some filter := by
    clear plain
    induction filter with
    | nil => rfl
    | cons directive rest inductionHypothesis => simp [inductionHypothesis]
  have lets (event : Event) : rules.Lets (filter.map .inl) event ↔
      filter.allows event.target event.level = true := by
    rw [← lets_iff, SpanRules.lets, taken]
  have shows : rules.shows (filter.map .inl) = fun span => filter.allows span.target .info := by
    funext span
    rw [SpanRules.shows, taken]
  have passed : events.filterMap filter.pass? =
      (events.filter (rules.Lets (filter.map .inl) ·)).map (rules.shown (filter.map .inl)) := by
    clear plain
    induction events with
    | nil => rfl
    | cons event rest inductionHypothesis =>
      by_cases passes : filter.allows event.target event.level = true
      · have opened : filter.pass? event = some (rules.shown (filter.map .inl) event) := by
          rw [Filter.pass?, if_pos passes, shown, shows]
        rw [List.filterMap_cons_some opened, inductionHypothesis, List.filter_cons_of_pos,
          List.map_cons]
        exact decide_eq_true ((lets event).mpr passes)
      · have stopped : filter.pass? event = none := by rw [Filter.pass?, if_neg passes]
        rw [List.filterMap_cons_none stopped, inductionHypothesis, List.filter_cons_of_neg]
        simpa using (lets event).not.mpr passes
  rw [write_subscriber, plain, Logger.write, written, passed, List.map_map]
  rfl

/-- If no directive about spans and fields can be read, they are malformed, as they are for a
logger. -/
theorem unread_ofSetting (setting : Option String) :
    unread.ofSetting setting = (Filter.ofSetting setting).map .inl := by
  have each (characters : List Char) :
      unread.directive? characters = (Log.directive? characters).map .inl := by
    rw [directive?]
    split
    case isFalse => rfl
    case isTrue brackets =>
      cases read : Log.directive? characters with
      | none => rfl
      | some directive =>
        rw [says_unbracketed (Log.directive?_iff.mp read)] at brackets
        cases brackets
  have whole (pieces : List (List Char)) :
      pieces.mapM unread.directive? = (pieces.mapM Log.directive?).map (List.map .inl) := by
    induction pieces with
    | nil => rfl
    | cons piece rest inductionHypothesis =>
      rw [List.mapM_cons, List.mapM_cons, each, inductionHypothesis]
      cases Log.directive? piece <;> cases rest.mapM Log.directive? <;> rfl
  have read (text : String) :
      unread.ofText? text = (Filter.ofText? text).map (List.map .inl) := whole (pieces text)
  rw [ofSetting, ofTextLossy_usual, Filter.ofSetting]
  cases setting with
  | none => rfl
  | some text =>
    rw [Option.bind_some, Option.bind_some, read]
    cases Filter.ofText? text <;> rfl

end SpanRules

/-- Filters are taken as a whole, and they are the same for trees and for lines. Under every
setting exactly one filter is in force: what the text says if all of its directives are
well-formed, and what the usual text says if there is no text or one of its directives is
malformed. A subscriber that writes trees and one that writes lines write the same events, which
are those that this filter lets through, each of them once and in their order. So a malformed
text is as good as none, whatever its other directives say. All this holds whichever way
directives about spans and fields are read; if they cannot be read, a subscriber writes what a
logger does.

Proof: a subscriber is asked for with one layer, which writes each event that the filter in front
of it lets through; a run adds up such steps. -/
theorem events_filtered_alike :
    (∀ {Rule : Type} (rules : SpanRules Rule) (setting : Option String),
      ∃ directives, rules.InForce setting directives ∧
        (∀ others, rules.InForce setting others → others = directives) ∧
        ∀ events : List Event,
          let passed := events.filter (rules.Lets directives ·)
          rules.write (rules.subscriber true setting) events =
              passed.map (fun event => .tree (rules.shown directives event).tree) ∧
            rules.write (rules.subscriber false setting) events =
              passed.map (fun event => .line (rules.shown directives event).line)) ∧
    (∀ {Rule : Type} (rules : SpanRules Rule) (text : String), rules.Malformed text →
      ∀ treeLog events, rules.write (rules.subscriber treeLog (some text)) events =
        rules.write (rules.subscriber treeLog none) events) ∧
    ∀ treeLog setting events,
      SpanRules.unread.write (SpanRules.unread.subscriber treeLog setting) events =
        Logger.write ⟨if treeLog then .tree else .line, .ofSetting setting⟩ events := by
  refine ⟨fun rules setting => ?_, fun rules text malformed treeLog events => ?_, ?_⟩
  · refine ⟨rules.ofSetting setting, rules.inForce_iff.mpr rfl,
      fun others inForce => rules.inForce_iff.mp inForce, fun events => ⟨?_, ?_⟩⟩
    · exact rules.write_subscriber true setting events
    · exact rules.write_subscriber false setting events
  · have unset : rules.ofSetting (some text) = rules.ofSetting none := by
      rw [SpanRules.ofSetting, Option.bind_some, rules.ofText?_none_iff.mpr malformed]
      rfl
    rw [rules.write_subscriber, rules.write_subscriber, unset]
  · intro treeLog setting events
    exact SpanRules.unread.write_plain (SpanRules.unread_ofSetting setting) treeLog events

/-- Two events of one target. -/
def quietEvents : List Event :=
  [⟨.trace, "cosi_node::resolver", "looking up", [], none⟩,
    ⟨.debug, "cosi_node::resolver", "found", [], none⟩]

/-- One directive lets both events through. Behind it stands another that is malformed, and then
only those are written in either style that the usual filter lets through. -/
theorem malformed_text_unused :
    let rules := SpanRules.unread
    rules.write (rules.subscriber true (some "cosi_node=trace")) quietEvents =
        quietEvents.map (fun event => .tree event.tree) ∧
      rules.Malformed "cosi_node=trace,=debug" ∧
      (rules.write (rules.subscriber true (some "cosi_node=trace,=debug")) quietEvents =
        quietEvents.tail.map fun event => .tree event.tree) ∧
      rules.write (rules.subscriber false (some "cosi_node=trace,=debug")) quietEvents =
        quietEvents.tail.map fun event => .line event.line := by
  intro rules
  obtain ⟨_, unused, _⟩ := events_filtered_alike
  have malformed : rules.Malformed "cosi_node=trace,=debug" :=
    rules.ofText?_none_iff.mp (by rfl)
  refine ⟨rfl, malformed, ?_, ?_⟩
  · rw [unused rules _ malformed]
    rfl
  · rw [unused rules _ malformed]
    rfl

end BucketMount.Log
