import BucketMount.Proofs.EncodedText
import BucketMount.Proofs.LiteralGates

/-!
# Fields that are read and written again

An object that is replaced as a whole goes through its record: its members are decoded to
fields, and the fields are written as members of a new object. `Field.Rewrites` says what
becomes of one member on this way, whether it was there or not. What it comes to depends on
the sort of the field. A member that may be unset stays unless it is null, one with a
default is there in any case, one that is left out while it is empty is there only if it
is not, and the entries of a dictionary stay one by one.

`Record.Rewrites` puts the members of an object together: each is rewritten by its field,
and a member of no field is not there any more. Lists of records, times and trees of any
shape are written in a form of their own, of which nothing is said here beyond that it
is the form of what was decoded.
-/

namespace BucketMount

/-! ## Dictionaries -/

namespace Dictionary

variable {α : Type}

/-- The value of a key behind the entries of a list is the last one there, or else the one
before. -/
def lastValue (key : String) (before : Option α) (entries : List (String × α)) : Option α :=
  entries.foldl (fun found entry => if entry.1 = key then some entry.2 else found) before

/-- Collected entries have the last value of each key. -/
theorem get?_ofList (entries : List (String × α)) (key : String) :
    (ofList entries).get? key = lastValue key none entries := by
  have collected (start : Dictionary α) :
      (entries.foldl (fun dictionary entry => dictionary.insert entry.1 entry.2) start).get? key =
        lastValue key (start.get? key) entries := by
    induction entries generalizing start with
    | nil => rfl
    | cons entry rest inductionHypothesis =>
      rw [List.foldl_cons, inductionHypothesis, get?_insert]
      rfl
  exact collected empty

/-- The members that are made of entries are found as the values are. -/
theorem member?_map (image : α → Json) (key : String) (entries : List (String × α)) :
    Json.member? key (entries.map fun entry => (entry.1, image entry.2)) =
      (lastValue key none entries).map image := by
  have carried (found : Option α) :
      (entries.map fun entry => (entry.1, image entry.2)).foldl
        (fun found entry => if entry.1 = key then some entry.2 else found) (found.map image) =
      (lastValue key found entries).map image := by
    induction entries generalizing found with
    | nil => rfl
    | cons entry rest inductionHypothesis =>
      by_cases same : entry.1 = key
      · simpa [lastValue, same] using inductionHypothesis (some entry.2)
      · simpa [lastValue, same] using inductionHypothesis found
  exact carried none

end Dictionary

/-! ## Formats that write what was read -/

namespace Format

variable {α : Type}

/-- A value is written as the tree that it was read from. -/
def Faithful (format : Format α) : Prop :=
  ∀ tree value, format.decode .text tree = .ok value → format.encode value = tree

/-- Texts are written as they were read. -/
theorem string_faithful : string.Faithful := fun tree value decoded =>
  ((string_decode_iff .text tree value).mp decoded).symm

/-- Flags are written as they were read. -/
theorem boolean_faithful : boolean.Faithful := fun tree value decoded =>
  ((boolean_decode_iff .text tree value).mp decoded).symm

/-- A whole number is read from itself, and lies between the bounds. -/
theorem whole_decoded {low high : Int} {expected : String} {source : Source} {tree : Json}
    {value : Int} (decoded : (whole low high expected).decode source tree = .ok value) :
    tree = .number (.whole value) ∧ low ≤ value ∧ value ≤ high := by
  rcases tree with _ | _ | (number | _) | _ | _ | _ | _
  case number.whole =>
    by_cases within : low ≤ number ∧ number ≤ high
    · simp only [whole, if_pos within, Except.ok.injEq] at decoded
      exact decoded ▸ ⟨rfl, within⟩
    · simp [whole, within] at decoded
  all_goals simp [whole] at decoded

/-- Whole numbers are written as they were read. -/
theorem integer_faithful : integer.Faithful := fun _ _ decoded => (whole_decoded decoded).1.symm

/-- Lists are written as they were read if their items are. -/
theorem list_faithful {inner : Format α} (faithful : inner.Faithful) : inner.list.Faithful := by
  have itemwise (items : List Json) (values : List α)
      (decoded : decodeItems inner .text items = .ok values) : values.map inner.encode = items := by
    induction items generalizing values with
    | nil => simp_all [decodeItems]
    | cons item rest inductionHypothesis =>
      obtain ⟨value, first, decoded⟩ := (Record.then_ok_iff _ _ _).mp decoded
      obtain ⟨others, later, decoded⟩ := (Record.then_ok_iff _ _ _).mp decoded
      obtain rfl := Except.ok.inj decoded
      rw [List.map_cons, faithful item value first, inductionHypothesis others later]
  intro tree values decoded
  rcases tree with _ | _ | _ | _ | ⟨items, tail⟩ | _ | _
  case array =>
    obtain ⟨decodedValues, itemsDecoded, decoded⟩ := (Record.then_ok_iff _ _ _).mp decoded
    obtain ⟨_, closed, decoded⟩ := (Record.then_ok_iff _ _ _).mp decoded
    obtain rfl := Except.ok.inj decoded
    cases tail with
    | none => exact congrArg (Json.array · none) (itemwise items decodedValues itemsDecoded)
    | some cause => simp [Json.close] at closed
  all_goals simp [list] at decoded

/-- The entries of a dictionary of texts are written as they were read, of several with one
key the last. -/
theorem texts_entries {tree : Json} {values : Dictionary String}
    (decoded : (dictionary string).decode .text tree = .ok values) (key : String) :
    ((dictionary string).encode values).get? key = tree.get? key := by
  have entrywise (members : List (String × Json)) (entries : List (String × String))
      (decoded : decodeEntries string .text members = .ok entries) :
      members = entries.map fun entry => (entry.1, Json.string entry.2) := by
    induction members generalizing entries with
    | nil => simp_all [decodeEntries]
    | cons member rest inductionHypothesis =>
      obtain ⟨name, item⟩ := member
      obtain ⟨text, first, decoded⟩ := (Record.then_ok_iff _ _ _).mp decoded
      obtain ⟨others, later, decoded⟩ := (Record.then_ok_iff _ _ _).mp decoded
      obtain rfl := Except.ok.inj decoded
      rw [List.map_cons, ← inductionHypothesis others later,
        (string_decode_iff .text item text).mp first]
  rcases tree with _ | _ | _ | _ | _ | ⟨members, tail⟩ | _
  case object =>
    obtain ⟨entries, membersDecoded, decoded⟩ := (Record.then_ok_iff _ _ _).mp decoded
    obtain ⟨_, _, decoded⟩ := (Record.then_ok_iff _ _ _).mp decoded
    obtain rfl := Except.ok.inj decoded
    have writtenValue := Dictionary.get?_ofList (Dictionary.ofList entries).entries key
    rw [Dictionary.ofList_entries, Dictionary.get?_ofList] at writtenValue
    rw [entrywise members entries membersDecoded]
    simp only [dictionary, Json.get?]
    exact (Dictionary.member?_map Json.string key _).trans
      ((congrArg _ writtenValue.symm).trans (Dictionary.member?_map Json.string key entries).symm)
  all_goals simp [dictionary] at decoded

end Format

/-! ## Fields -/

namespace Field

variable {R V : Type} {key : String} {description : Option String} {format : Format V}
  {old new : Option Json}

/-- The value of a field that is read from a member, or from none. -/
def Reads (field : Field R) (old : Option Json) (value : field.Value) : Prop :=
  match old with
  | some item => field.format.decode .text item = .ok value
  | none => field.absent = some value

/-- What becomes of a member that is read as a field and written again: the value that it is
decoded to, or else the default, is written unless it is left out. -/
def Rewrites (field : Field R) (old new : Option Json) : Prop :=
  ∃ value, field.Reads old value ∧
    new = if field.omits value then none else some (field.format.encode value)

section Optional

variable {get : R → Option V} {set : R → Option V → R}

/-- A member that may be unset is written as what it was decoded to, unless it is null. -/
theorem rewrites_optional_iff :
    (optional key description format get set).Rewrites old new ↔
      old.filter (· != .null) = none ∧ new = none ∨
      ∃ item value, old = some item ∧ item ≠ .null ∧ format.decode .text item = .ok value ∧
        new = some (format.encode value) := by
  cases old with
  | none =>
    constructor
    · rintro ⟨value, absent, rfl⟩
      obtain rfl : none = value := Option.some.inj absent
      exact .inl ⟨rfl, rfl⟩
    · rintro (⟨_, rfl⟩ | ⟨_, _, impossible, _⟩)
      · exact ⟨none, rfl, rfl⟩
      · cases impossible
  | some item =>
    constructor
    · rintro ⟨value, decoded, rfl⟩
      rcases (Format.optional_decode_iff _ _ _ _).mp decoded with
        ⟨rfl, rfl⟩ | ⟨filled, part, partDecoded, rfl⟩
      · exact .inl ⟨rfl, rfl⟩
      · exact .inr ⟨item, part, rfl, filled, partDecoded, rfl⟩
    · rintro (⟨unset, rfl⟩ | ⟨other, value, same, filled, decoded, rfl⟩)
      · obtain rfl : item = .null := by simpa using unset
        exact ⟨none, rfl, rfl⟩
      · obtain rfl := Option.some.inj same
        exact ⟨some value,
          (Format.optional_decode_iff _ _ _ _).mpr (.inr ⟨filled, value, decoded, rfl⟩), rfl⟩

/-- A member that may be unset stays as it is, unless it is null. -/
theorem Rewrites.kept (rewrites : (optional key description format get set).Rewrites old new)
    (faithful : format.Faithful) : new = old.filter (· != .null) := by
  rcases rewrites_optional_iff.mp rewrites with
    ⟨unset, rfl⟩ | ⟨item, value, rfl, filled, decoded, rfl⟩
  · exact unset.symm
  · simp [Option.filter, filled, faithful item value decoded]

/-- A member that may be unset is there exactly if it was there and was not null. -/
theorem Rewrites.present (rewrites : (optional key description format get set).Rewrites old new) :
    new.isSome = (old.filter (· != .null)).isSome := by
  rcases rewrites_optional_iff.mp rewrites with ⟨unset, rfl⟩ | ⟨item, value, rfl, filled, _, rfl⟩
  · rw [unset]
  · simp [Option.filter, filled]

end Optional

section Elided

variable {absent : V} {omits : V → Bool} {get : R → V} {set : R → V → R}

/-- A member with a default is written as what it was decoded to, or else as the default. -/
theorem rewrites_elided_iff :
    (elided key description format absent omits get set).Rewrites old new ↔
      ∃ value, (old = none ∧ value = absent ∨
        ∃ item, old = some item ∧ format.decode .text item = .ok value) ∧
        new = if omits value then none else some (format.encode value) := by
  have come (value : V) :
      (elided key description format absent omits get set).Reads old value ↔
        old = none ∧ value = absent ∨
          ∃ item, old = some item ∧ format.decode .text item = .ok value := by
    cases old <;> simp [Reads, elided, eq_comm]
  exact exists_congr fun value => and_congr_left fun _ => come value

/-- A member with a default is there in any case. -/
theorem Rewrites.filled
    (rewrites : (elided key description format absent (fun _ => false) get set).Rewrites old new)
    (faithful : format.Faithful) : new = some (old.getD (format.encode absent)) := by
  obtain ⟨value, ⟨rfl, rfl⟩ | ⟨item, rfl, decoded⟩, rfl⟩ := rewrites_elided_iff.mp rewrites
  · rfl
  · simp [faithful item value decoded]

end Elided

/-- A text that is left out while it is empty stays as it is, unless it is empty. -/
theorem Rewrites.thinned {get : R → String} {set : R → String → R}
    (rewrites : (elided key description .string "" (· == "") get set).Rewrites old new) :
    new = old.filter (· != .string "") := by
  obtain ⟨value, ⟨rfl, rfl⟩ | ⟨item, rfl, decoded⟩, rfl⟩ := rewrites_elided_iff.mp rewrites
  · rfl
  · obtain rfl := (Format.string_decode_iff _ _ _).mp decoded
    by_cases isEmpty : value = "" <;> simp [Option.filter, isEmpty, Format.string]

/-- A member that is not there, or is null, has no members of its own. -/
theorem unset_get? (unset : old.filter (· != .null) = none) (name : String) :
    old.bind (Json.get? name) = none := by
  cases old with
  | none => rfl
  | some item =>
    obtain rfl : item = .null := by simpa using unset
    rfl

/-- The entries of a dictionary that may be unset stay as they are. -/
theorem Rewrites.entries {get : R → Option (Dictionary String)}
    {set : R → Option (Dictionary String) → R}
    (rewrites : (optional key description (.dictionary .string) get set).Rewrites old new)
    (name : String) : new.bind (Json.get? name) = old.bind (Json.get? name) := by
  rcases rewrites_optional_iff.mp rewrites with
    ⟨unset, rfl⟩ | ⟨item, value, rfl, _, decoded, rfl⟩
  · exact (unset_get? unset name).symm
  · exact Format.texts_entries decoded name

/-- The entries of a dictionary that is left out while it is empty stay as they are, and it
is there exactly if it has one. -/
theorem Rewrites.gathered {get : R → Dictionary String} {set : R → Dictionary String → R}
    (rewrites : (elided key description (.dictionary .string) .empty Dictionary.isEmpty get
      set).Rewrites old new) :
    (∀ name, new.bind (Json.get? name) = old.bind (Json.get? name)) ∧
      (new = none ↔ ∀ name, old.bind (Json.get? name) = none) := by
  obtain ⟨value, come, rfl⟩ := rewrites_elided_iff.mp rewrites
  have stays (name : String) :
      ((Format.dictionary .string).encode value).get? name = old.bind (Json.get? name) := by
    rcases come with ⟨rfl, rfl⟩ | ⟨item, rfl, decoded⟩
    · rfl
    · exact Format.texts_entries decoded name
  by_cases unset : value.isEmpty = true
  · obtain rfl := Dictionary.eq_empty unset
    have none (name : String) : old.bind (Json.get? name) = none := (stays name).symm
    simp [unset, none]
  · obtain ⟨entries, ascending⟩ := value
    cases entries with
    | nil => simp [Dictionary.isEmpty] at unset
    | cons entry rest =>
      refine ⟨by simpa [unset] using stays, ?_⟩
      simp only [unset, Bool.false_eq_true, if_false, reduceCtorEq, false_iff, not_forall]
      refine ⟨entry.1, fun missing => ?_⟩
      have notThere := Json.member?_eq_none.mp ((stays entry.1).trans missing)
      exact notThere (.string entry.2) List.mem_cons_self

end Field

/-! ## Objects -/

namespace Record

variable {R : Type} {record : Record R}

/-- What becomes of the members of an object that is read as a record and written again.
Some members may be changed meanwhile. -/
structure Rewrites (record : Record R) (changed : List String) (old new : Json) : Prop where
  fields : ∀ field ∈ record.fields, field.key ∉ changed →
    field.Rewrites (old.get? field.key) (new.get? field.key)
  known : ∀ key, new.get? key ≠ none → key ∈ record.fields.map Field.key

/-- A member of a document is one of its record. -/
theorem known_of_get? {value : R} {key : String}
    (found : Json.member? key (record.encodedMembers value) ≠ none) :
    key ∈ record.fields.map Field.key := by
  obtain ⟨item, found⟩ := Option.ne_none_iff_exists'.mp found
  exact encodedMembers_names.subset (List.mem_map.mpr ⟨_, Json.mem_of_member? found, rfl⟩)

/-- The member of a field that may be unset is there exactly if the field is set. -/
theorem member?_optional {V : Type} (lawful : record.Lawful) (value : R) {key : String}
    {description : Option String} {format : Format V} {get : R → Option V}
    {set : R → Option V → R}
    (listed : Field.optional key description format get set ∈ record.fields) :
    Json.member? key (record.encodedMembers value) = (get value).map format.encode := by
  refine (member?_encodedMembers lawful value _ listed).trans ?_
  cases part : get value <;> simp [Field.optional, Field.elided, part, Format.optional]

/-- An object that is decoded to a record is rewritten by its fields, of a record that
agrees with it but for the changed ones. -/
theorem rewrites_object (lawful : record.Lawful) {repeats : Bool}
    {members : List (String × Json)} {tail : Option Json.Fault} {value other : R}
    {changed : List String}
    (decoded : record.decodeObject repeats .text members tail = .ok value)
    (agree : ∀ field ∈ record.fields, field.key ∉ changed → field.get other = field.get value) :
    record.Rewrites changed (.object members tail)
      (.object (record.encodedMembers other) none) := by
  refine ⟨fun field listed unchanged => ⟨field.get value, ?_, ?_⟩, fun key => known_of_get?⟩
  · exact (decodeObject_ok lawful decoded).2 field listed
  · rw [← agree field listed unchanged]
    exact member?_encodedMembers lawful other field listed

/-- A record that is not read from a list is rewritten by its fields. -/
theorem rewrites_format (lawful : record.Lawful) {tree : Json} {value : R}
    (decoded : record.format.decode .text tree = .ok value) (named : ¬ tree.IsList) :
    record.Rewrites [] tree (record.format.encode value) := by
  obtain ⟨members, tail, rfl, decoded⟩ := decoded_by_name decoded named
  exact rewrites_object lawful decoded fun _ _ _ => rfl

end Record

/-- A record that may be unset stays unset, or else its members are rewritten by its
fields. -/
theorem Field.Rewrites.within {R P : Type} {inner : Record P} (lawful : inner.Lawful)
    {key : String} {description : Option String} {get : R → Option P} {set : R → Option P → R}
    {old new : Option Json}
    (rewrites : (optional key description inner.format get set).Rewrites old new)
    (named : ∀ part ∈ old, ¬ part.IsList) :
    old.filter (· != .null) = none ∧ new = none ∨
      ∃ part rewritten, old = some part ∧ part ≠ .null ∧ new = some rewritten ∧
        inner.Rewrites [] part rewritten := by
  rcases rewrites_optional_iff.mp rewrites with unset | ⟨part, value, rfl, filled, decoded, rfl⟩
  · exact .inl unset
  · exact .inr ⟨part, _, rfl, filled, rfl, Record.rewrites_format lawful decoded (named part rfl)⟩

end BucketMount
