import BucketMount.Resource.Kind
import Mathlib.Data.List.Nodup

/-!
# Fields of a record

The fields of a record are independent of one another and make the record up: what is
put into one field is found there and in no other, and two records with equal fields
are equal. A field that is left out of a document is one whose default is its value.
`Lawful` gathers this; every record of the stored objects is lawful.

`decodeObject_ok` tells what the members of an object were if a record was decoded from
it, and `decodeObject_of_fields` tells from which members a given record is decoded.
What a decoder refuses is not told, and neither is the form of a list.
-/

namespace BucketMount

namespace Json

/-- Of several members of one name the last one is found. -/
theorem member?_cons (key : String) (member : String × Json) (rest : List (String × Json)) :
    member? key (member :: rest) =
      (member? key rest).or (if member.1 = key then some member.2 else none) := by
  have carried (found : Option Json) (members : List (String × Json)) :
      members.foldl (fun found entry => if entry.1 = key then some entry.2 else found) found =
        (member? key members).or found := by
    induction members generalizing found with
    | nil => simp [member?]
    | cons first rest inductionHypothesis =>
      simp only [member?, List.foldl_cons]
      rw [inductionHypothesis, inductionHypothesis (if first.1 = key then some first.2 else none)]
      cases member? key rest <;> by_cases same : first.1 = key <;> simp [same]
  rw [member?, List.foldl_cons, carried]

/-- A member that is found is there. -/
theorem mem_of_member? {key : String} {item : Json} {members : List (String × Json)}
    (found : member? key members = some item) : (key, item) ∈ members := by
  induction members with
  | nil => simp [member?] at found
  | cons first rest inductionHypothesis =>
    rw [member?_cons] at found
    cases later : member? key rest with
    | some other =>
      rw [later, Option.some_or] at found
      exact List.mem_cons_of_mem _ (inductionHypothesis (later.trans found))
    | none =>
      rw [later, Option.none_or] at found
      obtain ⟨otherKey, value⟩ := first
      by_cases same : otherKey = key
      · rw [if_pos same] at found
        simp_all
      · simp [same] at found

/-- A name that is not found is no member's. -/
theorem member?_eq_none {key : String} {members : List (String × Json)} :
    member? key members = none ↔ ∀ item, (key, item) ∉ members := by
  induction members with
  | nil => simp [member?]
  | cons first rest inductionHypothesis =>
    obtain ⟨otherKey, value⟩ := first
    rw [member?_cons, Option.or_eq_none_iff, inductionHypothesis]
    by_cases same : otherKey = key
    · subst same
      simp only [if_true, reduceCtorEq, and_false, List.mem_cons, false_iff, not_forall, not_not]
      exact ⟨value, .inl rfl⟩
    · simp [same, Ne.symm same, Prod.ext_iff]

/-- Where no name is repeated, every member is found. -/
theorem member?_of_mem {key : String} {item : Json} {members : List (String × Json)}
    (distinct : (members.map Prod.fst).Nodup) (listed : (key, item) ∈ members) :
    member? key members = some item := by
  cases found : member? key members with
  | none => exact absurd listed (member?_eq_none.mp found item)
  | some other =>
    have same := List.inj_on_of_nodup_map distinct listed (mem_of_member? found) rfl
    rw [(Prod.mk.inj same).2]

/-- The value under one name is the member of this name. -/
@[simp]
theorem at?_one (tree : Json) (key : String) : tree.at? [key] = tree.get? key := by
  rw [at?]
  exact Option.bind_fun_some _

/-- The value behind a path and one name more is the member of this name there. -/
theorem at?_snoc (tree : Json) (path : List String) (key : String) :
    tree.at? (path ++ [key]) = (tree.at? path).bind (get? key) := by
  induction path generalizing tree with
  | nil => exact at?_one tree key
  | cons first path inductionHypothesis =>
    rw [List.cons_append, at?, at?, Option.bind_assoc]
    exact Option.bind_congr fun part _ => inductionHypothesis part

/-- The value under two names is the member of the second in the member of the first. -/
theorem at?_two (tree : Json) (first second : String) :
    tree.at? [first, second] = (tree.get? first).bind (get? second) := by
  rw [← at?_one]
  exact at?_snoc tree [first] second

/-- The value under three names is the member of the third under the first two. -/
theorem at?_three (tree : Json) (first second third : String) :
    tree.at? [first, second, third] =
      ((tree.get? first).bind (get? second)).bind (get? third) := by
  rw [← at?_two]
  exact at?_snoc tree [first, second] third

end Json

/-! ## What formats decode -/

namespace Format

variable {α : Type}

/-- A text is decoded from this text alone. -/
theorem string_decode_iff (source : Source) (tree : Json) (text : String) :
    string.decode source tree = .ok text ↔ tree = .string text := by
  cases tree <;> simp [string]

/-- A flag is decoded from this flag alone. -/
theorem boolean_decode_iff (source : Source) (tree : Json) (flag : Bool) :
    boolean.decode source tree = .ok flag ↔ tree = .boolean flag := by
  cases tree <;> simp [boolean]

/-- A value that may be unset is decoded from null if it is unset, and from anything else
as the value. -/
theorem optional_decode_iff (inner : Format α) (source : Source) (tree : Json)
    (value : Option α) :
    inner.optional.decode source tree = .ok value ↔
      tree = .null ∧ value = none ∨
        tree ≠ .null ∧ ∃ part, inner.decode source tree = .ok part ∧ value = some part := by
  have mapped (result : Except Json.Refusal α) :
      result.map some = .ok value ↔ ∃ part, result = .ok part ∧ value = some part := by
    cases result <;> simp [Except.map, eq_comm]
  cases tree <;> simp [optional, mapped, eq_comm]

end Format

namespace Record

variable {R : Type}

/-- The fields of a record are independent, and they make it up. -/
structure Lawful (record : Record R) : Prop where
  distinct : (record.fields.map Field.key).Nodup
  get_set : ∀ field ∈ record.fields, ∀ value part, field.get (field.set value part) = part
  get_set_other : ∀ field ∈ record.fields, ∀ other ∈ record.fields, field.key ≠ other.key →
    ∀ value part, other.get (field.set value part) = other.get value
  initial : ∀ field ∈ record.fields, ∀ part, field.absent = some part →
    field.get record.initial = part
  omitted : ∀ field ∈ record.fields, ∀ part, field.omits part = true → field.absent = some part
  whole : ∀ value other, (∀ field ∈ record.fields, field.get value = field.get other) →
    value = other

variable {record : Record R} {value : R}

/-- A field is determined by its key. -/
theorem Lawful.field_unique (lawful : record.Lawful) {field other : Field R}
    (member : field ∈ record.fields) (memberOther : other ∈ record.fields)
    (same : field.key = other.key) : field = other :=
  List.inj_on_of_nodup_map lawful.distinct member memberOther same

/-! ## What was decoded -/

/-- Two readings in a row succeed exactly if the first does and the second does with
its value. -/
theorem then_ok_iff {α β : Type} (first : Except Json.Refusal α)
    (second : α → Except Json.Refusal β) (value : β) :
    (first >>= second) = .ok value ↔ ∃ part, first = .ok part ∧ second part = .ok value := by
  cases first <;> simp [bind, Except.bind]

/-- What has become of a field behind some members: it holds what the last member of
its name was decoded to, or else what it held before. -/
theorem decodeMembers_ok (lawful : record.Lawful) {repeats : Bool} {source : Source}
    {members : List (String × Json)} {seen seenAfter : List String} {start value : R}
    (decoded : record.decodeMembers repeats source seen start members = .ok (seenAfter, value))
    (field : Field R) (member : field ∈ record.fields) :
    match Json.member? field.key members with
    | some item => field.format.decode source item = .ok (field.get value) ∧
        field.key ∈ seenAfter
    | none => field.get value = field.get start ∧ (field.key ∈ seenAfter ↔ field.key ∈ seen) := by
  induction members generalizing seen start with
  | nil =>
    simp only [decodeMembers, Except.ok.injEq, Prod.mk.injEq] at decoded
    obtain ⟨rfl, rfl⟩ := decoded
    simp [Json.member?]
  | cons first rest inductionHypothesis =>
    obtain ⟨key, item⟩ := first
    rw [Json.member?_cons]
    rw [decodeMembers] at decoded
    cases found : record.fields.find? fun field => field.key == key with
    | none =>
      have other : key ≠ field.key := by
        rintro rfl
        simpa using List.find?_eq_none.mp found field member
      simp only [found, then_ok_iff] at decoded
      obtain ⟨_, _, decoded⟩ := decoded
      simpa [other] using inductionHypothesis decoded
    | some named =>
      have namedMember := List.mem_of_find?_eq_some found
      have namedKey : named.key = key := by simpa using List.find?_some found
      simp only [found] at decoded
      split at decoded
      · cases decoded
      obtain ⟨part, decodedPart, decoded⟩ := (then_ok_iff _ _ _).mp decoded
      have later := inductionHypothesis decoded
      cases behind : Json.member? field.key rest with
      | some last => simpa [behind] using later
      | none =>
        simp only [behind] at later
        obtain ⟨sameValue, sameSeen⟩ := later
        by_cases same : key = field.key
        · obtain rfl : named = field := lawful.field_unique namedMember member (namedKey.trans same)
          rw [lawful.get_set named member] at sameValue
          simp [same, sameSeen, sameValue, decodedPart]
        · rw [lawful.get_set_other named namedMember field member (namedKey ▸ same)] at sameValue
          simp [same, sameValue, sameSeen, Ne.symm same]

/-- A field of a record came from the members of an object: from the last one of its
name, or else it holds its default. -/
def FieldFrom (source : Source) (members : List (String × Json)) (value : R) (field : Field R) :
    Prop :=
  match Json.member? field.key members with
  | some item => field.format.decode source item = .ok (field.get value)
  | none => field.absent = some (field.get value)

/-- A field with a default is the member of its name, or else holds its default. -/
theorem FieldFrom.cases {V : Type} {format : Format V} {source : Source}
    {members : List (String × Json)} {key : String} {description : Option String} {absent : V}
    {omits : V → Bool} {get : R → V} {set : R → V → R}
    (come : FieldFrom source members value
      (.elided key description format absent omits get set)) :
    (∃ item, Json.member? key members = some item ∧
        format.decode source item = .ok (get value)) ∨
      Json.member? key members = none ∧ get value = absent := by
  change match Json.member? key members with
    | some item => format.decode source item = .ok (get value)
    | none => some absent = some (get value) at come
  cases found : Json.member? key members <;> simp_all

/-- A text with a default is the member of its name, or else the default. -/
theorem FieldFrom.text {source : Source} {members : List (String × Json)} {key : String}
    {description : Option String} {absent : String} {omits : String → Bool} {get : R → String}
    {set : R → String → R}
    (come : FieldFrom source members value
      (.elided key description .string absent omits get set)) :
    Json.member? key members = some (.string (get value)) ∨
      Json.member? key members = none ∧ get value = absent := by
  simpa only [Format.string_decode_iff, exists_eq_right] using come.cases

/-- A flag with a default is the member of its name, or else the default. -/
theorem FieldFrom.flag {source : Source} {members : List (String × Json)} {key : String}
    {description : Option String} {absent : Bool} {omits : Bool → Bool} {get : R → Bool}
    {set : R → Bool → R}
    (come : FieldFrom source members value
      (.elided key description .boolean absent omits get set)) :
    Json.member? key members = some (.boolean (get value)) ∨
      Json.member? key members = none ∧ get value = absent := by
  simpa only [Format.boolean_decode_iff, exists_eq_right] using come.cases

/-- A record that was decoded from an object has every field from its members. -/
theorem decodeObject_ok (lawful : record.Lawful) {repeats : Bool} {source : Source}
    {members : List (String × Json)} {tail : Option Json.Fault} {value : R}
    (decoded : record.decodeObject repeats source members tail = .ok value) :
    tail = none ∧ ∀ field ∈ record.fields, FieldFrom source members value field := by
  obtain ⟨⟨seen, reached⟩, passed, decoded⟩ := (then_ok_iff _ _ _).mp decoded
  obtain ⟨_, closed, decoded⟩ := (then_ok_iff _ _ _).mp decoded
  have closes : tail = none := by
    cases tail with
    | none => rfl
    | some cause => simp [Json.close] at closed
  refine ⟨closes, fun field member => ?_⟩
  cases missing : record.missing? seen with
  | some key => simp [missing, throw, throwThe, MonadExceptOf.throw] at decoded
  | none =>
    simp only [missing, pure, Except.pure, Except.ok.injEq] at decoded
    subst decoded
    have come := decodeMembers_ok lawful passed field member
    rw [FieldFrom]
    cases found : Json.member? field.key members with
    | some item => simp only [found] at come; exact come.1
    | none =>
      simp only [found, List.not_mem_nil, iff_false] at come
      simp only [missing?, Option.map_eq_none_iff, List.find?_eq_none] at missing
      have optional := missing field member
      cases absent : field.absent with
      | none => simp [absent, come.2] at optional
      | some part => rw [come.1, lawful.initial field member part absent]

/-! ## What is decoded -/

/-- Members of different names are all decoded if each of a known name is decoded and each
other one can be passed over. -/
theorem decodeMembers_passes (repeats : Bool) (source : Source)
    (members : List (String × Json)) (seen : List String) (start : R)
    (distinct : (members.map Prod.fst).Nodup) (fresh : ∀ member ∈ members, member.1 ∉ seen)
    (known : ∀ field ∈ record.fields, ∀ item, (field.key, item) ∈ members →
      ∃ part, field.format.decode source item = .ok part)
    (unknown : ∀ key item, (key, item) ∈ members → (∀ field ∈ record.fields, field.key ≠ key) →
      item.skipFault = none) :
    ∃ reached, record.decodeMembers repeats source seen start members = .ok reached := by
  induction members generalizing seen start with
  | nil => exact ⟨_, rfl⟩
  | cons first rest inductionHypothesis =>
    obtain ⟨key, item⟩ := first
    rw [List.map_cons, List.nodup_cons] at distinct
    have restKnown : ∀ field ∈ record.fields, ∀ item, (field.key, item) ∈ rest →
        ∃ part, field.format.decode source item = .ok part := fun field member item listed =>
      known field member item (List.mem_cons_of_mem _ listed)
    have restUnknown : ∀ key item, (key, item) ∈ rest →
        (∀ field ∈ record.fields, field.key ≠ key) → item.skipFault = none :=
      fun key item listed => unknown key item (List.mem_cons_of_mem _ listed)
    rw [decodeMembers]
    cases found : record.fields.find? fun field => field.key == key with
    | none =>
      have passed : item.skip = .ok () := by
        rw [Json.skip, unknown key item List.mem_cons_self fun field member => by
          simpa using List.find?_eq_none.mp found field member]
      simp only [passed]
      exact inductionHypothesis seen start distinct.2
        (fun member listed => fresh member (List.mem_cons_of_mem _ listed)) restKnown restUnknown
    | some field =>
      have member := List.mem_of_find?_eq_some found
      obtain rfl : field.key = key := by simpa using List.find?_some found
      have unseen : seen.contains field.key = false := by
        simpa using fresh (field.key, item) List.mem_cons_self
      obtain ⟨part, decoded⟩ := known field member item List.mem_cons_self
      simp only [unseen, Bool.and_false, Bool.false_eq_true, if_false, decoded]
      refine inductionHypothesis _ _ distinct.2 (fun other listed => ?_) restKnown restUnknown
      have differs : other.1 ≠ field.key := by
        intro same
        exact distinct.1 (List.mem_map.mpr ⟨other, listed, same⟩)
      simp [differs, fresh other (List.mem_cons_of_mem _ listed)]

/-- A record is decoded from members of different names if each member of a known name is
decoded, each other one can be passed over, and no field that has to be there is missing. -/
theorem decodeObject_passes (lawful : record.Lawful) (repeats : Bool) (source : Source)
    (members : List (String × Json)) (distinct : (members.map Prod.fst).Nodup)
    (known : ∀ field ∈ record.fields, ∀ item, (field.key, item) ∈ members →
      ∃ part, field.format.decode source item = .ok part)
    (unknown : ∀ key item, (key, item) ∈ members → (∀ field ∈ record.fields, field.key ≠ key) →
      item.skipFault = none)
    (complete : ∀ field ∈ record.fields, field.absent = none → field.key ∈ members.map Prod.fst) :
    ∃ value, record.decodeObject repeats source members none = .ok value := by
  obtain ⟨⟨seen, reached⟩, decoded⟩ := decodeMembers_passes repeats source members []
    record.initial distinct (by simp) known unknown
  have missing : record.missing? seen = none := by
    simp only [missing?, Option.map_eq_none_iff, List.find?_eq_none]
    intro field member
    have reach := decodeMembers_ok lawful decoded field member
    cases absent : field.absent with
    | some part => simp
    | none =>
      obtain ⟨⟨key, item⟩, listed, rfl⟩ := List.mem_map.mp (complete field member absent)
      rw [Json.member?_of_mem distinct listed] at reach
      simp [reach.2]
  refine ⟨reached, ?_⟩
  rw [decodeObject, decoded]
  simp [bind, Except.bind, Json.close, missing, pure, Except.pure]

/-- A record is decoded from members of different names if each member of a known name
is decoded to what its field holds, each other one can be passed over, and each field
without a member holds its default.

Proof: some record is decoded, since no field that has to be there is missing, and its
fields are those of the record. -/
theorem decodeObject_of_fields (lawful : record.Lawful) (repeats : Bool) (source : Source)
    (value : R) (members : List (String × Json)) (distinct : (members.map Prod.fst).Nodup)
    (comes : ∀ field ∈ record.fields, FieldFrom source members value field)
    (unknown : ∀ key item, (key, item) ∈ members → (∀ field ∈ record.fields, field.key ≠ key) →
      item.skipFault = none) :
    record.decodeObject repeats source members none = .ok value := by
  have known : ∀ field ∈ record.fields, ∀ item, (field.key, item) ∈ members →
      field.format.decode source item = .ok (field.get value) := by
    intro field member item listed
    have come := comes field member
    rwa [FieldFrom, Json.member?_of_mem distinct listed] at come
  have complete : ∀ field ∈ record.fields, field.absent = none →
      field.key ∈ members.map Prod.fst := by
    intro field member required
    have come := comes field member
    rw [FieldFrom] at come
    cases found : Json.member? field.key members with
    | some item => exact List.mem_map.mpr ⟨_, Json.mem_of_member? found, rfl⟩
    | none => simp [found, required] at come
  obtain ⟨reached, decoded⟩ := decodeObject_passes lawful repeats source members distinct
    (fun field member item listed => ⟨_, known field member item listed⟩) unknown complete
  have same : reached = value := by
    refine lawful.whole _ _ fun field member => ?_
    have come := comes field member
    have reach := (decodeObject_ok lawful decoded).2 field member
    rw [FieldFrom] at come reach
    cases found : Json.member? field.key members with
    | some item =>
      simp only [found] at come reach
      exact Except.ok.inj (reach.symm.trans come)
    | none =>
      simp only [found] at come reach
      exact Option.some.inj (reach.symm.trans come)
  rw [decoded, same]

/-! ## What is written -/

/-- The members of a document are those of the fields that are not left out. -/
theorem mem_encodedMembers (member : String × Json) :
    member ∈ record.encodedMembers value ↔ ∃ field ∈ record.fields,
      field.omits (field.get value) = false ∧
        member = (field.key, field.format.encode (field.get value)) := by
  simp only [encodedMembers, List.mem_filterMap, Field.member?]
  constructor
  · rintro ⟨field, listed, written⟩
    cases left : field.omits (field.get value) with
    | true => simp [left] at written
    | false => exact ⟨field, listed, left, by simpa [left] using written.symm⟩
  · rintro ⟨field, listed, left, rfl⟩
    exact ⟨field, listed, by simp [left]⟩

/-- A field that is left out has no member. -/
theorem omitted_not_member (lawful : record.Lawful) {field : Field R}
    (listed : field ∈ record.fields) (left : field.omits (field.get value) = true) (item : Json) :
    (field.key, item) ∉ record.encodedMembers value := by
  intro member
  obtain ⟨other, otherListed, kept, same⟩ := (mem_encodedMembers _).mp member
  obtain rfl := lawful.field_unique listed otherListed (Prod.mk.inj same).1
  rw [left] at kept
  cases kept

/-- The names of the members stand in the order of the fields. -/
theorem encodedMembers_names :
    ((record.encodedMembers value).map Prod.fst).Sublist (record.fields.map Field.key) := by
  rw [encodedMembers]
  induction record.fields with
  | nil => simp
  | cons field rest inductionHypothesis =>
    cases left : field.omits (field.get value) with
    | true => simpa [Field.member?, left] using inductionHypothesis.cons _
    | false => simpa [Field.member?, left] using inductionHypothesis

/-- The member of a field is found in a document unless it is left out. -/
theorem member?_encodedMembers (lawful : record.Lawful) (value : R) (field : Field R)
    (listed : field ∈ record.fields) :
    Json.member? field.key (record.encodedMembers value) =
      if field.omits (field.get value) then none
      else some (field.format.encode (field.get value)) := by
  cases left : field.omits (field.get value) with
  | true =>
    rw [if_pos rfl]
    exact Json.member?_eq_none.mpr (omitted_not_member lawful listed left)
  | false =>
    rw [if_neg (by simp)]
    exact Json.member?_of_mem (encodedMembers_names.nodup lawful.distinct)
      ((mem_encodedMembers _).mpr ⟨field, listed, left, rfl⟩)

/-- The member of a field stands under the field's name. -/
theorem member?_key {field : Field R} {member : String × Json}
    (written : field.member? value = some member) : member.1 = field.key := by
  rw [Field.member?] at written
  split at written
  · cases written
  · rw [← Option.some.inj written]

/-- A field that is put to a value for which it is left out is missing from the document; the
other members stay. -/
theorem encodedMembers_omitted (lawful : record.Lawful) (value : R) {field : Field R}
    (listed : field ∈ record.fields) (part : field.Value) (omits : field.omits part = true) :
    record.encodedMembers (field.set value part) =
      (record.encodedMembers value).filter (·.1 != field.key) := by
  rw [encodedMembers, encodedMembers, List.filter_filterMap]
  refine List.filterMap_congr ?_
  intro other otherListed
  by_cases same : field.key = other.key
  · obtain rfl := lawful.field_unique listed otherListed same
    have missing : field.member? (field.set value part) = none := by
      simp [Field.member?, lawful.get_set field listed, omits]
    rw [missing]
    cases written : field.member? value with
    | none => rfl
    | some member => simp [Option.filter_some, member?_key written]
  · have kept : other.member? (field.set value part) = other.member? value := by
      simp only [Field.member?, lawful.get_set_other field listed other otherListed same]
    rw [kept]
    cases written : other.member? value with
    | none => rfl
    | some member => simp [Option.filter_some, member?_key written, Ne.symm same]

end Record

/-! ## The records of stored objects -/

/-- There is one dictionary without entries. -/
theorem Dictionary.eq_empty {α : Type} {dictionary : Dictionary α}
    (none : dictionary.isEmpty = true) : dictionary = .empty := by
  obtain ⟨entries, ascending⟩ := dictionary
  obtain rfl : entries = [] := by simpa [Dictionary.isEmpty] using none
  rfl

/-- References are lawful. -/
theorem Reference.lawful : Reference.record.Lawful := by
  constructor
  case distinct => decide
  case whole =>
    rintro ⟨⟩ ⟨⟩
    simp [Reference.record, Field.optional, Field.elided]
  all_goals simp [Reference.record, Field.optional, Field.elided]

/-- Descriptions of S3 buckets are lawful. -/
theorem S3Protocol.lawful : S3Protocol.record.Lawful := by
  constructor
  case distinct => decide
  case whole =>
    rintro ⟨⟩ ⟨⟩
    simp [S3Protocol.record, Field.defaulted]
  all_goals simp [S3Protocol.record, Field.defaulted]

/-- Descriptions of Azure containers are lawful. -/
theorem AzureProtocol.lawful : AzureProtocol.record.Lawful := by
  constructor
  case distinct => decide
  case whole =>
    rintro ⟨⟩ ⟨⟩
    simp [AzureProtocol.record, Field.defaulted]
  all_goals simp [AzureProtocol.record, Field.defaulted]

/-- Descriptions of Google buckets are lawful. -/
theorem GcsProtocol.lawful : GcsProtocol.record.Lawful := by
  constructor
  case distinct => decide
  case whole =>
    rintro ⟨⟩ ⟨⟩
    simp [GcsProtocol.record, Field.defaulted]
  all_goals simp [GcsProtocol.record, Field.defaulted]

/-- Descriptions of a bucket's protocols are lawful. -/
theorem Protocol.lawful : Protocol.record.Lawful := by
  constructor
  case distinct => decide
  case whole =>
    rintro ⟨⟩ ⟨⟩
    simp [Protocol.record, Field.optional, Field.elided]
  case initial => simp [Protocol.record, Protocol.empty, Field.optional, Field.elided]
  all_goals simp [Protocol.record, Field.optional, Field.elided]

/-- What is wanted of a bucket is lawful. No parameters are left out as an empty dictionary. -/
theorem BucketSpec.lawful : BucketSpec.record.Lawful := by
  constructor
  case distinct => decide
  case whole =>
    rintro ⟨⟩ ⟨⟩
    simp [BucketSpec.record, Field.optional, Field.elided, Field.defaulted]
  case omitted =>
    simpa [BucketSpec.record, Field.optional, Field.elided, Field.defaulted]
      using fun part unset => (Dictionary.eq_empty unset).symm
  all_goals simp [BucketSpec.record, Field.optional, Field.elided, Field.defaulted]

/-- What is reported of a bucket is lawful. -/
theorem BucketStatus.lawful : BucketStatus.record.Lawful := by
  constructor
  case distinct => decide
  case whole =>
    rintro ⟨⟩ ⟨⟩
    simp [BucketStatus.record, Field.optional, Field.elided, Field.defaulted]
  all_goals simp [BucketStatus.record, Field.optional, Field.elided, Field.defaulted]

/-- What is wanted of a grant is lawful. No parameters are left out as an empty dictionary. -/
theorem BucketAccessSpec.lawful : BucketAccessSpec.record.Lawful := by
  constructor
  case distinct => decide
  case whole =>
    rintro ⟨⟩ ⟨⟩
    simp [BucketAccessSpec.record, Field.optional, Field.elided, Field.defaulted]
  case omitted =>
    simpa [BucketAccessSpec.record, Field.optional, Field.elided, Field.defaulted]
      using fun part unset => (Dictionary.eq_empty unset).symm
  all_goals simp [BucketAccessSpec.record, Field.optional, Field.elided, Field.defaulted]

/-- What is reported of a grant is lawful. -/
theorem BucketAccessStatus.lawful : BucketAccessStatus.record.Lawful := by
  constructor
  case distinct => decide
  case whole =>
    rintro ⟨⟩ ⟨⟩
    simp [BucketAccessStatus.record, Field.defaulted]
  all_goals simp [BucketAccessStatus.record, Field.defaulted]

/-- What a workload asks for is lawful. -/
theorem BucketAccessRequestSpec.lawful : BucketAccessRequestSpec.record.Lawful := by
  constructor
  case distinct => decide
  case whole =>
    rintro ⟨⟩ ⟨⟩
    simp [BucketAccessRequestSpec.record, Field.defaulted]
  all_goals simp [BucketAccessRequestSpec.record, Field.defaulted]

/-- What is reported of a request for access is lawful. -/
theorem BucketAccessRequestStatus.lawful : BucketAccessRequestStatus.record.Lawful := by
  constructor
  case distinct => decide
  case whole =>
    rintro ⟨⟩ ⟨⟩
    simp [BucketAccessRequestStatus.record, Field.defaulted]
  all_goals simp [BucketAccessRequestStatus.record, Field.defaulted]

/-- What is wanted of a new bucket is lawful. -/
theorem BucketRequestSpec.lawful : BucketRequestSpec.record.Lawful := by
  constructor
  case distinct => decide
  case whole =>
    rintro ⟨⟩ ⟨⟩
    simp [BucketRequestSpec.record, Field.elided, Field.defaulted]
  all_goals simp [BucketRequestSpec.record, Field.elided, Field.defaulted]

/-- What is reported of a request for a bucket is lawful. -/
theorem BucketRequestStatus.lawful : BucketRequestStatus.record.Lawful := by
  constructor
  case distinct => decide
  case whole =>
    rintro ⟨⟩ ⟨⟩
    simp [BucketRequestStatus.record, Field.defaulted]
  all_goals simp [BucketRequestStatus.record, Field.defaulted]

/-- Owners are lawful. -/
theorem OwnerReference.lawful : OwnerReference.record.Lawful := by
  constructor
  case distinct => decide
  case whole =>
    rintro ⟨⟩ ⟨⟩
    simp [OwnerReference.record, OwnerReference.textField, Field.optional, Field.elided]
  all_goals simp [OwnerReference.record, OwnerReference.textField, Field.optional, Field.elided]

/-- Fields of managers are lawful. -/
theorem ManagedFields.lawful : ManagedFields.record.Lawful := by
  constructor
  case distinct => decide
  case whole =>
    rintro ⟨⟩ ⟨⟩
    simp [ManagedFields.record, Field.optional, Field.elided]
  all_goals simp [ManagedFields.record, Field.optional, Field.elided]

/-- Metadata is lawful. -/
theorem Metadata.lawful : Metadata.record.Lawful := by
  constructor
  case distinct => decide
  case whole =>
    rintro ⟨⟩ ⟨⟩
    simp [Metadata.record, Field.optional, Field.elided]
  case initial => simp [Metadata.record, Metadata.empty, Field.optional, Field.elided]
  all_goals simp [Metadata.record, Field.optional, Field.elided]

/-- Documents of every custom kind are lawful, whatever is wanted and reported. -/
theorem CustomKind.envelope_lawful {Spec Status : Type} (kind : CustomKind Spec Status) :
    kind.envelope.Lawful := by
  constructor
  case distinct => simp [CustomKind.envelope, Field.required]
  case whole =>
    rintro ⟨⟩ ⟨⟩
    simp [CustomKind.envelope, Field.required]
  all_goals simp [CustomKind.envelope, Field.required]

/-- A record is decoded from an object or from a list. -/
theorem Record.format_decode_cases {R : Type} {record : Record R} {source : Source} {tree : Json}
    {value : R} (decoded : record.format.decode source tree = .ok value) :
    (∃ members tail, tree = .object members tail ∧
        record.decodeObject false source members tail = .ok value) ∨
      ∃ items tail, tree = .array items tail := by
  cases tree <;> simp_all [format]

/-- The three parts of an object stand under their names in its document. Only the status
may be missing, or be null. -/
theorem CustomKind.parts_decoded {Spec Status : Type} {kind : CustomKind Spec Status}
    {source : Source} {members : List (String × Json)} {tail : Option Json.Fault}
    {object : CustomObject Spec Status}
    (decoded : kind.format.decode source (.object members tail) = .ok object) :
    tail = none ∧
    (∃ item, Json.member? "metadata" members = some item ∧
      Metadata.format.decode source item = .ok object.metadata) ∧
    (∃ item, Json.member? "spec" members = some item ∧
      kind.spec.format.decode source item = .ok object.spec) ∧
    ((∃ item, Json.member? "status" members = some item ∧
        kind.status.format.optional.decode source item = .ok object.status) ∨
      Json.member? "status" members = none ∧ object.status = none) := by
  obtain ⟨closed, come⟩ := Record.decodeObject_ok kind.envelope_lawful decoded
  have metadata := come _ (.head _)
  have spec := come _ (.tail _ (.head _))
  have status := come _ (.tail _ (.tail _ (.head _)))
  change match Json.member? "metadata" members with
    | some item => Metadata.format.decode source item = .ok object.metadata
    | none => none = some object.metadata at metadata
  change match Json.member? "spec" members with
    | some item => kind.spec.format.decode source item = .ok object.spec
    | none => none = some object.spec at spec
  change match Json.member? "status" members with
    | some item => kind.status.format.optional.decode source item = .ok object.status
    | none => some none = some object.status at status
  refine ⟨closed, ?_, ?_, ?_⟩
  · cases found : Json.member? "metadata" members <;> simp_all
  · cases found : Json.member? "spec" members <;> simp_all
  · cases found : Json.member? "status" members <;> simp_all

end BucketMount
