import BucketMount.Proofs.AdmittedDocuments
import BucketMount.Proofs.EncodedText
import Mathlib.Data.List.Perm.Basic

/-!
# Members in another order

Two trees differ in the order of members at most if every object of the one has the
members of the other in some order, at any depth; the items of lists keep their places.
`Json.Reordered` says this, and `Format.OrderFree` says that a format does not look at the
order: it decodes the same values from both trees, or refuses both. What it refuses them
with is not told, for that is the first fault in the order of the text.

Each way of building a format keeps this as long as no name is repeated. A repeated name
would tell the order: of two entries with one key the last wins, and a record refuses the
second.
-/

namespace BucketMount

/-! ## Dictionaries -/

namespace Dictionary

variable {α : Type}

/-- An entry with a new key is put somewhere among the others. -/
theorem insertEntry_perm (key : String) (value : α) (entries : List (String × α))
    (fresh : key ∉ entries.map Prod.fst) :
    (insertEntry key value entries).Perm ((key, value) :: entries) := by
  induction entries with
  | nil => rfl
  | cons first rest inductionHypothesis =>
    obtain ⟨other, old⟩ := first
    rw [List.map_cons, List.mem_cons, not_or] at fresh
    rw [insertEntry]
    split
    · rfl
    · rw [if_neg fresh.1]
      exact ((inductionHypothesis fresh.2).cons _).trans (.swap ..)

/-- Entries with different keys are all collected. -/
theorem entries_ofList_perm {entries : List (String × α)}
    (distinct : (entries.map Prod.fst).Nodup) : (ofList entries).entries.Perm entries := by
  have collected (start : Dictionary α)
      (fresh : ((start.entries ++ entries).map Prod.fst).Nodup) :
      (entries.foldl (fun dictionary entry => dictionary.insert entry.1 entry.2)
        start).entries.Perm (start.entries ++ entries) := by
    clear distinct
    induction entries generalizing start with
    | nil => simp
    | cons entry rest inductionHypothesis =>
      have moved : (start.entries ++ entry :: rest).Perm (entry :: start.entries ++ rest) :=
        List.perm_middle
      have absent : entry.1 ∉ start.entries.map Prod.fst := by
        have distinct := (moved.map Prod.fst).nodup_iff.mp fresh
        simp only [List.cons_append, List.map_cons, List.map_append, List.nodup_cons,
          List.mem_append, not_or] at distinct
        exact distinct.1.1
      have inserted : (start.insert entry.1 entry.2).entries.Perm (entry :: start.entries) :=
        insertEntry_perm _ _ _ absent
      have reached := (inserted.append_right rest).trans moved.symm
      exact (inductionHypothesis _ ((reached.map Prod.fst).nodup_iff.mpr fresh)).trans reached
  exact collected empty distinct

/-- Entries with different keys are collected to the same dictionary in any order. -/
theorem ofList_perm {entries others : List (String × α)}
    (distinct : (entries.map Prod.fst).Nodup) (permuted : entries.Perm others) :
    ofList entries = ofList others := by
  have distinctOthers := (permuted.map Prod.fst).nodup_iff.mp distinct
  have same : (ofList entries).entries.Perm (ofList others).entries :=
    (entries_ofList_perm distinct).trans (permuted.trans (entries_ofList_perm distinctOthers).symm)
  refine eq_of_entries (same.eq_of_pairwise ?_ (ofList entries).ascending (ofList others).ascending)
  exact fun left right _ _ below above => absurd below (String.lt_asymm above)

end Dictionary

/-! ## Reordered trees -/

namespace Json

mutual

/-- Two trees differ in the order of the members of their objects at most, at any depth. -/
def Reordered : Json → Json → Prop
  | .array items tail, right =>
    ∃ others, right = .array others tail ∧ ReorderedItems items others
  | .object members tail, right =>
    ∃ moved others, right = .object others tail ∧ ReorderedMembers members moved ∧
      moved.Perm others
  | left, right => right = left

/-- The items of two lists are reordered one by one. -/
def ReorderedItems : List Json → List Json → Prop
  | [], others => others = []
  | item :: rest, others => ∃ other behind, Reordered item other ∧
      ReorderedItems rest behind ∧ others = other :: behind

/-- The members of two objects have the same names in the same order, and their values are
reordered one by one. -/
def ReorderedMembers : List (String × Json) → List (String × Json) → Prop
  | [], others => others = []
  | (key, item) :: rest, others => ∃ other behind, Reordered item other ∧
      ReorderedMembers rest behind ∧ others = (key, other) :: behind

end

/-- Items are reordered one by one. -/
theorem reorderedItems_iff {items others : List Json} :
    ReorderedItems items others ↔ List.Forall₂ Reordered items others := by
  induction items generalizing others with
  | nil => simp [ReorderedItems]
  | cons item rest inductionHypothesis =>
    simp only [ReorderedItems, List.forall₂_cons_left_iff, inductionHypothesis]

/-- Members are reordered one by one, under the same names. -/
theorem reorderedMembers_iff {members others : List (String × Json)} :
    ReorderedMembers members others ↔
      List.Forall₂ (fun member other => other.1 = member.1 ∧ Reordered member.2 other.2)
        members others := by
  induction members generalizing others with
  | nil => simp [ReorderedMembers]
  | cons member rest inductionHypothesis =>
    obtain ⟨key, item⟩ := member
    simp only [ReorderedMembers, List.forall₂_cons_left_iff, inductionHypothesis]
    constructor
    · rintro ⟨other, behind, first, later, rfl⟩
      exact ⟨(key, other), behind, ⟨rfl, first⟩, later, rfl⟩
    · rintro ⟨⟨_, other⟩, behind, ⟨rfl, first⟩, later, rfl⟩
      exact ⟨other, behind, first, later, rfl⟩

/-- Members stay where they are while the value of the first one is reordered, and those of the
others. -/
theorem ReorderedMembers.cons {key : String} {item other : Json}
    {rest behind : List (String × Json)} (first : item.Reordered other)
    (later : ReorderedMembers rest behind) :
    ReorderedMembers ((key, item) :: rest) ((key, other) :: behind) :=
  ⟨other, behind, first, later, rfl⟩

/-- The values of members are reordered first, and then the members. -/
theorem Reordered.object {members moved others : List (String × Json)} {tail : Option Fault}
    (memberwise : ReorderedMembers members moved) (permuted : moved.Perm others) :
    Reordered (.object members tail) (.object others tail) :=
  ⟨moved, others, rfl, memberwise, permuted⟩

/-- Nothing has to be moved. -/
theorem Reordered.refl (tree : Json) : tree.Reordered tree := by
  induction tree using tree_induction with
  | array items tail inductionHypothesis =>
    exact ⟨items, rfl, reorderedItems_iff.mpr (List.forall₂_same.mpr inductionHypothesis)⟩
  | object members tail inductionHypothesis =>
    have memberwise : ReorderedMembers members members :=
      reorderedMembers_iff.mpr (List.forall₂_same.mpr fun member listed =>
        ⟨rfl, inductionHypothesis member listed⟩)
    exact .object memberwise (.refl members)
  | _ => exact rfl

/-- What stands opposite in a middle list leads on to what stands opposite to that. -/
theorem forall₂_through {α : Type} {first second both : α → α → Prop}
    {entries middle others : List α}
    (related : List.Forall₂ first entries middle) (onwards : List.Forall₂ second middle others)
    (each : ∀ entry ∈ entries, ∀ between other, first entry between → second between other →
      both entry other) : List.Forall₂ both entries others := by
  induction related generalizing others with
  | nil => simpa using onwards
  | cons here _ inductionHypothesis =>
    obtain ⟨other, behind, there, later, rfl⟩ := List.forall₂_cons_left_iff.mp onwards
    rw [List.forall_mem_cons] at each
    exact .cons (each.1 _ _ here there) (inductionHypothesis later each.2)

/-- Members may be reordered again. -/
theorem Reordered.trans {tree middle other : Json} (first : tree.Reordered middle)
    (second : middle.Reordered other) : tree.Reordered other := by
  induction tree using tree_induction generalizing middle other with
  | array items tail inductionHypothesis =>
    obtain ⟨between, rfl, itemwise⟩ := first
    obtain ⟨others, rfl, itemwiseAgain⟩ := second
    refine ⟨others, rfl, reorderedItems_iff.mpr ?_⟩
    exact forall₂_through (reorderedItems_iff.mp itemwise) (reorderedItems_iff.mp itemwiseAgain)
      fun item listed _ _ => inductionHypothesis item listed
  | object members tail inductionHypothesis =>
    obtain ⟨between, betweens, rfl, memberwise, permuted⟩ := first
    obtain ⟨moved, others, rfl, memberwiseAgain, permutedAgain⟩ := second
    -- The values are reordered twice before the members are, also twice.
    obtain ⟨met, memberwiseNext, permutedNext⟩ :=
      List.perm_comp_forall₂ permuted (reorderedMembers_iff.mp memberwiseAgain)
    refine ⟨met, others, rfl, reorderedMembers_iff.mpr ?_, permutedNext.trans permutedAgain⟩
    exact forall₂_through (reorderedMembers_iff.mp memberwise) memberwiseNext
      fun member listed _ _ here there =>
        ⟨there.1.trans here.1, inductionHypothesis member listed here.2 there.2⟩
  | _ =>
    obtain rfl := first
    exact second

/-- Members stay reordered when some are left out, if it depends on the names alone which ones
those are, and what is left of the values is reordered. -/
theorem ReorderedMembers.filterMap {members moved : List (String × Json)}
    {image : String → Json → Option Json} (memberwise : ReorderedMembers members moved)
    (each : ∀ key item other, item.Reordered other →
      Option.Rel Reordered (image key item) (image key other)) :
    ReorderedMembers
      (members.filterMap fun member => (image member.1 member.2).map (member.1, ·))
      (moved.filterMap fun member => (image member.1 member.2).map (member.1, ·)) := by
  induction members generalizing moved with
  | nil =>
    obtain rfl := memberwise
    rfl
  | cons member rest inductionHypothesis =>
    obtain ⟨key, item⟩ := member
    obtain ⟨other, behind, reordered, later, rfl⟩ := memberwise
    have kept := each key item other reordered
    have keptBehind := inductionHypothesis later
    simp only [List.filterMap_cons]
    generalize image key item = left at kept
    generalize image key other = right at kept
    cases kept with
    | none => exact keptBehind
    | some same => exact .cons same keptBehind

/-- What holds of what stands opposite to each entry of a list holds of all of the other
list. -/
theorem forall_mem_opposite {α β : Type} {relation : α → β → Prop} {entries : List α}
    {others : List β} {holds : β → Prop} (related : List.Forall₂ relation entries others)
    (each : ∀ entry ∈ entries, ∀ other, relation entry other → holds other) :
    ∀ other ∈ others, holds other := by
  induction related with
  | nil => simp
  | cons first _ inductionHypothesis =>
    rw [List.forall_mem_cons] at each ⊢
    exact ⟨each.1 _ first, inductionHypothesis each.2⟩

/-- A list is well-formed if its items are, unless something is at fault behind them. -/
theorem wellFormed_array_iff {items : List Json} {tail : Option Fault} :
    (array items tail).WellFormed ↔
      (∀ item ∈ items, item.WellFormed) ∧ tail.bind Fault.skipped = none := by
  have itemwise : skipItems items = none ∧ areUnrepeated items = true ↔
      ∀ item ∈ items, item.WellFormed := by
    induction items with
    | nil => simp [skipItems, areUnrepeated]
    | cons item rest inductionHypothesis =>
      rw [List.forall_mem_cons, ← inductionHypothesis]
      simp only [skipItems, areUnrepeated, Option.or_eq_none_iff, Bool.and_eq_true]
      constructor
      · rintro ⟨⟨first, later⟩, firstUnrepeated, laterUnrepeated⟩
        exact ⟨⟨first, firstUnrepeated⟩, later, laterUnrepeated⟩
      · rintro ⟨⟨first, firstUnrepeated⟩, later, laterUnrepeated⟩
        exact ⟨⟨first, later⟩, firstUnrepeated, laterUnrepeated⟩
  constructor
  · intro wellFormed
    refine ⟨wellFormed.items, ?_⟩
    have passes := wellFormed.passes
    rw [skipFault, Option.or_eq_none_iff] at passes
    exact passes.2
  · rintro ⟨each, closed⟩
    obtain ⟨passes, unrepeated⟩ := itemwise.mpr each
    exact ⟨by rw [skipFault, passes, closed]; rfl, unrepeated⟩

/-- An object is well-formed if it repeats no name and its members' values are well-formed,
unless something is at fault behind them. -/
theorem wellFormed_object_iff {members : List (String × Json)} {tail : Option Fault} :
    (object members tail).WellFormed ↔ (members.map Prod.fst).Nodup ∧
      (∀ member ∈ members, member.2.WellFormed) ∧ tail.bind Fault.skipped = none := by
  have memberwise (each : ∀ member ∈ members, member.2.WellFormed) :
      skipMembers members = none ∧ haveUnrepeated members = true := by
    induction members with
    | nil => simp [skipMembers, haveUnrepeated]
    | cons member rest inductionHypothesis =>
      rw [List.forall_mem_cons] at each
      obtain ⟨passes, unrepeated⟩ := inductionHypothesis each.2
      simp [skipMembers, haveUnrepeated, each.1.passes, each.1.unrepeated, passes, unrepeated]
  constructor
  · intro wellFormed
    obtain ⟨distinct, each⟩ := wellFormed.members
    have passes := wellFormed.passes
    rw [skipFault, Option.or_eq_none_iff] at passes
    exact ⟨distinct, each, passes.2⟩
  · rintro ⟨distinct, each, closed⟩
    obtain ⟨passes, unrepeated⟩ := memberwise each
    refine ⟨by rw [skipFault, passes, closed]; rfl, ?_⟩
    rw [Json.unrepeated, unrepeated, Bool.and_true]
    exact decide_eq_true distinct

/-- Reordering moves no name from one member to another. -/
theorem ReorderedMembers.names {members moved : List (String × Json)}
    (reordered : ReorderedMembers members moved) :
    moved.map Prod.fst = members.map Prod.fst := by
  have related := reorderedMembers_iff.mp reordered
  induction related with
  | nil => rfl
  | cons first _ inductionHypothesis =>
    rename_i later
    rw [List.map_cons, List.map_cons, first.1, inductionHypothesis (reorderedMembers_iff.mpr later)]

/-- A well-formed tree stays well-formed when members are reordered. -/
theorem Reordered.wellFormed {tree other : Json} (reordered : tree.Reordered other)
    (wellFormed : tree.WellFormed) : other.WellFormed := by
  induction tree using tree_induction generalizing other with
  | array items tail inductionHypothesis =>
    obtain ⟨others, rfl, itemwise⟩ := reordered
    obtain ⟨each, closed⟩ := wellFormed_array_iff.mp wellFormed
    refine wellFormed_array_iff.mpr ⟨?_, closed⟩
    exact forall_mem_opposite (reorderedItems_iff.mp itemwise) fun item listed other related =>
      inductionHypothesis item listed related (each item listed)
  | object members tail inductionHypothesis =>
    obtain ⟨moved, others, rfl, memberwise, permuted⟩ := reordered
    obtain ⟨distinct, each, closed⟩ := wellFormed_object_iff.mp wellFormed
    refine wellFormed_object_iff.mpr ⟨?_, fun other listed => ?_, closed⟩
    · rw [← memberwise.names] at distinct
      exact (permuted.map Prod.fst).nodup_iff.mp distinct
    · have opposite : ∀ other ∈ moved, other.2.WellFormed :=
        forall_mem_opposite (reorderedMembers_iff.mp memberwise) fun member listed _ related =>
          inductionHypothesis member listed related.2 (each member listed)
      exact opposite other (permuted.mem_iff.mpr listed)
  | _ => exact reordered ▸ wellFormed

/-- Where no name is repeated, the order of the members makes no difference to which one is
found. -/
theorem member?_perm {key : String} {members others : List (String × Json)}
    (distinct : (members.map Prod.fst).Nodup) (permuted : members.Perm others) :
    member? key others = member? key members := by
  cases found : member? key members with
  | none =>
    rw [member?_eq_none] at found ⊢
    exact fun item listed => found item (permuted.mem_iff.mpr listed)
  | some item =>
    exact member?_of_mem ((permuted.map Prod.fst).nodup_iff.mp distinct)
      (permuted.mem_iff.mp (mem_of_member? found))

/-- Two choices are related if both their first and their second options are. -/
theorem rel_or {α β : Type} {relation : α → β → Prop} {first second : Option α}
    {other another : Option β} (firsts : Option.Rel relation first other)
    (seconds : Option.Rel relation second another) :
    Option.Rel relation (first.or second) (other.or another) := by
  cases firsts with
  | some related => exact .some related
  | none => simpa using seconds

/-- Reordered members are found under the same names. -/
theorem ReorderedMembers.member? {members moved : List (String × Json)}
    (reordered : ReorderedMembers members moved) (key : String) :
    Option.Rel Reordered (Json.member? key members) (Json.member? key moved) := by
  have related := reorderedMembers_iff.mp reordered
  induction related with
  | nil => exact .none
  | @cons first other _ _ same later inductionHypothesis =>
    have behind := inductionHypothesis (reorderedMembers_iff.mpr later)
    have here : Option.Rel Reordered (if first.1 = key then some first.2 else none)
        (if other.1 = key then some other.2 else none) := by
      rw [same.1]
      split
      · exact .some same.2
      · exact .none
    rw [member?_cons, member?_cons]
    exact rel_or behind here

/-- Null is reordered to null alone, and nothing else is. -/
theorem Reordered.null_iff {tree other : Json} (reordered : tree.Reordered other) :
    tree = .null ↔ other = .null := by
  rcases tree with _ | _ | _ | _ | ⟨items, tail⟩ | ⟨members, tail⟩ | _
  case array =>
    obtain ⟨others, rfl, _⟩ := reordered
    simp
  case object =>
    obtain ⟨moved, others, rfl, _⟩ := reordered
    simp
  all_goals rw [show other = _ from reordered]

/-- An object with null under one name and with nothing else is the same object in every
order. -/
theorem single_null_iff {members moved others : List (String × Json)}
    (memberwise : ReorderedMembers members moved) (permuted : moved.Perm others) (name : String) :
    members = [(name, .null)] ↔ others = [(name, .null)] := by
  have unmoved : moved = [(name, .null)] ↔ others = [(name, .null)] := by
    constructor
    · rintro rfl
      exact (List.singleton_perm.mp permuted).symm
    · rintro rfl
      exact List.perm_singleton.mp permuted
  rw [← unmoved]
  rcases members with _ | ⟨⟨key, item⟩, _ | ⟨second, rest⟩⟩
  · obtain rfl := memberwise
    rfl
  · obtain ⟨other, behind, reordered, rfl, rfl⟩ := memberwise
    simp [reordered.null_iff]
  · obtain ⟨other, behind, _, ⟨_, _, _, _, rfl⟩, rfl⟩ := memberwise
    simp

end Json

/-! ## Formats that do not look at the order -/

namespace Format

variable {α : Type} {source : Source}

/-- The same values are decoded from a tree however its members are ordered. -/
def OrderFreeAt (format : Format α) (source : Source) (tree : Json) : Prop :=
  ∀ other, tree.Reordered other →
    ∀ value, format.decode source tree = .ok value ↔ format.decode source other = .ok value

/-- The same values are decoded from a well-formed tree however its members are ordered. -/
def OrderFree (format : Format α) : Prop :=
  ∀ source tree, tree.WellFormed → format.OrderFreeAt source tree

/-- A format that takes neither lists nor objects does not look at the order of members. -/
theorem orderFree_of_scalars {format : Format α}
    (lists : ∀ source items tail value, format.decode source (.array items tail) ≠ .ok value)
    (objects : ∀ source members tail value,
      format.decode source (.object members tail) ≠ .ok value) : format.OrderFree := by
  intro source tree _ other reordered value
  rcases tree with _ | _ | _ | _ | ⟨items, tail⟩ | ⟨members, tail⟩ | _
  case array =>
    obtain ⟨others, rfl, _⟩ := reordered
    simp [lists]
  case object =>
    obtain ⟨moved, others, rfl, _⟩ := reordered
    simp [objects]
  all_goals rw [show other = _ from reordered]

/-- Texts have no members. -/
theorem string_orderFree : string.OrderFree :=
  orderFree_of_scalars (by simp [string]) (by simp [string])

/-- Flags have no members. -/
theorem boolean_orderFree : boolean.OrderFree :=
  orderFree_of_scalars (by simp [boolean]) (by simp [boolean])

/-- Whole numbers have no members. -/
theorem integer_orderFree : integer.OrderFree :=
  orderFree_of_scalars (by simp [integer, whole]) (by simp [integer, whole])

/-- Points in time have no members. -/
theorem timestamp_orderFree : timestamp.OrderFree :=
  orderFree_of_scalars (by simp [timestamp]) (by simp [timestamp])

/-- A value that may be unset does not look at the order of members if the value does not. -/
theorem optional_orderFree {inner : Format α} (orderFree : inner.OrderFree) :
    inner.optional.OrderFree := by
  intro source tree wellFormed other reordered value
  rw [optional_decode_iff, optional_decode_iff, reordered.null_iff]
  simp only [ne_eq, reordered.null_iff, orderFree source tree wellFormed other reordered]

/-- A value for which null stands for a default is decoded from null as the default, and from
anything else as the value. -/
theorem nullAs_decode_iff (absent : α) (inner : Format α) (source : Source) (tree : Json)
    (value : α) : (nullAs absent inner).decode source tree = .ok value ↔
      tree = .null ∧ value = absent ∨ tree ≠ .null ∧ inner.decode source tree = .ok value := by
  cases tree <;> simp [nullAs, eq_comm]

/-- A value for which null stands for a default does not look at the order of members if the
value does not. -/
theorem nullAs_orderFree (absent : α) {inner : Format α} (orderFree : inner.OrderFree) :
    (nullAs absent inner).OrderFree := by
  intro source tree wellFormed other reordered value
  rw [nullAs_decode_iff, nullAs_decode_iff, reordered.null_iff]
  simp only [ne_eq, reordered.null_iff, orderFree source tree wellFormed other reordered]

/-- An object is decoded as a variant only if it holds null under one name and nothing
else. -/
theorem decodeVariant_object {variants : List (String × α)} {members : List (String × Json)}
    {tail : Option Json.Fault} {value : α}
    (decoded : decodeVariant variants source (.object members tail) = .ok value) :
    ∃ name, members = [(name, .null)] := by
  have carriesNull (item : Json) (passed : decodeUnit item = .ok ()) : item = .null := by
    cases item <;> simp_all [decodeUnit]
  cases source with
  | text =>
    rcases members with _ | ⟨⟨name, item⟩, rest⟩
    · cases tail <;> simp [decodeVariant] at decoded
    obtain ⟨_, _, decoded⟩ := (Record.then_ok_iff _ _ _).mp decoded
    obtain ⟨_, carried, decoded⟩ := (Record.then_ok_iff _ _ _).mp decoded
    obtain ⟨_, closed, _⟩ := (Record.then_ok_iff _ _ _).mp decoded
    have alone : rest = [] := by
      rcases rest with _ | ⟨second, rest⟩
      · rfl
      · simp [closeVariant] at closed
    exact ⟨name, by rw [alone, carriesNull item carried]⟩
  | collected =>
    rcases members with _ | ⟨⟨name, item⟩, _ | ⟨second, rest⟩⟩
    · simp [decodeVariant] at decoded
    · obtain ⟨_, _, decoded⟩ := (Record.then_ok_iff _ _ _).mp decoded
      obtain ⟨_, carried, _⟩ := (Record.then_ok_iff _ _ _).mp decoded
      exact ⟨name, by rw [carriesNull item carried]⟩
    · simp [decodeVariant] at decoded

/-- A choice does not look at the order of members: it takes no object with several. -/
theorem choice_orderFree (variants : List (String × α)) (name : α → String) :
    (choice variants name).OrderFree := by
  intro source tree _ other reordered value
  rcases tree with _ | _ | _ | _ | ⟨items, tail⟩ | ⟨members, tail⟩ | _
  case array =>
    obtain ⟨others, rfl, _⟩ := reordered
    cases source <;> simp [choice, decodeVariant]
  case object =>
    obtain ⟨moved, others, rfl, memberwise, permuted⟩ := reordered
    have single := Json.single_null_iff memberwise permuted
    constructor
    · intro decoded
      obtain ⟨only, rfl⟩ := decodeVariant_object decoded
      rwa [(single only).mp rfl]
    · intro decoded
      obtain ⟨only, rfl⟩ := decodeVariant_object decoded
      rwa [(single only).mpr rfl]
  all_goals rw [show other = _ from reordered]

/-- The values of items are decoded one by one. -/
theorem decodeItems_ok_iff (inner : Format α) (source : Source) (items : List Json)
    (values : List α) : decodeItems inner source items = .ok values ↔
      List.Forall₂ (fun item value => inner.decode source item = .ok value) items values := by
  induction items generalizing values with
  | nil => simp [decodeItems, eq_comm]
  | cons item rest inductionHypothesis =>
    simp only [decodeItems, Record.then_ok_iff, inductionHypothesis, List.forall₂_cons_left_iff]
    exact exists_congr fun value => by simp [pure, Except.pure, eq_comm]

/-- The values of entries are decoded one by one, under the names of the members. -/
theorem decodeEntries_ok_iff (inner : Format α) (source : Source) (members : List (String × Json))
    (entries : List (String × α)) : decodeEntries inner source members = .ok entries ↔
      List.Forall₂ (fun member entry => entry.1 = member.1 ∧
        inner.decode source member.2 = .ok entry.2) members entries := by
  induction members generalizing entries with
  | nil => simp [decodeEntries, eq_comm]
  | cons member rest inductionHypothesis =>
    obtain ⟨key, item⟩ := member
    simp only [decodeEntries, Record.then_ok_iff, inductionHypothesis,
      List.forall₂_cons_left_iff]
    constructor
    · rintro ⟨value, first, values, later, same⟩
      exact ⟨(key, value), values, ⟨rfl, first⟩, later, (Except.ok.inj same).symm⟩
    · rintro ⟨⟨_, value⟩, values, ⟨rfl, first⟩, later, rfl⟩
      exact ⟨value, first, values, later, rfl⟩

/-- A list is decoded item by item. -/
theorem list_decode_iff (inner : Format α) (source : Source) (items : List Json)
    (tail : Option Json.Fault) (values : List α) :
    inner.list.decode source (.array items tail) = .ok values ↔
      decodeItems inner source items = .ok values ∧ Json.close tail = .ok () := by
  simp only [list, Record.then_ok_iff]
  constructor
  · rintro ⟨_, decoded, _, closed, same⟩
    exact ⟨Except.ok.inj same ▸ decoded, closed⟩
  · rintro ⟨decoded, closed⟩
    exact ⟨values, decoded, (), closed, rfl⟩

/-- A list does not look at the order of members if its items do not. -/
theorem list_orderFreeAt {inner : Format α} {items : List Json} (tail : Option Json.Fault)
    (each : ∀ item ∈ items, inner.OrderFreeAt source item) :
    inner.list.OrderFreeAt source (.array items tail) := by
  rintro _ ⟨others, rfl, itemwise⟩ values
  have same : decodeItems inner source items = .ok values ↔
      decodeItems inner source others = .ok values := by
    simp only [decodeItems_ok_iff]
    have related := Json.reorderedItems_iff.mp itemwise
    clear itemwise
    induction related generalizing values with
    | nil => rfl
    | cons first _ inductionHypothesis =>
      rw [List.forall_mem_cons] at each
      simp only [List.forall₂_cons_left_iff, each.1 _ first, inductionHypothesis each.2]
  rw [list_decode_iff, list_decode_iff, same]

/-- A dictionary is decoded member by member, and the entries are collected. -/
theorem dictionary_decode_iff (inner : Format α) (source : Source)
    (members : List (String × Json)) (tail : Option Json.Fault) (values : Dictionary α) :
    inner.dictionary.decode source (.object members tail) = .ok values ↔
      (∃ entries, decodeEntries inner source members = .ok entries ∧
        Dictionary.ofList entries = values) ∧ Json.close tail = .ok () := by
  simp only [dictionary, Record.then_ok_iff]
  constructor
  · rintro ⟨entries, decoded, _, closed, same⟩
    exact ⟨⟨entries, decoded, Except.ok.inj same⟩, closed⟩
  · rintro ⟨⟨entries, decoded, rfl⟩, closed⟩
    exact ⟨entries, decoded, (), closed, rfl⟩

/-- Entries that are decoded keep their keys. -/
theorem decodeEntries_keys {inner : Format α} {members : List (String × Json)}
    {entries : List (String × α)} (decoded : decodeEntries inner source members = .ok entries) :
    entries.map Prod.fst = members.map Prod.fst := by
  have related := (decodeEntries_ok_iff inner source members entries).mp decoded
  clear decoded
  induction related with
  | nil => rfl
  | cons first _ inductionHypothesis =>
    rw [List.map_cons, List.map_cons, first.1, inductionHypothesis]

/-- From permuted members the entries are decoded in another order. -/
theorem decodeEntries_perm {inner : Format α} {members others : List (String × Json)}
    (permuted : members.Perm others) {entries : List (String × α)}
    (decoded : decodeEntries inner source members = .ok entries) :
    ∃ moved, decodeEntries inner source others = .ok moved ∧ entries.Perm moved := by
  obtain ⟨moved, related, reached⟩ := List.perm_comp_forall₂ permuted.symm
    ((decodeEntries_ok_iff inner source members entries).mp decoded)
  exact ⟨moved, (decodeEntries_ok_iff inner source others moved).mpr related, reached.symm⟩

/-- Where no name is repeated, a dictionary does not look at the order of members if its
values do not: the same entries come in another order, and collecting sorts them. -/
theorem dictionary_orderFreeAt {inner : Format α} {members : List (String × Json)}
    (tail : Option Json.Fault) (distinct : (members.map Prod.fst).Nodup)
    (each : ∀ member ∈ members, inner.OrderFreeAt source member.2) :
    inner.dictionary.OrderFreeAt source (.object members tail) := by
  rintro _ ⟨moved, others, rfl, memberwise, permuted⟩ values
  have same (entries : List (String × α)) : decodeEntries inner source members = .ok entries ↔
      decodeEntries inner source moved = .ok entries := by
    simp only [decodeEntries_ok_iff]
    have related := Json.reorderedMembers_iff.mp memberwise
    clear memberwise permuted distinct
    induction related generalizing entries with
    | nil => rfl
    | cons first _ inductionHypothesis =>
      rw [List.forall_mem_cons] at each
      simp only [List.forall₂_cons_left_iff, first.1, each.1 _ first.2,
        inductionHypothesis each.2]
  rw [← memberwise.names] at distinct
  rw [dictionary_decode_iff, dictionary_decode_iff]
  refine and_congr_left fun _ => ?_
  simp only [same]
  constructor
  · rintro ⟨entries, decoded, rfl⟩
    obtain ⟨reached, decodedOthers, reordered⟩ := decodeEntries_perm permuted decoded
    rw [← decodeEntries_keys decoded] at distinct
    exact ⟨reached, decodedOthers, (Dictionary.ofList_perm distinct reordered).symm⟩
  · rintro ⟨entries, decoded, rfl⟩
    obtain ⟨reached, decodedMoved, reordered⟩ := decodeEntries_perm permuted.symm decoded
    rw [← decodeEntries_keys decodedMoved] at distinct
    exact ⟨reached, decodedMoved, Dictionary.ofList_perm distinct reordered.symm⟩

/-- What becomes of a value that is decoded and then changed. -/
theorem map_ok_iff {β : Type} (result : Except Json.Refusal α) (image : α → β) (value : β) :
    result.map image = .ok value ↔ ∃ part, result = .ok part ∧ image part = value := by
  cases result <;> simp [Except.map]

/-- Sorting the items of a list is decoding them one by one. -/
theorem canonicalItems_eq (source : Source) (items : List Json) :
    Json.canonicalItems items = decodeItems unstructured source items := by
  induction items with
  | nil => rfl
  | cons item rest inductionHypothesis =>
    rw [Json.canonicalItems, decodeItems, inductionHypothesis]
    rfl

/-- Sorting the values of members is decoding them one by one. -/
theorem canonicalMembers_eq (source : Source) (members : List (String × Json)) :
    Json.canonicalMembers members = decodeEntries unstructured source members := by
  induction members with
  | nil => rfl
  | cons member rest inductionHypothesis =>
    rw [Json.canonicalMembers, decodeEntries, inductionHypothesis]
    rfl

/-- A tree of any shape that is a list is decoded as a list of such trees. -/
theorem unstructured_array (source : Source) (items : List Json) (tail : Option Json.Fault) :
    unstructured.decode source (.array items tail) =
      (unstructured.list.decode source (.array items tail)).map (.array · none) := by
  change (do
      let sorted ← Json.canonicalItems items
      Json.close tail
      pure (Json.array sorted none)) = Except.map _ (do
      let values ← decodeItems unstructured source items
      Json.close tail
      pure values)
  rw [canonicalItems_eq source]
  cases decodeItems unstructured source items <;> cases Json.close tail <;> rfl

/-- A tree of any shape that is an object is decoded as a dictionary of such trees. -/
theorem unstructured_object (source : Source) (members : List (String × Json))
    (tail : Option Json.Fault) : unstructured.decode source (.object members tail) =
      (unstructured.dictionary.decode source (.object members tail)).map
        fun values => .object values.entries none := by
  change (do
      let sorted ← Json.canonicalMembers members
      Json.close tail
      pure (Json.object (Dictionary.ofList sorted).entries none)) = Except.map _ (do
      let entries ← decodeEntries unstructured source members
      Json.close tail
      pure (Dictionary.ofList entries))
  rw [canonicalMembers_eq source]
  cases decodeEntries unstructured source members <;> cases Json.close tail <;> rfl

/-- Trees of any shape are kept sorted, so the order of members in them does not show. -/
theorem unstructured_orderFree : unstructured.OrderFree := by
  intro source tree wellFormed
  induction tree using Json.tree_induction with
  | array items tail inductionHypothesis =>
    have listwise := list_orderFreeAt tail fun item listed =>
      inductionHypothesis item listed (wellFormed.items item listed)
    intro other reordered value
    have same := listwise other reordered
    obtain ⟨others, rfl, _⟩ := reordered
    simp only [unstructured_array, map_ok_iff, same]
  | object members tail inductionHypothesis =>
    obtain ⟨distinct, each⟩ := wellFormed.members
    have memberwise := dictionary_orderFreeAt tail distinct fun member listed =>
      inductionHypothesis member listed (each member listed)
    intro other reordered value
    have same := memberwise other reordered
    obtain ⟨moved, others, rfl, _⟩ := reordered
    simp only [unstructured_object, map_ok_iff, same]
  | _ =>
    intro other reordered value
    rw [show other = _ from reordered]

/-- Lists do not look at the order of members if their items do not. -/
theorem list_orderFree {inner : Format α} (orderFree : inner.OrderFree) :
    inner.list.OrderFree := by
  intro source tree wellFormed
  rcases tree with _ | _ | _ | _ | ⟨items, tail⟩ | ⟨members, tail⟩ | _
  case array =>
    exact list_orderFreeAt tail fun item listed =>
      orderFree source item (wellFormed.items item listed)
  case object =>
    rintro other ⟨moved, others, rfl, _⟩ value
    simp [list]
  all_goals
    intro other reordered value
    rw [show other = _ from reordered]

/-- Dictionaries do not look at the order of members if their values do not. -/
theorem dictionary_orderFree {inner : Format α} (orderFree : inner.OrderFree) :
    inner.dictionary.OrderFree := by
  intro source tree wellFormed
  rcases tree with _ | _ | _ | _ | ⟨items, tail⟩ | ⟨members, tail⟩ | _
  case array =>
    rintro other ⟨others, rfl, _⟩ value
    simp [dictionary]
  case object =>
    obtain ⟨distinct, each⟩ := wellFormed.members
    exact dictionary_orderFreeAt tail distinct fun member listed =>
      orderFree source member.2 (each member listed)
  all_goals
    intro other reordered value
    rw [show other = _ from reordered]

end Format

/-! ## Records that do not look at the order -/

namespace Record

variable {R : Type} {record : Record R} {source : Source}

/-- A record is decoded from a well-formed object exactly if every field of it comes from the
members. -/
theorem decodeObject_ok_iff (lawful : record.Lawful) {repeats : Bool}
    {members : List (String × Json)} {tail : Option Json.Fault}
    (wellFormed : (Json.object members tail).WellFormed) (value : R) :
    record.decodeObject repeats source members tail = .ok value ↔
      tail = none ∧ ∀ field ∈ record.fields, FieldFrom source members value field := by
  constructor
  · exact decodeObject_ok lawful
  · rintro ⟨rfl, come⟩
    obtain ⟨distinct, each⟩ := wellFormed.members
    exact decodeObject_of_fields lawful repeats source value members distinct come
      fun key item listed _ => (each (key, item) listed).passes

/-- A field comes from reordered members as it comes from the members before. -/
theorem fieldFrom_reordered {members moved others : List (String × Json)}
    (distinct : (members.map Prod.fst).Nodup) (each : ∀ member ∈ members, member.2.WellFormed)
    (memberwise : Json.ReorderedMembers members moved) (permuted : moved.Perm others)
    {field : Field R} (orderFree : field.format.OrderFree) (value : R) :
    FieldFrom source members value field ↔ FieldFrom source others value field := by
  have opposite := memberwise.member? field.key
  rw [← memberwise.names] at distinct
  rw [← Json.member?_perm distinct permuted] at opposite
  rw [FieldFrom, FieldFrom]
  cases found : Json.member? field.key members with
  | none =>
    cases foundOther : Json.member? field.key others with
    | none => rfl
    | some other =>
      rw [found, foundOther] at opposite
      cases opposite
  | some item =>
    cases foundOther : Json.member? field.key others with
    | none =>
      rw [found, foundOther] at opposite
      cases opposite
    | some other =>
      rw [found, foundOther] at opposite
      obtain ⟨reordered⟩ := opposite
      exact orderFree source item (each _ (Json.mem_of_member? found)) other reordered _

/-- Objects are decoded to the same records however their members are ordered, if the fields
of the record are. -/
theorem decodeObject_reordered (lawful : record.Lawful)
    (fields : ∀ field ∈ record.fields, field.format.OrderFree) (repeats : Bool)
    {members others moved : List (String × Json)} {tail : Option Json.Fault}
    (wellFormed : (Json.object members tail).WellFormed)
    (memberwise : Json.ReorderedMembers members moved) (permuted : moved.Perm others) (value : R) :
    record.decodeObject repeats source members tail = .ok value ↔
      record.decodeObject repeats source others tail = .ok value := by
  have reordered : (Json.object members tail).Reordered (.object others tail) :=
    ⟨moved, others, rfl, memberwise, permuted⟩
  obtain ⟨distinct, each⟩ := wellFormed.members
  rw [decodeObject_ok_iff lawful wellFormed,
    decodeObject_ok_iff lawful (reordered.wellFormed wellFormed)]
  refine and_congr_right fun _ => forall_congr' fun field => forall_congr' fun listed => ?_
  exact fieldFrom_reordered distinct each memberwise permuted (fields field listed) value

/-- A record that is written as a list is read by position, so the items may be reordered
one by one. -/
theorem decodeItems_reordered (count : Nat) (tail : Option Json.Fault) (fields : List (Field R))
    (orderFree : ∀ field ∈ fields, field.format.OrderFree) {items others : List Json}
    (each : ∀ item ∈ items, item.WellFormed) (itemwise : Json.ReorderedItems items others)
    (place : Nat) (start value : R) :
    record.decodeItems source count tail fields items place start = .ok value ↔
      record.decodeItems source count tail fields others place start = .ok value := by
  induction fields generalizing items others place start with
  | nil =>
    rcases items with _ | ⟨item, rest⟩
    · obtain rfl := itemwise
      rfl
    · obtain ⟨other, behind, _, _, rfl⟩ := itemwise
      cases source <;> cases tail <;> rfl
  | cons field fields inductionHypothesis =>
    rw [List.forall_mem_cons] at orderFree
    rcases items with _ | ⟨item, rest⟩
    · obtain rfl := itemwise
      rfl
    · obtain ⟨other, behind, first, later, rfl⟩ := itemwise
      rw [List.forall_mem_cons] at each
      simp only [decodeItems, then_ok_iff, orderFree.1 source item each.1 other first,
        inductionHypothesis orderFree.2 each.2 later]

/-- A record of the library's own resources does not look at the order of members if its
fields do not. -/
theorem format_orderFree (lawful : record.Lawful)
    (fields : ∀ field ∈ record.fields, field.format.OrderFree) : record.format.OrderFree := by
  intro source tree wellFormed
  rcases tree with _ | _ | _ | _ | ⟨items, tail⟩ | ⟨members, tail⟩ | _
  case array =>
    rintro other ⟨others, rfl, itemwise⟩ value
    have length := (Json.reorderedItems_iff.mp itemwise).length_eq
    simp only [format, ← length]
    exact decodeItems_reordered _ tail record.fields fields wellFormed.items itemwise 0 _ value
  case object =>
    rintro other ⟨moved, others, rfl, memberwise, permuted⟩ value
    exact decodeObject_reordered lawful fields false wellFormed memberwise permuted value
  all_goals
    intro other reordered value
    rw [show other = _ from reordered]

/-- A core type of the cluster does not look at the order of members if its fields do not. -/
theorem coreFormat_orderFree (lawful : record.Lawful)
    (fields : ∀ field ∈ record.fields, field.format.OrderFree) : record.coreFormat.OrderFree := by
  intro source tree wellFormed
  rcases tree with _ | _ | _ | _ | ⟨items, tail⟩ | ⟨members, tail⟩ | _
  case array =>
    rintro other ⟨others, rfl, itemwise⟩ value
    simp [coreFormat]
  case object =>
    rintro other ⟨moved, others, rfl, memberwise, permuted⟩ value
    exact decodeObject_reordered lawful fields true wellFormed memberwise permuted value
  all_goals
    intro other reordered value
    rw [show other = _ from reordered]

end Record

end BucketMount
