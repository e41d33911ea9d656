/-!
# Dictionaries in key order

A dictionary is a list of entries whose keys ascend strictly, compared by code
point, which is also the order of their encoded bytes. Two dictionaries with the
same entries are therefore equal. Inserting an entry replaces the value of an
equal key, so the last of several entries wins.
-/

namespace BucketMount

/-- Entries in strictly ascending order of their keys. -/
structure Dictionary (α : Type) where
  entries : List (String × α)
  ascending : entries.Pairwise fun left right => left.1 < right.1

namespace Dictionary

variable {α : Type}

/-- Puts an entry in its place, or in place of the entry with an equal key. -/
def insertEntry (key : String) (value : α) : List (String × α) → List (String × α)
  | [] => [(key, value)]
  | (other, old) :: rest =>
    if key < other then (key, value) :: (other, old) :: rest
    else if key = other then (key, value) :: rest
    else (other, old) :: insertEntry key value rest

/-- An inserted list holds the new key and otherwise only old ones. -/
theorem key_of_insertEntry (key : String) (value : α) (entries : List (String × α))
    (entry : String × α) (member : entry ∈ insertEntry key value entries) :
    entry.1 = key ∨ entry ∈ entries := by
  induction entries with
  | nil => simp_all [insertEntry]
  | cons first rest inductionHypothesis =>
    obtain ⟨other, old⟩ := first
    simp only [insertEntry] at member
    split at member
    · rcases List.mem_cons.mp member with rfl | later
      · exact .inl rfl
      · exact .inr later
    · split at member
      · rcases List.mem_cons.mp member with rfl | later
        · exact .inl rfl
        · exact .inr (List.mem_cons_of_mem _ later)
      · rcases List.mem_cons.mp member with rfl | later
        · exact .inr List.mem_cons_self
        · rcases inductionHypothesis later with same | old
          · exact .inl same
          · exact .inr (List.mem_cons_of_mem _ old)

/-- Inserting keeps the keys in strictly ascending order. -/
theorem ascending_insertEntry (key : String) (value : α) (entries : List (String × α))
    (ascending : entries.Pairwise fun left right => left.1 < right.1) :
    (insertEntry key value entries).Pairwise fun left right => left.1 < right.1 := by
  induction entries with
  | nil => simp [insertEntry]
  | cons first rest inductionHypothesis =>
    obtain ⟨other, old⟩ := first
    obtain ⟨below, tail⟩ := List.pairwise_cons.mp ascending
    simp only [insertEntry]
    split
    · rename_i before
      refine List.pairwise_cons.mpr ⟨fun entry member => ?_, ascending⟩
      rcases List.mem_cons.mp member with rfl | later
      · exact before
      · exact String.lt_trans before (below entry later)
    · split
      · rename_i same
        subst same
        exact List.pairwise_cons.mpr ⟨below, tail⟩
      · rename_i notBefore notSame
        refine List.pairwise_cons.mpr ⟨fun entry member => ?_, inductionHypothesis tail⟩
        rcases key_of_insertEntry key value rest entry member with same | later
        · rw [same]
          rcases Classical.em (other < key) with after | notAfter
          · exact after
          · exact absurd (String.le_antisymm (String.not_lt.mp notAfter)
              (String.not_lt.mp notBefore)) notSame
        · exact below entry later

/-- The dictionary without entries. -/
def empty : Dictionary α := ⟨[], .nil⟩

instance : Inhabited (Dictionary α) := ⟨empty⟩

instance [DecidableEq α] : DecidableEq (Dictionary α) := fun left right =>
  if same : left.entries = right.entries then
    .isTrue (by cases left; cases right; simp_all)
  else .isFalse fun equal => same (congrArg entries equal)

/-- Adds an entry, or replaces the value of an equal key. -/
def insert (dictionary : Dictionary α) (key : String) (value : α) : Dictionary α :=
  ⟨insertEntry key value dictionary.entries,
    ascending_insertEntry key value dictionary.entries dictionary.ascending⟩

/-- Removes an entry, if there is one. -/
def erase (dictionary : Dictionary α) (key : String) : Dictionary α :=
  ⟨dictionary.entries.filter fun entry => entry.1 != key, dictionary.ascending.filter _⟩

/-- Collects entries in order; the last of several entries with one key wins. -/
def ofList (entries : List (String × α)) : Dictionary α :=
  entries.foldl (fun dictionary entry => dictionary.insert entry.1 entry.2) empty

/-- The value of a key. -/
def get? (dictionary : Dictionary α) (key : String) : Option α :=
  (dictionary.entries.find? fun entry => entry.1 == key).map Prod.snd

/-- Inserting an entry changes the value of its key and of no other. -/
theorem get?_insert (dictionary : Dictionary α) (key other : String) (value : α) :
    (dictionary.insert key value).get? other =
      if key = other then some value else dictionary.get? other := by
  obtain ⟨entries, ascending⟩ := dictionary
  simp only [get?, insert]
  clear ascending
  induction entries with
  | nil => by_cases same : key = other <;> simp [insertEntry, same]
  | cons first rest inductionHypothesis =>
    obtain ⟨name, old⟩ := first
    rw [insertEntry]
    split
    · by_cases same : key = other <;> simp [same]
    split
    · rename_i replaced
      subst replaced
      by_cases same : key = other <;> simp [same]
    · rename_i notSame
      by_cases here : name = other
      · simp [here, show key ≠ other from fun same => notSame (same.trans here.symm)]
      · simpa [here] using inductionHypothesis

/-- True for the dictionary without entries. -/
def isEmpty (dictionary : Dictionary α) : Bool := dictionary.entries.isEmpty

end Dictionary

end BucketMount
