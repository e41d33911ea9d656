import BucketMount.Yaml.Value

/-!
# Documents as values

A document's value follows its aliases, understands its plain scalars and refuses a
key that comes twice. Lists and mappings may be nested so deep and no deeper, and
aliases may be followed only so often, which ends a document that contains itself.
A refusal that concerns a place says where it is; everything before that place has
been understood.

Merging one mapping into another by a special key is not modelled: that key is a
key like any other.
-/

namespace BucketMount.Yaml

/-- A step from a node to one inside it: to an item, to the value under a scalar, or
to the value under any other key. -/
inductive PathStep where
  | item (place : Nat)
  | value (key : String)
  | unnamed
  deriving DecidableEq, Repr

/-- A way from the root of a document, the last step first. -/
abbrev Path := List PathStep

namespace Path

/-- The text of a way; the root is a point. -/
def text : Path → String
  | [] => "."
  | .item place :: before => text before ++ s!"[{place}]"
  | .value key :: before => (if before.isEmpty then "" else text before ++ ".") ++ key
  | .unnamed :: before => (if before.isEmpty then "" else text before ++ ".") ++ "?"

/-- The text of a way before a message; the root needs none. -/
def label (path : Path) : String := if path.text = "." then "" else path.text ++ ": "

end Path

/-- What is wrong with a node that is well formed. -/
inductive Complaint where
  | repeatedKey (key : Value)
  | emptyTag
  | tooWide (value : Int)
  | misspelled (word expected : String)

/-- The wording of a complaint. -/
def Complaint.message : Complaint → String
  | .repeatedKey key =>
    "duplicate entry " ++ match key with
      | .null => "with null key"
      | .boolean value => s!"with key `{value}`"
      | .number value => s!"with key {value.text}"
      | .text value => s!"with key {Text.quoted value}"
      | _ => "in YAML map"
  | .emptyTag => "empty YAML tag is not allowed"
  | .tooWide value =>
    "invalid type: integer " ++ s!"`{value}`" ++ (if value < 0 then " as i128" else " as u128") ++
      ", expected any YAML value"
  | .misspelled word expected =>
    s!"invalid value: string {Text.quoted word}, expected {expected}"

/-- Why a document has no value. -/
inductive Refusal where
  | malformed (cause : Malformation)
  | tooDeep
  | tooManyAliases
  | refused (path : Path) (cause : Complaint)

/-- The wording of a refusal. -/
def Refusal.message : Refusal → String
  | .malformed cause => cause.message
  | .tooDeep => "recursion limit exceeded"
  | .tooManyAliases => "repetition limit exceeded"
  | .refused path cause => path.label ++ cause.message

/-- The value of a scalar. Only a known tag changes how it is understood; any other
makes it a text, unless it is a tag of one's own. -/
def scalarValue (tag : Option Tag) (word : String) (plain : Bool) : Except Complaint Value :=
  let whole (value : Int) : Except Complaint Value :=
    if fitsIn 64 value then .ok (.number (.whole value)) else .error (.tooWide value)
  match tag with
  | some .boolean => (flag? word).elim (.error (.misspelled word "a boolean")) (.ok ∘ .boolean)
  | some .integer => (integer? word).elim (.error (.misspelled word "an integer")) whole
  | some .float => (real? word).elim (.error (.misspelled word "a float")) (.ok ∘ .number)
  | some .null => if isNull word then .ok .null else .error (.misspelled word "null")
  | some .other => .ok (.text word)
  | some (.named _) | none =>
    if plain then (plainValue word).mapError .tooWide else .ok (.text word)

/-- Reading nodes counts the aliases followed. -/
abbrev Reading := StateT Nat (Except Refusal)

namespace Node

/-- The node that a node stands for. -/
def followed (root : Node) (node : Node) : Reading Node :=
  match node with
  | .aliased anchor => fun jumps =>
    if 100 * root.steps < jumps + 1 then .error .tooManyAliases
    else match root.anchored? anchor with
      | some target => .ok (target, jumps + 1)
      | none => .error (.malformed .anchorUnknown)
  | node => pure node

/-- The deepest nesting of lists and mappings. -/
def deepest : Nat := 128

/-- A fault behind the last entry ends the reading. -/
def close (tail : Option Malformation) : Reading Unit :=
  match tail with
  | some cause => throw (.malformed cause)
  | none => pure ()

/-- The name in a tag of one's own; it may not be empty. -/
def ownTag? (path : Path) (inTag : Bool) (properties : Properties) : Reading (Option String) :=
  match inTag, properties.tag with
  | false, some (.named name) =>
    if name = "" then throw (.refused path .emptyTag) else pure (some name)
  | _, _ => pure none

/-- A value under a tag, if there is one. -/
def underTag (tag : Option String) (value : Value) : Value :=
  match tag with
  | some tag => .tagged tag value
  | none => value

/-- The step to the value under a key. -/
def stepUnder : Node → PathStep
  | .scalar _ text _ => .value text
  | _ => .unnamed

/-- The value of a node that may hold lists and mappings nested so deep. The keys of a
mapping with a tag of one's own have no tags. -/
def valueOf (root : Node) : (depth : Nat) → (inTag : Bool) → Path → Node → Reading Value
  | depth, inTag, path, node => do
    match depth, ← followed root node with
    | _, .fault cause => throw (.malformed cause)
    | _, .aliased _ => throw (.malformed .anchorUnknown)
    | _, .scalar properties text plain => do
      let tag ← ownTag? path inTag properties
      match scalarValue (if inTag then none else properties.tag) text plain with
      | .ok value => pure (underTag tag value)
      | .error cause => throw (.refused path cause)
    | 0, .list properties _ _ | 0, .mapping properties _ _ => do
      let _ ← ownTag? path inTag properties
      throw .tooDeep
    | depth + 1, .list properties items tail => do
      let tag ← ownTag? path inTag properties
      let values ← items.zipIdx.mapM fun (item, place) =>
        valueOf root depth false (.item place :: path) item
      close tail
      pure (underTag tag (.list values))
    | depth + 1, .mapping properties entries tail => do
      let tag ← ownTag? path inTag properties
      let read ← entries.foldlM (fun (read : List (Value × Value)) (key, value) => do
        let name ← valueOf root depth (inTag || tag.isSome) path key
        if let some known := read.find? fun entry => entry.1.same name then
          throw (.refused path (.repeatedKey known.1))
        let held ← valueOf root depth false (stepUnder key :: path) value
        pure ((name, held) :: read)) []
      close tail
      pure (underTag tag (.mapping read.reverse))

end Node

/-- The value of a document. -/
def Document.value (document : Document) : Except Refusal Value := do
  let (value, _) ← document.root.valueOf Node.deepest false [] document.root 0
  match document.tail with
  | some cause => throw (.malformed cause)
  | none => pure value

end BucketMount.Yaml
