import BucketMount.Yaml.Malformation

/-!
# Tokens of a YAML text

Blocks have no brackets in the text, so their beginnings and ends are tokens that
the indentation yields. A token that is no mark carries what it says. Where the
text stops being YAML stands a fault in place of the tokens behind.
-/

namespace BucketMount.Yaml

/-- A token. The meaning of a handle and the ending of a tag are bytes, since
escapes in them may spell any. -/
inductive Token where
  | version (major minor : Nat)
  | handle (name : String) (meaning : List UInt8)
  | documentStart
  | documentEnd
  | streamEnd
  | blockList
  | blockMapping
  | blockEnd
  | listOpen
  | listClose
  | mappingOpen
  | mappingClose
  | dash
  | comma
  | key
  | value
  | aliased (name : String)
  | anchor (name : String)
  | tag (handle : String) (ending : List UInt8)
  | scalar (text : String) (plain : Bool)
  | fault (cause : Malformation)
  deriving DecidableEq, Repr

end BucketMount.Yaml
