/-!
# How a text can fail to be YAML

A malformation says what was wrong and, for most, what was being read when it
was met. Lines and columns are not modelled; only a character that no document
may hold tells its place, in bytes from the beginning of the text.
-/

namespace BucketMount.Yaml

/-- How a text can fail to be YAML. A flag tells a directive from a tag, an alias
from an anchor, and a block from a flow. -/
inductive Malformation where
  | forbiddenCharacter (offset : Nat)
  | noToken
  | colonMissing
  | entryNotAllowed
  | keyNotAllowed
  | valueNotAllowed
  | directiveUnnamed
  | directiveNameGoesOn
  | directiveUnknown
  | directiveGoesOn
  | versionWithoutPoint
  | versionWithoutNumber
  | versionTooLong
  | handleWithoutMark (directive : Bool)
  | handleUnclosed
  | handleGoesOn
  | meaningGoesOn
  | nameExpected (isAlias : Bool)
  | uriExpected (directive : Bool)
  | octetExpected (directive : Bool)
  | octetLeads (directive : Bool)
  | octetTrails (directive : Bool)
  | tagUnclosed
  | tagGoesOn
  | blockHeadGoesOn
  | indentationZero
  | indentationByTab
  | quoteMeetsMark
  | quoteUnclosed
  | escapeUnknown
  | digitsExpected
  | codePointInvalid
  | colonInFlow
  | tabBeforeWord
  | documentStartExpected
  | versionRepeated
  | versionUnknown
  | handleRepeated
  | handleUnknown
  | nodeExpected (block : Bool)
  | dashExpected
  | keyExpected
  | listSeparatorExpected
  | mappingSeparatorExpected
  | anchorUnknown
  deriving DecidableEq, Repr

namespace Malformation

/-- What is read where a tag may stand. -/
def tagReading (directive : Bool) : String :=
  if directive then "while parsing a %TAG directive" else "while parsing a tag"

/-- The wording of a malformation. -/
def message : Malformation → String
  | .forbiddenCharacter offset =>
    "control characters are not allowed" ++ (if offset = 0 then "" else s!" at position {offset}")
  | .noToken => "found character that cannot start any token, while scanning for the next token"
  | .colonMissing => "could not find expected ':', while scanning a simple key"
  | .entryNotAllowed => "block sequence entries are not allowed in this context"
  | .keyNotAllowed => "mapping keys are not allowed in this context"
  | .valueNotAllowed => "mapping values are not allowed in this context"
  | .directiveUnnamed => "could not find expected directive name, while scanning a directive"
  | .directiveNameGoesOn => "found unexpected non-alphabetical character, while scanning a directive"
  | .directiveUnknown => "found unknown directive name, while scanning a directive"
  | .directiveGoesOn => "did not find expected comment or line break, while scanning a directive"
  | .versionWithoutPoint =>
    "did not find expected digit or '.' character, while scanning a %YAML directive"
  | .versionWithoutNumber => "did not find expected version number, while scanning a %YAML directive"
  | .versionTooLong => "found extremely long version number, while scanning a %YAML directive"
  | .handleWithoutMark directive =>
    "did not find expected '!', while scanning a tag" ++ (if directive then " directive" else "")
  | .handleUnclosed => "did not find expected '!', while parsing a tag directive"
  | .handleGoesOn => "did not find expected whitespace, while scanning a %TAG directive"
  | .meaningGoesOn => "did not find expected whitespace or line break, while scanning a %TAG directive"
  | .nameExpected isAlias =>
    "did not find expected alphabetic or numeric character, while scanning an " ++
      (if isAlias then "alias" else "anchor")
  | .uriExpected directive => "did not find expected tag URI, " ++ tagReading directive
  | .octetExpected directive => "did not find URI escaped octet, " ++ tagReading directive
  | .octetLeads directive => "found an incorrect leading UTF-8 octet, " ++ tagReading directive
  | .octetTrails directive => "found an incorrect trailing UTF-8 octet, " ++ tagReading directive
  | .tagUnclosed => "did not find the expected '>', while scanning a tag"
  | .tagGoesOn => "did not find expected whitespace or line break, while scanning a tag"
  | .blockHeadGoesOn => "did not find expected comment or line break, while scanning a block scalar"
  | .indentationZero => "found an indentation indicator equal to 0, while scanning a block scalar"
  | .indentationByTab =>
    "found a tab character where an indentation space is expected, while scanning a block scalar"
  | .quoteMeetsMark => "found unexpected document indicator, while scanning a quoted scalar"
  | .quoteUnclosed => "found unexpected end of stream, while scanning a quoted scalar"
  | .escapeUnknown => "found unknown escape character, while parsing a quoted scalar"
  | .digitsExpected => "did not find expected hexdecimal number, while parsing a quoted scalar"
  | .codePointInvalid => "invalid Unicode character escape code, while parsing a quoted scalar"
  | .colonInFlow => "found unexpected ':', while scanning a plain scalar"
  | .tabBeforeWord => "found a tab character that violates indentation, while scanning a plain scalar"
  | .documentStartExpected => "did not find expected <document start>"
  | .versionRepeated => "found duplicate %YAML directive"
  | .versionUnknown => "found incompatible YAML document"
  | .handleRepeated => "found duplicate %TAG directive"
  | .handleUnknown => "found undefined tag handle, while parsing a node"
  | .nodeExpected block =>
    "did not find expected node content, while parsing a " ++ (if block then "block" else "flow") ++
      " node"
  | .dashExpected => "did not find expected '-' indicator, while parsing a block collection"
  | .keyExpected => "did not find expected key, while parsing a block mapping"
  | .listSeparatorExpected =>
    "did not find expected ',' or ']', while parsing a flow sequence"
  | .mappingSeparatorExpected =>
    "did not find expected ',' or '\x7d', while parsing a flow mapping"
  | .anchorUnknown => "unknown anchor"

end Malformation

end BucketMount.Yaml
