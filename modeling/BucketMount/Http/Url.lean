/-!
# Addresses of services

An address is a path with an optional query, or a scheme and an authority before
them. What follows a number sign is cut off. Most characters may stand in a path
as they are; blanks, angle brackets, the back quote and controls may not. A query
is laxer about the back quote and stricter about the double quote.

Nothing is decoded or put in normal form, except that the two usual schemes are
shown in lower case and an empty path behind an authority is shown as a slash.
-/

namespace BucketMount.Http

/-- Why a text is no address. -/
inductive UrlFault where
  | badCharacter
  | badAuthority
  | badFormat
  | tooLong
  | empty
  | schemeTooLong
  deriving DecidableEq, Repr

/-- The wording of a fault. -/
def UrlFault.message : UrlFault → String
  | .badCharacter => "invalid uri character"
  | .badAuthority => "invalid authority"
  | .badFormat => "invalid format"
  | .tooLong => "uri too long"
  | .empty => "empty string"
  | .schemeTooLong => "scheme too long"

/-- The most bytes that an address may have. -/
def longest : Nat := 65534

/-- True for a character that may stand in a path. -/
def inPath (character : Char) : Bool :=
  let code := character.toNat
  0x21 ≤ code && code != 0x3c && code != 0x3e && code != 0x60 && code != 0x7f

/-- True for a character that may stand in a query. -/
def inQuery (character : Char) : Bool :=
  let code := character.toNat
  0x21 ≤ code && code != 0x22 && code != 0x3c && code != 0x3e && code != 0x7f

/-- A path and what stands behind its first question mark. -/
structure Target where
  path : String
  query : Option String
  deriving DecidableEq, Repr

namespace Target

/-- Reads a path with an optional query, up to a number sign. -/
def ofCharacters (characters : List Char) : Except UrlFault Target :=
  let path := characters.takeWhile fun character => character != '?' && character != '#'
  if !path.all inPath then .error .badCharacter
  else match characters.drop path.length with
    | '?' :: rest =>
      let query := rest.takeWhile (· != '#')
      if !query.all inQuery then .error .badCharacter
      else .ok ⟨String.ofList path, some (String.ofList query)⟩
    | _ => .ok ⟨String.ofList path, none⟩

/-- The text of a target. -/
def text (target : Target) : String :=
  match target.query with
  | some query => target.path ++ "?" ++ query
  | none => target.path

end Target

/-- True for a character that may stand in a scheme. -/
def inScheme (character : Char) : Bool :=
  character.isAlphanum || character == '+' || character == '-' || character == '.'
    || character == '~'

/-- True for a character that may stand in an authority besides a percent sign. -/
def inAuthority (character : Char) : Bool :=
  character.isAlphanum || ['!', '$', '&', '\x27', '(', ')', '*', '+', ',', '-', '.', ':', ';', '=',
    '@', '[', ']', '_', '~'].contains character

/-- Separates a scheme from what stands behind the two slashes. -/
def splitScheme (characters : List Char) : Except UrlFault (Option String × List Char) :=
  let letters := characters.takeWhile inScheme
  match characters.drop letters.length with
  | ':' :: '/' :: '/' :: rest =>
    let lower := String.ofList (letters.map Char.toLower)
    if lower = "http" ∨ lower = "https" then .ok (some lower, rest)
    else if 64 < letters.length then .error .schemeTooLong
    else .ok (some (String.ofList letters), rest)
  | _ => .ok (none, characters)

/-- What has been seen of an authority: colons and a percent sign since the last
mark that makes them harmless, and brackets. -/
structure AuthorityState where
  colons : Nat
  opened : Bool
  closed : Bool
  percent : Bool

/-- Looks at one character of an authority. -/
def AuthorityState.step (state : AuthorityState) (character : Char) :
    Except UrlFault AuthorityState :=
  if character = ':' then
    if 8 ≤ state.colons then .error .badAuthority else .ok { state with colons := state.colons + 1 }
  else if character = '[' then
    if state.percent || state.opened then .error .badAuthority else .ok { state with opened := true }
  else if character = ']' then
    if !state.opened || state.closed then .error .badAuthority
    else .ok { state with closed := true, colons := 0, percent := false }
  else if character = '@' then .ok { state with colons := 0, percent := false }
  else if character = '%' then .ok { state with percent := true }
  else if inAuthority character then .ok state
  else .error .badCharacter

/-- Looks at an authority: brackets come in one pair, at most one colon stands
outside of them and of a user, something follows a user, and only a user may
contain a percent sign. -/
def checkAuthority (characters : List Char) : Except UrlFault Unit := do
  let state ← characters.foldlM AuthorityState.step ⟨0, false, false, false⟩
  if state.opened != state.closed || 1 < state.colons || characters.getLast? == some '@'
      || state.percent then
    throw .badAuthority

/-- The address of a service. -/
structure Url where
  scheme : Option String
  authority : String
  target : Target
  deriving DecidableEq, Repr

namespace Url

/-- Ends an authority. -/
def endsAuthority (character : Char) : Bool :=
  character == '/' || character == '?' || character == '#'

/-- Reads an address that begins with no slash. -/
def ofFull (characters : List Char) : Except UrlFault Url := do
  let (scheme, rest) ← splitScheme characters
  let authority := rest.takeWhile fun character => !endsAuthority character
  checkAuthority authority
  let behind := rest.drop authority.length
  match scheme with
  | none =>
    if behind.isEmpty then pure ⟨none, String.ofList authority, ⟨"", none⟩⟩
    else throw .badFormat
  | some scheme =>
    if rest.isEmpty then throw .empty
    if authority.isEmpty then throw .badFormat
    let target ← Target.ofCharacters behind
    pure ⟨some scheme, String.ofList authority, target⟩

/-- Reads an address. -/
def ofText (text : String) : Except UrlFault Url :=
  if longest < text.utf8ByteSize then .error .tooLong
  else match text.toList with
    | [] => .error .empty
    | ['*'] => .ok ⟨none, "", ⟨"*", none⟩⟩
    | [single] =>
      if single = '/' then .ok ⟨none, "", ⟨"/", none⟩⟩
      else if endsAuthority single then .error .badCharacter
      else ofFull [single]
    | '/' :: rest => (Target.ofCharacters ('/' :: rest)).map fun target => ⟨none, "", target⟩
    | characters => ofFull characters

/-- The text of an address. -/
def text (url : Url) : String :=
  let target := if url.target.path = "" ∧ url.scheme.isSome then { url.target with path := "/" }
    else url.target
  let scheme := match url.scheme with
    | some scheme => scheme ++ "://"
    | none => ""
  scheme ++ url.authority ++ target.text

end Url

end BucketMount.Http
