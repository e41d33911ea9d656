import BucketMount.CommandLine.Parameter

/-!
# Scanning arguments

Arguments are scanned from left to right. A parameter with a value takes it from
the same argument, behind an equals sign or directly behind a short name, or from
the next argument. What a parameter was given is checked when the next parameter
comes or the scan ends, so an argument that is out of place may be reported before
a value that is wrong. The name of a command ends the scan; what stands behind it
belongs to the command. Behind two hyphens nothing is a parameter or a command.
-/

namespace BucketMount.CommandLine

/-- Why a scan ends early: the user asks for help or for the version, or the
arguments make no sense. -/
inductive Stop where
  | help
  | version
  | usage (error : UsageError)
  deriving DecidableEq, Repr

/-- What a level of a command line knows: parameters and commands. -/
structure Level where
  parameters : List Parameter
  commands : List String

/-- What has been met: values by long name, and a parameter whose value has yet to
be checked, or to be met. -/
structure Matches where
  values : List (String × String)
  pending : Option (Parameter × Option String)

namespace Matches

/-- Nothing met. -/
def none : Matches := ⟨[], .none⟩

/-- True if a parameter was met. -/
def has (found : Matches) (parameter : Parameter) : Bool :=
  found.values.any fun entry => entry.1 == parameter.long

/-- All values of a parameter in order. -/
def all (found : Matches) (long : String) : List String :=
  (found.values.filter fun entry => entry.1 == long).map Prod.snd

/-- Checks a value and keeps it. -/
def store (found : Matches) (parameter : Parameter) (value : String) : Except Stop Matches :=
  let repeats := match parameter.takes with
    | .values _ => true
    | _ => false
  if !repeats && found.has parameter then .error (.usage (.repeated parameter.shown))
  else match parameter.complaint? value with
    | some complaint => .error (.usage (.badValue value parameter.shown complaint))
    | .none => .ok ⟨found.values ++ [(parameter.long, value)], .none⟩

/-- Checks what is pending. -/
def settle (found : Matches) : Except Stop Matches :=
  match found.pending with
  | .none => .ok found
  | some (parameter, .none) => .error (.usage (.valueMissing parameter.shown))
  | some (parameter, some value) => store ⟨found.values, .none⟩ parameter value

/-- True if the next argument is taken for a value. -/
def awaits (found : Matches) : Bool :=
  match found.pending with
  | some (_, .none) => true
  | _ => false

end Matches

namespace Level

/-- Meets a parameter, with the value attached to it if there is one. -/
def meet (found : Matches) (parameter : Parameter) (attached : Option String) :
    Except Stop Matches :=
  if parameter.takesValue then do
    let settled ← found.settle
    match attached with
    | some value => settled.store parameter value
    | none => pure ⟨settled.values, some (parameter, none)⟩
  else
    match attached with
    | some value => .error (.usage (.surplusValue value parameter.shown))
    | none => do
      let settled ← found.settle
      match parameter.takes with
      | .help => throw .help
      | .version => throw .version
      | _ => settled.store parameter "true"

/-- Meets an argument that begins with two hyphens. -/
def meetLong (level : Level) (found : Matches) (letters : List Char) : Except Stop Matches :=
  let name := letters.takeWhile (· != '=')
  let attached := match letters.drop name.length with
    | _ :: value => some (String.ofList value)
    | [] => none
  match level.parameters.find? fun parameter => parameter.long.toList == name with
  | some parameter => meet found parameter attached
  | none => .error (.usage (.unexpected ("--" ++ String.ofList name)))

/-- Meets an argument that begins with one hyphen. -/
def meetShort (level : Level) (found : Matches) (letter : Char) (rest : List Char) :
    Except Stop Matches :=
  match level.parameters.find? fun parameter => parameter.short == some letter with
  | some parameter =>
    let attached := match rest with
      | [] => none
      | '=' :: value | value => some (String.ofList value)
    meet found parameter (if parameter.takesValue then attached else none)
  | none => .error (.usage (.unexpected (String.ofList ['-', letter])))

/-- The error for an argument that is out of place. -/
def stray (level : Level) (trailing : Bool) (argument : String) : Stop :=
  if level.commands.isEmpty || (trailing && level.commands.contains argument) then
    .usage (.unexpected argument)
  else .usage (.unknownCommand argument)

/-- Scans arguments: what was met, and the command with its own arguments. -/
def scan (level : Level) (trailing : Bool) (found : Matches) :
    List String → Except Stop (Matches × Option (String × List String))
  | [] => .ok (found, none)
  | argument :: rest =>
    if trailing then .error (level.stray true argument)
    else if !found.awaits && level.commands.contains argument then
      .ok (found, some (argument, rest))
    else
      match argument.toList with
      | ['-', '-'] => scan level true found rest
      | '-' :: '-' :: letters => do
        let next ← level.meetLong found letters
        scan level false next rest
      | '-' :: letter :: letters => do
        let next ← level.meetShort found letter letters
        scan level false next rest
      | _ =>
        match found.pending with
        | some (parameter, none) =>
          scan level false ⟨found.values, some (parameter, some argument)⟩ rest
        | _ => .error (level.stray false argument)

end Level

end BucketMount.CommandLine
