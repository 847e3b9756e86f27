import DevfilePush.Text.Blank

/-!
Options on a command line.

An option is written out behind two dashes or, if it has a letter, behind one. Its value
follows an equals sign or is the next argument, and then does not start with a dash; a
letter may also have its value right behind it. Every option is given at most once.
-/

namespace DevfilePush.Cli

/-- An option. -/
structure OptionSpec where
  name : String
  letter : Option Char := none
  /-- Which values it takes; none for an option that takes no value. -/
  accepts : Option (String → Bool) := none

/-- An option that was given, with its value. -/
structure GivenOption where
  name : String
  value : Option String
  deriving DecidableEq, Repr

/-- Why reading the arguments ends early. -/
inductive Stop where
  /-- The arguments cannot be used. -/
  | usage
  /-- The user asks how to use the program. -/
  | help
  /-- The user asks for the version. -/
  | version
  deriving DecidableEq, Repr

/-- The value of the option called `name`, if it was given with one. -/
def valueOf (given : List GivenOption) (name : String) : Option String :=
  (given.find? fun option => option.name = name).bind (·.value)

/-- Whether the option called `name` was given. -/
def isGiven (given : List GivenOption) (name : String) : Bool :=
  given.any fun option => option.name = name

/-- What the arguments of a command, up to the first that is no option, say. -/
structure ReadOptions where
  given : List GivenOption
  /-- The first other argument and those behind it. -/
  rest : List String
  deriving DecidableEq, Repr

/-- The options of a command. -/
structure OptionSet where
  specs : List OptionSpec
  /-- Whether the version can be asked for. -/
  hasVersion : Bool

namespace OptionSet

/-- The option given, if its value is one for it and it was not given before. -/
def accept (given : List GivenOption) (spec : OptionSpec) (value : Option String) :
    Except Stop GivenOption :=
  if isGiven given spec.name then .error .usage
  else match spec.accepts, value with
    | none, none => .ok ⟨spec.name, none⟩
    | some accepts, some text => if accepts text then .ok ⟨spec.name, value⟩ else .error .usage
    | _, _ => .error .usage

/-- Whether an argument can be the value of the option in front of it. -/
def isValue (arg : String) : Bool :=
  arg = "-" || !arg.startsWith "-"

/-- The text of an option behind its two dashes: the name, and the value behind an equals
sign. -/
def splitLong (text : List Char) : String × Option String :=
  match Text.splitFirst? '=' text with
  | some (name, value) => (String.ofList name, some (String.ofList value))
  | none => (String.ofList text, none)

/-- The value right behind a letter. -/
def attachedValue : List Char → Option String
  | [] => none
  | '=' :: value => some (String.ofList value)
  | value => some (String.ofList value)

/-- The option that an argument names, with the value that the argument holds. -/
def lookup (options : OptionSet) (arg : String) : Except Stop (OptionSpec × Option String) :=
  match arg.toList with
  | '-' :: '-' :: text =>
    let (name, value) := splitLong text
    if name = "help" && value.isNone then .error .help
    else if name = "version" && value.isNone && options.hasVersion then .error .version
    else match options.specs.find? fun spec => spec.name = name with
      | some spec => .ok (spec, value)
      | none => .error .usage
  | '-' :: letter :: text =>
    if letter = 'h' then .error .help
    else if letter = 'V' && options.hasVersion then .error .version
    else match options.specs.find? fun spec => spec.letter = some letter with
      | some spec => .ok (spec, attachedValue text)
      | none => .error .usage
  | _ => .error .usage

/-- Reads arguments after the options given so far. -/
def read (options : OptionSet) (given : List GivenOption) : List String → Except Stop ReadOptions
  | [] => .ok ⟨given, []⟩
  | arg :: rest => do
    if arg = "--" then
      if rest.isEmpty then return ⟨given, []⟩ else throw .usage
    if isValue arg then return ⟨given, arg :: rest⟩
    let (spec, value) ← options.lookup arg
    match spec.accepts, value, rest with
    | some _, none, next :: rest =>
      if !isValue next then throw .usage
      options.read (given ++ [← accept given spec (some next)]) rest
    | _, _, rest => options.read (given ++ [← accept given spec value]) rest

end OptionSet

end DevfilePush.Cli
