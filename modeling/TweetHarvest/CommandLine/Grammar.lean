import TweetHarvest.Environment

/-!
# The grammar of command lines

Options have long names, with their value as the next argument or behind an equals sign, and may
have a letter.  An option that is missing may be given by a variable.  An option with its value as
the next argument is only settled when the next option or the end is reached, so that an argument
that is not known at all is reported first.

* `OptionSpec`        an option
* `UsageFault`        why a command line is refused
* `Grammar.read`      the options that a command line and the variables give
-/

namespace TweetHarvest

/-- Why a command line is refused, or answered with a text instead. -/
inductive UsageFault where
  /-- A value of the wrong form. -/
  | malformedValue
  /-- A value that is missing or not among those allowed. -/
  | refusedValue
  | unknownArgument
  | repeatedOption
  /-- A value for an option that takes none. -/
  | unexpectedValue
  | missingCommand
  | unknownCommand
  | helpRequested
  | versionRequested
deriving DecidableEq, Repr

/-- An option. -/
structure OptionSpec where
  key : String
  /-- The long names. -/
  names : List String
  letter : Option Char
  takesValue : Bool
  /-- Whether values add up when the option is repeated, commas dividing them. -/
  isList : Bool
  /-- The variable that the option is taken from if it is missing. -/
  fallback : Option String
  /-- What is wrong with a value, if anything. -/
  check : String → Option UsageFault

namespace OptionSpec

/-- An option that takes a value. -/
def value (key : String) (names : List String) (check : String → Option UsageFault) : OptionSpec :=
  { key, names, letter := none, takesValue := true, isList := false, fallback := none, check }

/-- An option that takes any text. -/
def text (key name : String) : OptionSpec := value key [name] fun _ => none

/-- An option without a value. -/
def flag (key name : String) : OptionSpec :=
  { value key [name] (fun _ => none) with takesValue := false }

/-- The same option, taken from a variable if it is missing. -/
def orVariable (o : OptionSpec) (name : String) : OptionSpec := { o with fallback := some name }

end OptionSpec

/-- The options that have been given, each with its values. -/
abbrev Given := List (String × List String)

/-- The values of an option. -/
def Given.values (g : Given) (key : String) : List String :=
  ((g.find? (·.1 == key)).map (·.2)).getD []

/-- Whether an option has been given. -/
def Given.has (g : Given) (key : String) : Bool := g.any (·.1 == key)

/-- The value of an option. -/
def Given.value? (g : Given) (key : String) : Option String := (g.values key).head?

/-- The options that a command line may have. -/
structure Grammar where
  options : List OptionSpec
  /-- The names that end the options of this grammar. -/
  commands : List String
  /-- Whether the version can be asked for. -/
  hasVersion : Bool

namespace Grammar

/-- The options read so far, and one that may still be waiting for its value. -/
structure State where
  given : Given
  pending : Option (OptionSpec × Option String)

/-- Nothing read yet. -/
def State.start : State := ⟨[], none⟩

/-- The values that a text stands for. -/
def split (o : OptionSpec) (text : String) : List String :=
  if o.isList then (Text.splitOn ',' text.toList).map String.ofList else [text]

/-- Adds an option with its value; only lists may be repeated. -/
def take (given : Given) (o : OptionSpec) (text : String) : Except UsageFault Given :=
  if given.has o.key && !o.isList then .error .repeatedOption
  else
    -- The first value that is refused decides
    match (split o text).findSome? o.check with
    | some fault => .error fault
    | none =>
      let before := given.filter (·.1 != o.key)
      .ok (before ++ [(o.key, given.values o.key ++ split o text)])

/-- Settles the option that is pending. -/
def State.settle (s : State) : Except UsageFault Given :=
  match s.pending with
  | none => .ok s.given
  | some (_, none) => .error .refusedValue
  | some (o, some text) => take s.given o text

/-- Whether the next argument may be a value. -/
def State.awaitsValue (s : State) : Bool :=
  match s.pending with
  | some (_, none) => true
  | _ => false

/-- What a name asks for. -/
inductive Meaning where
  | option (o : OptionSpec)
  | help
  | version
  | unknown

/-- The meaning of a long name. -/
def longMeaning (g : Grammar) (name : String) : Meaning :=
  match g.options.find? (·.names.contains name) with
  | some o => .option o
  | none =>
    if name = "help" then .help
    else if name = "version" && g.hasVersion then .version
    else .unknown

/-- The meaning of a letter. -/
def letterMeaning (g : Grammar) (c : Char) : Meaning :=
  match g.options.find? (·.letter = some c) with
  | some o => .option o
  | none =>
    if c = 'h' then .help
    else if c = 'V' && g.hasVersion then .version
    else .unknown

/-- Reads an argument that starts with two hyphens, here without them. -/
def readLong (g : Grammar) (s : State) (text : List Char) : Except UsageFault State := do
  let (name, rest) := text.span (· ≠ '=')
  let attached := rest.tail?.map String.ofList
  match g.longMeaning (String.ofList name), attached with
  | .unknown, _ => .error .unknownArgument
  | .help, some _ | .version, some _ => .error .unexpectedValue
  -- An option that still waits for its value is refused first
  | .help, none => do
    let _ ← s.settle
    .error .helpRequested
  | .version, none => do
    let _ ← s.settle
    .error .versionRequested
  | .option o, attached =>
    if o.takesValue then
      let given ← s.settle
      match attached with
      | none => return ⟨given, some (o, none)⟩
      | some value => return ⟨← take given o value, none⟩
    else if attached.isSome then .error .unexpectedValue
    else return ⟨← take (← s.settle) o "true", none⟩

/-- Reads letters behind a single hyphen. -/
def readLetters (g : Grammar) (s : State) : List Char → Except UsageFault State
  | [] => .ok s
  | c :: rest =>
    match g.letterMeaning c with
    | .unknown => .error .unknownArgument
    | .help => do
      let _ ← s.settle
      .error .helpRequested
    | .version => do
      let _ ← s.settle
      .error .versionRequested
    | .option o => do
      let given ← take (← s.settle) o "true"
      readLetters g ⟨given, none⟩ rest

/-- Reads arguments up to the name of a command; the result has that name and what follows it. -/
def readArguments (g : Grammar) (s : State) :
    List String → Except UsageFault (State × Option (String × List String))
  | [] => .ok (s, none)
  | arg :: rest =>
    if !s.awaitsValue && g.commands.contains arg then .ok (s, some (arg, rest))
    else match arg.toList with
      -- Only values could follow, and no command takes any
      | ['-', '-'] => if rest.isEmpty then .ok (s, none) else .error .unknownArgument
      | '-' :: '-' :: text => do
        let next ← g.readLong s text
        g.readArguments next rest
      | '-' :: c :: letters => do
        let next ← g.readLetters s (c :: letters)
        g.readArguments next rest
      | _ =>
        match s.pending with
        -- The value of the option in front
        | some (o, none) => g.readArguments ⟨s.given, some (o, some arg)⟩ rest
        | _ => .error .unknownArgument

/-- Adds the options that are missing from the variables they may be given by. -/
def addVariables (env : Environment) (given : Given) : List OptionSpec → Except UsageFault Given
  | [] => .ok given
  | o :: rest =>
    -- What is given on the command line wins
    match if given.has o.key then none else o.fallback.bind env.get? with
    | none => addVariables env given rest
    | some value => do
      let next ← take given o value
      addVariables env next rest

/-- Settles the option that is pending, and reads the variables. -/
def complete (g : Grammar) (env : Environment) (s : State) : Except UsageFault Given := do
  let given ← s.settle
  addVariables env given g.options

/-- Reads a command line without commands: the options given on it, and those that are given on it
or by variables. -/
def read (g : Grammar) (env : Environment) (args : List String) :
    Except UsageFault (Given × Given) := do
  let (s, _) ← g.readArguments .start args
  return (← s.settle, ← g.complete env s)

end Grammar

end TweetHarvest
