import TweetHarvest.Analysis.Basic
import TweetHarvest.CommandLine.DotEnv
import TweetHarvest.Scrape.Arguments
import TweetHarvest.Scrape.Basic

/-!
# The program

The program has two commands, one to scrape an account and one to analyze a shared file.  Options
that both share may stand before or after the name of the command.

The command line and the variables are texts, so a shared directory that is named in one of them is
the path of a text.  The commands themselves take any path for it.

* `Program.parse`  the command that a command line asks for
* `Program.run`    loads the file of variables, reads the command line and carries out the command
-/

namespace TweetHarvest.Program

/-- What the program is asked to do. -/
inductive Command where
  | analyze (input : Option String)
  | scrape (options : ScrapeOptions)

/-- A command with the shared directory. -/
structure Invocation where
  shared : Path
  command : Command

/-- The options that all commands share. -/
def sharedSpecs : List OptionSpec :=
  [(OptionSpec.value "shared" ["shared-dir"] fun text =>
      if text = "" then some .refusedValue else none).orVariable "SHARED_DIR",
   { OptionSpec.flag "verbose" "verbose" with letter := some 'v' }]

/-- The options of the command that analyzes a file. -/
def analyzeSpecs : List OptionSpec :=
  [.value "input" ["input_file", "input-file"] fun _ => none]

/-- The options in front of a command. -/
def outer : Grammar := ⟨sharedSpecs, ["analyze", "scrape", "help"], true⟩

/-- The options of a command. -/
def inner (specs : List OptionSpec) : Grammar := ⟨specs ++ sharedSpecs, [], false⟩

/-- The shared directory if none is named. -/
def defaultShared : String := "/shared"

/-- The shared directory: the one named behind the command, the one in front of it, or the one of
the variable. -/
def sharedPath (env : Environment) (front back : Given) : Path :=
  .ofText <| ((back.value? "shared").or ((front.value? "shared").or (env.get? "SHARED_DIR"))).getD
    defaultShared

/-- Whether help can be given: on the program or on one of its commands. -/
def isTopic (names : List String) : Bool :=
  match names with
  | [] => true
  | [name] => outer.commands.contains name
  | _ => false

/-- The command that a command line asks for.  The options behind the command are read before those
in front of it are settled. -/
def parse (env : Environment) (args : List String) : Except UsageFault Invocation := do
  let (front, command) ← outer.readArguments .start args
  match command with
  | some ("analyze", rest) =>
    let (back, given) ← (inner analyzeSpecs).read env rest
    let _ ← outer.complete env front
    return ⟨sharedPath env (← front.settle) back, .analyze (given.value? "input")⟩
  | some ("scrape", rest) =>
    let (back, given) ← (inner ScrapeOptions.specs).read env rest
    let _ ← outer.complete env front
    return ⟨sharedPath env (← front.settle) back, .scrape (.ofGiven given)⟩
  | some (_, topics) => .error (if isTopic topics then .helpRequested else .unknownCommand)
  | none => .error .missingCommand

/-- The name and version of the program. -/
def version : String := "scrapetweet 0.1.0"

/-- The text that is printed when help is asked for. -/
def help : String :=
  "Usage: scrapetweet [OPTIONS] <COMMAND>\n\n" ++
    "Commands:\n" ++
    "  analyze  Report word, line and character statistics for a shared file\n" ++
    "  scrape   Scrape tweets and profile data for a username and save a report\n" ++
    "  help     Print this message or the help of the given subcommand(s)"

/-- The name of the file of variables. -/
def variablesFile : Path := .ofText ".env"

variable {m : Type → Type} [Monad m] (machine : Machine m)

/-- The nearest file of variables, in the directory `here` or one of at most `levels` above. -/
def findVariables (levels : Nat) (here : Path) : m (Option Path) := do
  let candidate := here.join variablesFile
  if ← machine.files.isFile candidate then return some candidate
  match levels, here.parent? with
  | levels + 1, some parent => findVariables levels parent
  | _, _ => return none

/-- The environment with the nearest file of variables added. -/
def loadVariables (env : Environment) (here : Path) : m Environment := do
  match ← findVariables machine here.octets.length here with
  | none => return env
  | some path =>
    match ← machine.files.read path with
    | .error _ => return env
    | .ok content => return DotEnv.load env content

/-- Carries out a command; the result is the exit code. -/
def carryOut (env : Environment) (call : Invocation) : m UInt8 := do
  match call.command with
  | .analyze input =>
    machine.printLine (← Analysis.envelope machine.files call.shared input).pretty
    return 0
  | .scrape options => Scrape.execute machine env call.shared options

/-- Runs the program in the directory `here`; the result is the exit code. -/
def run (env : Environment) (here : Path) (args : List String) : m UInt8 := do
  let env ← loadVariables machine env here
  match parse env args with
  | .ok call => carryOut machine env call
  | .error .versionRequested =>
    machine.printLine version
    return 0
  | .error .helpRequested =>
    machine.printLine help
    return 0
  | .error _ => return 2

end TweetHarvest.Program
