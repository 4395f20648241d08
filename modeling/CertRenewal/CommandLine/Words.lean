/-!
# Reading the words of a command line

A command line is a list of words. A word that starts with a dash names an option, whose value is
the next word, whatever that is. A word `--` ends the options, and `help` asks for help wherever an
option could stand. Any other word must be the name of a command, which takes the words behind it.
`Level.read` reads one level of a command line: the options of the program or those of a command.
-/

namespace CertRenewal.CommandLine

inductive ValueError where
  /-- The option has a value already. -/
  | duplicate
  | notBoolean
  | unknownFormat (message : String)
  deriving DecidableEq, Repr

def ValueError.message : ValueError → String
  | .duplicate => "duplicate values provided"
  | .notBoolean => "provided string was not `true` or `false`"
  | .unknownFormat message => message

inductive UsageError where
  | unrecognized (word : String)
  | missingValue (option : String)
  | badValue (option value : String) (cause : ValueError)
  | missingOptions (options : List String)
  | missingCommand (commands : List String)
  /-- An option stands behind the word that asks for help. -/
  | afterHelp
  deriving DecidableEq, Repr

/-- A heading with names below it. -/
def listing (heading : String) (names : List String) : String :=
  heading ++ names.foldl (fun text name => text ++ "\n    " ++ name) "" ++ "\n"

def UsageError.message : UsageError → String
  | .unrecognized word => "Unrecognized argument: " ++ word ++ "\n"
  | .missingValue option => "No value provided for option '" ++ option ++ "'.\n"
  | .badValue option value cause =>
    "Error parsing option '" ++ option ++ "' with value '" ++ value ++ "': " ++ cause.message ++
      "\n"
  | .missingOptions options => listing "Required options not provided:" options
  | .missingCommand commands =>
    listing "One of the following subcommands must be present:" ("help" :: commands)
  | .afterHelp => "Trailing arguments are not allowed after `help`."

/-- How the reading of a command line ends when it has no result. -/
inductive Stop where
  /-- Help is asked for. -/
  | help (text : String)
  | usage (error : UsageError)
  deriving DecidableEq, Repr

/-- One level of a command line: its help, what the value of an option changes in the values that
have been read, and how a command is read from its name and the words behind it. `none` says that
there is no such option or command. -/
structure Level (σ ρ : Type) where
  help : String
  setter : String → Option (String → σ → Except ValueError σ)
  command : String → Option (List String → Except Stop ρ)

namespace Level

variable {σ ρ : Type}

def isHelp (word : String) : Bool := word == "--help" || word == "help"

def isDashed (word : String) : Bool := word.toList.head? == some '-'

/-- Reads on in a level. `help` says that help has been asked for, which is left to a command that
follows; `ended` says that the options have ended. -/
def readFrom (l : Level σ ρ) (help ended : Bool) (values : σ) :
    List String → Except Stop (σ × Option ρ)
  | [] => if help then .error (.help l.help) else .ok (values, none)
  | word :: rest =>
    if !ended && isHelp word then l.readFrom true ended values rest
    else if !ended && word == "--" then l.readFrom help true values rest
    else if !ended && isDashed word then
      if help then .error (.usage .afterHelp)
      else
        match l.setter word, rest with
        | none, _ => .error (.usage (.unrecognized word))
        | some _, [] => .error (.usage (.missingValue word))
        | some set, value :: rest =>
          match set value values with
          | .error cause => .error (.usage (.badValue word value cause))
          | .ok values => l.readFrom help ended values rest
    else
      match l.command word with
      | some read =>
        (read (if help then "help" :: rest else rest)).map fun command => (values, some command)
      | none => .error (.usage (.unrecognized word))

/-- Reads a level: the values of its options, and the command behind them if there is one. -/
def read (l : Level σ ρ) (values : σ) (words : List String) : Except Stop (σ × Option ρ) :=
  l.readFrom false false values words

end Level

/-- Gives an option its value, unless it has one. -/
def setOnce (current : Option α) (value : α) : Except ValueError (Option α) :=
  match current with
  | some _ => .error .duplicate
  | none => .ok (some value)

end CertRenewal.CommandLine
