import Dpll.CommandLine.Toolkit
import Dpll.Text.Numeral

/-!
A reader of arguments. Short options can be written together, an option's value follows in
the same argument, with or without an equals sign, or in the next one, and `--` ends the options.
Arguments are read from left to right, and the first one that decides what to do does so: an error,
or a request for help or for the version.
-/

namespace Dpll.CommandLine

inductive Command where
  | run (options : Options)
  | help
  | version
  deriving DecidableEq, Repr

inductive UsageError where
  | unknownOption (text : String)
  | repeatedOption (name : String)
  | missingValue (name : String)
  | unexpectedValue (name : String)
  | badTimeout (text : String)
  | emptyPath
  | unexpectedArgument (text : String)
  | missingInput
  deriving DecidableEq, Repr

def UsageError.message : UsageError → String
  | unknownOption text => s!"unknown option {text}"
  | repeatedOption name => s!"option {name} was given twice"
  | missingValue name => s!"option {name} needs a value"
  | unexpectedValue name => s!"option {name} takes no value"
  | badTimeout text => s!"{text} is no number of seconds"
  | emptyPath => "a path must not be empty"
  | unexpectedArgument text => s!"unexpected argument {text}"
  | missingInput => "no clause file was given"

inductive Valued where
  | output
  | timeout
  deriving DecidableEq, Repr

def Valued.name : Valued → String
  | output => "--output"
  | timeout => "--timeout"

structure Settings where
  input : Option String := none
  output : Option String := none
  timeout : Option Nat := none
  stats : Bool := false
  verbosity : Nat := 0
  deriving DecidableEq, Repr

namespace Settings

def setPath (text : String) : Except UsageError (Option String) :=
  if text.isEmpty then .error .emptyPath else .ok (some text)

def setInput (s : Settings) (text : String) : Except UsageError Settings :=
  match s.input with
  | some _ => .error (.unexpectedArgument text)
  | none => return { s with input := ← setPath text }

def setValue (s : Settings) (name : Valued) (text : String) : Except UsageError Settings :=
  match name with
  | .output =>
    if s.output.isSome then .error (.repeatedOption name.name)
    else return { s with output := ← setPath text }
  | .timeout =>
    if s.timeout.isSome then .error (.repeatedOption name.name)
    else match Text.unsigned64? text.toList with
      | some seconds => .ok { s with timeout := some seconds }
      | none => .error (.badTimeout text)

def setStats (s : Settings) : Except UsageError Settings :=
  if s.stats then .error (.repeatedOption "--stats") else .ok { s with stats := true }

def raiseVerbosity (s : Settings) : Settings :=
  { s with verbosity := s.verbosity + 1 }

def command (s : Settings) : Except UsageError Command :=
  match s.input with
  | none => .error .missingInput
  | some input =>
    let options : Options :=
      { input, timeout := s.timeout, stats := s.stats, verbosity := s.verbosity }
    .ok (.run { options with output := s.output.getD options.output })

end Settings

inductive Step where
  | next (settings : Settings)
  /-- The next argument is the value of this option. -/
  | value (name : Valued) (settings : Settings)
  | done (command : Command)

/-- Short options in one argument, from the given one on. -/
def Settings.shortOptions (s : Settings) : List Char → Except UsageError Step
  | [] => .ok (.next s)
  | 'v' :: rest => s.raiseVerbosity.shortOptions rest
  | 'V' :: _ => .ok (.done .version)
  | 'h' :: _ => .ok (.done .help)
  | 'o' :: rest => valued .output rest
  | 't' :: rest => valued .timeout rest
  | c :: _ => .error (.unknownOption ("-" ++ c.toString))
where
  valued (name : Valued) : List Char → Except UsageError Step
    | [] => .ok (.value name s)
    | '=' :: text | text => .next <$> s.setValue name (String.ofList text)

/-- A long option with the text behind an equals sign, if there is one. -/
def Settings.longOption (s : Settings) (name : String) (value : Option String) :
    Except UsageError Step :=
  match name, value with
  | "output", some text => .next <$> s.setValue .output text
  | "timeout", some text => .next <$> s.setValue .timeout text
  | "output", none => .ok (.value .output s)
  | "timeout", none => .ok (.value .timeout s)
  | "stats", none => .next <$> s.setStats
  | "verbose", none => .ok (.next s.raiseVerbosity)
  | "version", none => .ok (.done .version)
  | "help", none => .ok (.done .help)
  | "stats", some _ | "verbose", some _ | "version", some _ | "help", some _ =>
    .error (.unexpectedValue ("--" ++ name))
  | _, _ => .error (.unknownOption ("--" ++ name))

/-- One argument in front of `--`. -/
def Settings.read (s : Settings) (arg : String) : Except UsageError Step :=
  match arg.toList with
  | '-' :: '-' :: text =>
    let name := String.ofList (text.takeWhile (· ≠ '='))
    match text.dropWhile (· ≠ '=') with
    | [] => s.longOption name none
    | _ :: value => s.longOption name (some (String.ofList value))
  | '-' :: c :: rest => s.shortOptions (c :: rest)
  | _ => .next <$> s.setInput arg

/-- Whether an argument cannot be the value of the option before it. -/
def looksLikeOption (arg : String) : Bool :=
  match arg.toList with
  | '-' :: _ :: _ => true
  | _ => false

/-- The arguments from here on, where `--` has not come yet. -/
def Settings.readAll (s : Settings) : List String → Except UsageError Command
  | [] => s.command
  | arg :: args =>
    if arg = "--" then do
      (← args.foldlM setInput s).command
    else
      match s.read arg, args with
      | .error e, _ => .error e
      | .ok (.next s), args => s.readAll args
      | .ok (.done command), _ => .ok command
      | .ok (.value name _), [] => .error (.missingValue name.name)
      | .ok (.value name s), text :: args =>
        if looksLikeOption text then .error (.missingValue name.name)
        else match s.setValue name text with
          | .error e => .error e
          | .ok s => s.readAll args

def Command.ofArguments (args : List String) : Except UsageError Command :=
  Settings.readAll {} args

end Dpll.CommandLine
