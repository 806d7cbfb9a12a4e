import Dpll.CommandLine.Arguments
import Dpll.Log.Filter

/-!
The toolkit that the program is run with. What is proved about the program holds with any other one
too.
-/

namespace Dpll.CommandLine

def versionText : String :=
  "hamsat 0.1.0\n"

def helpText : String :=
  "Decides a clause file with DPLL and writes the assignment for the path decoder\n\n" ++
  "Usage: hamsat [OPTIONS] <INPUT>\n\n" ++
  "Arguments:\n" ++
  "  <INPUT>  Clause file: one clause per line, a line holding `0`, then the trailer\n\n" ++
  "Options:\n" ++
  "  -o, --output <OUTPUT>    Where to write the assignment [default: DPLLResults.txt]\n" ++
  "  -t, --timeout <TIMEOUT>  Give up after this many seconds\n" ++
  "      --stats              Print search statistics to stderr\n" ++
  "  -v, --verbose...         Verbosity level (-v, -vv, -vvv)\n" ++
  "  -h, --help               Print help\n" ++
  "  -V, --version            Print version\n"

def Request.ofCommand : Except UsageError Command → Request
  | .ok (.run options) => .run options
  | .ok .help => .display helpText
  | .ok .version => .display versionText
  | .error e => .refuse ("error: " ++ e.message)

/-- The causes below each other, numbered if there are several. -/
def layoutCauses : List String → List String
  | [cause] => ["    " ++ cause]
  | causes => causes.zipIdx.map fun (cause, number) =>
    String.ofList ((Nat.toDigits 10 number).leftpad 5 ' ') ++ ": " ++ cause

def layoutError : List String → String
  | [] => "Error"
  | [message] => "Error: " ++ message
  | message :: causes =>
    "\n".intercalate (["Error: " ++ message, "", "Caused by:"] ++ layoutCauses causes)

def Toolkit.standard : Toolkit where
  request args := .ofCommand (Command.ofArguments args)
  filter? setting := (Directive.parseAll? setting).map Directive.shows
  upTo level := Directive.shows [{ rank := level.rank }]
  layout := layoutError

end Dpll.CommandLine
