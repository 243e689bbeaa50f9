import RSource.Command.Run

/-! # The program

The whole command line: the first argument chooses the command. Everything but the measuring of
phases is decided here. -/

namespace RSource.Command

def version : String := "0.1.10"

def usageLines : List String :=
  ["kestrel " ++ version ++ ", incremental R source model and signature help.",
    "",
    "Usage: kestrel <COMMAND> [OPTIONS]",
    "",
    "Commands:",
    "",
    "signature <file> --offset <n>    Show signature help at a byte offset",
    "    --lib-path <dir>             Add an R library root (repeatable)",
    "    --partial-match              Allow unambiguous partial argument names",
    "    --json                       Print the result as JSON",
    "    --config <file>              Read settings from a JSON file",
    "tokens <file>                    Dump the token stream",
    "    --trivia                     Include whitespace and comments",
    "    --ast                        Also dump the syntax tree",
    "packages                         List packages in the library roots",
    "    --lib-path <dir>             Add an R library root (repeatable)",
    "    --functions                  List exported function signatures",
    "    --config <file>              Read settings from a JSON file",
    "analysis-stats <path>            Time each analysis phase over a directory",
    "    --csv                        Print results as CSV",
    "    --only <phase>               Run a single phase",
    "    --lib-path <dir>             Add an R library root (repeatable)",
    "",
    "--version                        Print the version",
    "--help                           Print this help message",
    "",
    "Set KESTREL_PERF=1 to log phase timings, RUST_LOG to control logging.",
    ""]

def usage : String :=
  String.join (usageLines.map fun line => line ++ "\n")

/-- What the program does: prints a text, fails with a message, or times the phases of an
analysis. -/
inductive Action where
  | print (text : String)
  | fail (message : String)
  | time (options : Timing Path)

def Action.ofRun : Except RunError String → Action
  | .ok text => .print text
  | .error e => .fail e.message

def Action.ofOptions (options : Except UsageError α) (run : α → Action) : Action :=
  match options with
  | .ok o => run o
  | .error e => .fail e.message

def program (disk : Disk) (env : Package.Environment) : List String → Action
  | [] => .print usage
  | "--version" :: _ => .print ("kestrel " ++ version ++ "\n")
  | "--help" :: _ => .print usage
  | "signature" :: rest => .ofOptions (Helping.read rest) fun o => .ofRun (o.run disk env)
  | "tokens" :: rest => .ofOptions (Listing.read rest) fun o => .ofRun (o.run disk)
  | "packages" :: rest => .ofOptions (Inventory.read rest) fun o => .ofRun (o.run disk env)
  | "analysis-stats" :: rest => .ofOptions (Timing.read disk rest) .time
  | other :: _ => .fail (UsageError.unknownArgument other).message

end RSource.Command
