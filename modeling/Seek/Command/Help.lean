/-!
Help: the texts that explain the program and its commands.
-/

namespace Seek.Command

/-- What can be explained. -/
inductive Topic where
  | program
  | pairSum
  | search
  | help
  deriving DecidableEq, Repr

/-- The name and version of the program. -/
def versionText : String := "kata 0.1.0\n"

/-- The lines of a text. -/
def lines (text : List String) : String := String.join (text.map (· ++ "\n"))

/-- The text on a topic. -/
def Topic.text : Topic → String
  | .program => lines
    ["Binary search and two-sum on the command line",
     "",
     "Usage: kata [OPTIONS] [COMMAND]",
     "",
     "Commands:",
     "  two-sum  Find the first pair of positions whose values sum to TARGET",
     "  search   Binary search a sorted sequence for TARGET, -1 if absent",
     "  help     Print this message or the help of the given subcommand(s)",
     "",
     "Options:",
     "      --json     Print results as JSON",
     "  -v, --verbose  Log debug events to stderr (overridden by RUST_LOG)",
     "  -h, --help     Print help",
     "  -V, --version  Print version"]
  | .pairSum => lines
    ["Find the first pair of positions whose values sum to TARGET",
     "",
     "Usage: kata two-sum [OPTIONS] --target <TARGET> [VALUES]...",
     "",
     "Arguments:",
     "  [VALUES]...  The sequence, as separate integers",
     "",
     "Options:",
     "  -t, --target <TARGET>  Value to look for",
     "      --json             Print results as JSON",
     "  -v, --verbose          Log debug events to stderr (overridden by RUST_LOG)",
     "  -h, --help             Print help"]
  | .search => lines
    ["Binary search a sorted sequence for TARGET, -1 if absent",
     "",
     "Usage: kata search [OPTIONS] --target <TARGET> [VALUES]...",
     "",
     "Arguments:",
     "  [VALUES]...  The sequence, as separate integers",
     "",
     "Options:",
     "  -t, --target <TARGET>  Value to look for",
     "      --check-sorted     Reject the sequence if it is not sorted instead of searching anyway",
     "      --json             Print results as JSON",
     "  -v, --verbose          Log debug events to stderr (overridden by RUST_LOG)",
     "  -h, --help             Print help"]
  | .help => lines
    ["Print this message or the help of the given subcommand(s)",
     "",
     "Usage: kata help [COMMAND]...",
     "",
     "Arguments:",
     "  [COMMAND]...  Print help for the subcommand(s)"]

end Seek.Command
