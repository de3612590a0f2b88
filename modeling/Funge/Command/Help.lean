import Funge.Command.Arguments

/-!
# What the program says about itself
-/

namespace Funge.Command

/-- Lines as a text. -/
def unlines (lines : List String) : String := String.join (lines.map (· ++ "\n"))

/-- The name and version of the program. -/
def versionText : String := "befunge 0.1.0\n"

/-- The help on a topic. -/
def Topic.text : Topic → String
  | program => unlines [
      "Befunge-93 interpreter",
      "",
      "Usage: befunge <COMMAND>",
      "",
      "Commands:",
      "  run   Run a Befunge program against stdin/stdout",
      "  grid  Load a program and dump its grid (debug)",
      "  help  Print this message or the help of the given subcommand(s)",
      "",
      "Options:",
      "  -h, --help     Print help",
      "  -V, --version  Print version"]
  | run => unlines [
      "Run a Befunge program against stdin/stdout",
      "",
      "Usage: befunge run [OPTIONS] <FILE>",
      "",
      "Arguments:",
      "  <FILE>  Source file to run",
      "",
      "Options:",
      "      --seed <SEED>            Seed for the `?` instruction",
      "      --max-steps <MAX_STEPS>  Abort after this many steps",
      "      --trace                  Log every executed step to stderr",
      "  -h, --help                   Print help"]
  | grid => unlines [
      "Load a program and dump its grid (debug)",
      "",
      "Usage: befunge grid [OPTIONS] <FILE>",
      "",
      "Arguments:",
      "  <FILE>  Source file to load",
      "",
      "Options:",
      "      --json  Print the grid as JSON",
      "  -h, --help  Print help"]
  | help => unlines [
      "Print this message or the help of the given subcommand(s)",
      "",
      "Usage: befunge help [COMMAND]...",
      "",
      "Arguments:",
      "  [COMMAND]...  Print help for the subcommand(s)"]

/-- What to tell about a mistake in the arguments, with where to find help. -/
def UsageFault.text (fault : UsageFault) : String :=
  unlines [s!"error: {fault.message}", "", "For more information, try '--help'."]

end Funge.Command
