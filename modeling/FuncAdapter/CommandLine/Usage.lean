import FuncAdapter.CommandLine.Arguments

/-!
# Usage texts

What the command prints about itself, laid out for eighty columns.
-/

namespace FuncAdapter.CommandLine

/-- The name of the command. -/
def commandName : String := "gointerfacefunc"

/-- The version of the command. -/
def versionNumber : String := "0.1.0"

/-- The line that tells the version. -/
def versionText : String := commandName ++ " " ++ versionNumber ++ "\n"

/-- The lines that show how the command is called. -/
def usageText : String :=
  "usage: gointerfacefunc [-h] [--snapshot] [--save-snapshot PATH] [-v]\n" ++
  "                       [--version]\n" ++
  "                       source interface\n"

/-- The help text. -/
def helpText : String :=
  usageText ++
  "\n" ++
  "Generate a function type implementing a single-method Go interface, printed to\n" ++
  "stdout.\n" ++
  "\n" ++
  "positional arguments:\n" ++
  "  source                Directory of the Go package to scan (or a snapshot\n" ++
  "                        with --snapshot).\n" ++
  "  interface             Name of the interface, e.g. Handler.\n" ++
  "\n" ++
  "options:\n" ++
  "  -h, --help            show this help message and exit\n" ++
  "  --snapshot            Treat SOURCE as a program snapshot written by --save-\n" ++
  "                        snapshot instead of a directory.\n" ++
  "  --save-snapshot PATH  Also write the scanned program to PATH as a\n" ++
  "                        MessagePack snapshot.\n" ++
  "  -v, --verbose         Log debug output to stderr.\n" ++
  "  --version             show program\x27s version number and exit\n"

/-- The lines that report arguments that make no command. -/
def misuseText (error : UsageError) : String :=
  usageText ++ commandName ++ ": error: " ++ error.message ++ "\n"

end FuncAdapter.CommandLine
