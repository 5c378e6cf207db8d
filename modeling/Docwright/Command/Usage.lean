import Docwright.Command.Arguments

/-!
# Usage

The texts that explain the command line.
-/

namespace Docwright

namespace Command

/-- How the command is used. -/
def usage : String :=
  "usage: funcdoc [-h] [-o OUTPUT] [--format \x7bmarkdown,json\x7d]\n" ++
  "               [--function FUNCTION] [--remote] [--strict] [-v]\n" ++
  "               paths [paths ...]\n"

/-- What the command does and what its arguments mean. -/
def helpText : String :=
  usage ++
  "\nGenerate documentation for the functions in Python source files\n" ++
  "\npositional arguments:\n" ++
  "  paths                 files or directories\n" ++
  "\noptions:\n" ++
  "  -h, --help            show this help message and exit\n" ++
  "  -o OUTPUT, --output OUTPUT\n" ++
  "                        directory for markdown files\n" ++
  "  --format \x7bmarkdown,json\x7d\n" ++
  "                        output format\n" ++
  "  --function FUNCTION   only document functions with this name\n" ++
  "  --remote              ask the configured API before falling back\n" ++
  "  --strict              treat missing docstrings as errors\n" ++
  "  -v, --verbose         debug logging\n"

/-- How the command is used and what was wrong. -/
def UsageError.report (error : UsageError) : LooseText :=
  usage ++ "funcdoc: error: " ++ error.message ++ "\n"

end Command

end Docwright
