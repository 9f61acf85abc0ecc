import Triage.CommandLine.Arguments

/-!
# Help

The screens of help and the lines that a misuse is answered with.
-/

namespace Triage.CommandLine

/-- The name of the program. -/
def program : String := "alertops"

namespace Part

/-- The name of a part. -/
def name : Part → String
  | whole => program
  | analyze => program ++ " analyze"
  | policies => program ++ " policies"

/-- How a part is used. -/
def usage : Part → String
  | whole =>
    "usage: alertops [-h] [--policies POLICIES] [--log-level LOG_LEVEL]\n" ++
      "                \x7banalyze,policies\x7d ...\n"
  | analyze => "usage: alertops analyze [-h] [text]\n"
  | policies => "usage: alertops policies [-h]\n"

/-- What there is to know about a part. -/
def details : Part → List String
  | whole => [
    "",
    "Turn alert text into a remediation report",
    "",
    "positional arguments:",
    "  \x7banalyze,policies\x7d",
    "    analyze             Parse an alert and print the report",
    "    policies            Validate the policy file and list alert types",
    "",
    "options:",
    "  -h, --help            show this help message and exit",
    "  --policies POLICIES   Policy file (overrides POLICIES_PATH)",
    "  --log-level LOG_LEVEL",
    "                        Logging level (overrides LOG_LEVEL)"]
  | analyze => [
    "",
    "positional arguments:",
    "  text        Alert text (read from stdin when omitted)",
    "",
    "options:",
    "  -h, --help  show this help message and exit"]
  | policies => [
    "",
    "options:",
    "  -h, --help  show this help message and exit"]

/-- The screen of help about a part. -/
def help (p : Part) : String := p.usage ++ String.join (p.details.map (· ++ "\n"))

end Part

end Triage.CommandLine
