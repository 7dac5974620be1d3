import Formwork.CommandLine.Arguments

/-!
What the command line tells about itself: its usage, its help, and why it refuses arguments.
-/

namespace Formwork.CommandLine

/-- The name of the program. -/
def programName : String := "ngscaffold"

/-- The text of a refusal. -/
def UsageError.message : UsageError → String
  | .ambiguous word names =>
    "ambiguous option: " ++ word ++ " could match " ++ ", ".intercalate names
  | .missingValue option => "argument " ++ option.title ++ ": expected one argument"
  | .needlessValue option value =>
    "argument " ++ option.title ++ ": ignored explicit argument " ++ Text.quoted value
  | .notInteger option value =>
    "argument " ++ option.title ++ ": invalid int value: " ++ Text.quoted value
  | .notAmong option value choices =>
    "argument " ++ option.title ++ ": invalid choice: " ++ value ++ " (choose from " ++
      ", ".intercalate choices ++ ")"
  | .missingSpecification => "the following arguments are required: spec"
  | .unknownWords words => "unrecognized arguments: " ++ " ".intercalate words

def usage : String :=
  "usage: ngscaffold [-h] [--output OUTPUT] [--bootstrap | --no-bootstrap]
                  [--columns \x7b2,3,4\x7d] [--skeleton \x7bcli,direct\x7d] [--strict]
                  [--skip-install] [--dry-run] [--interactive]
                  spec
"

def help : String :=
  usage ++ "
ngscaffold -- generate an Angular form application from a UI specification

positional arguments:
  spec                  Path to the JSON or YAML specification file

options:
  -h, --help            show this help message and exit
  --output OUTPUT, -o OUTPUT
                        Output directory (default: ./output or NGS_OUTPUT_DIR)
  --bootstrap, --no-bootstrap
                        Use the Bootstrap grid and install Bootstrap
  --columns \x7b2,3,4\x7d     Number of form columns
  --skeleton \x7bcli,direct\x7d
                        Create the workspace with the Angular CLI or write it
                        directly
  --strict              Treat specification issues as errors
  --skip-install        Do not run npm install
  --dry-run             Show the plan without running or writing
  --interactive, -i     Prompt for style options

Examples:
  ngscaffold spec.json
  ngscaffold spec.json -o ./out --bootstrap --columns 3
  ngscaffold spec.yaml --skeleton direct --dry-run
"

def UsageError.report (e : UsageError) : String :=
  usage ++ programName ++ ": error: " ++ e.message ++ "\n"

end Formwork.CommandLine
