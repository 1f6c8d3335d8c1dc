import CiPipeline.CommandLine.Args

/-!
# Guide — texts of the command line about itself

* `helpText`, `usageText`, `versionText`;
* `Shell.completions`: scripts with which shells complete commands.
-/

namespace CiPipeline
namespace CommandLine

def programName : String := "pipelyne"

def versionText : String := programName ++ " 0.1.0\n"

def usageText : String := "Usage: " ++ programName ++ " [OPTIONS] <COMMAND>\n"

def commandSummaries : List (String × String) :=
  [("run", "Execute a pipeline definition"),
    ("export", "Export a pipeline to a CI provider configuration"),
    ("show", "Print a pipeline"), ("completions", "Generate shell completions"),
    ("help", "Print this message")]

def helpText : String :=
  usageText ++ "\nCommands:\n"
    ++ String.join (commandSummaries.map fun c => "  " ++ c.1 ++ "  " ++ c.2 ++ "\n")
    ++ "\nOptions:\n  --config <CONFIG>  Configuration file\n  -v, --verbose  Enable debug logging\n"
    ++ "  -h, --help  Print help\n  -V, --version  Print version\n"

namespace Shell

def words : String := " ".intercalate commandNames

def completions : Shell → String
  | bash => "complete -W \"" ++ words ++ "\" " ++ programName ++ "\n"
  | zsh => "#compdef " ++ programName ++ "\n_arguments '1: :(" ++ words ++ ")'\n"
  | fish => "complete -c " ++ programName ++ " -f -a \"" ++ words ++ "\"\n"
  | powerShell =>
    "Register-ArgumentCompleter -Native -CommandName " ++ programName
      ++ " -ScriptBlock \x7b \"" ++ words ++ "\".Split() \x7d\n"

end Shell
end CommandLine
end CiPipeline
