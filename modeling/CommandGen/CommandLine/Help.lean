import CommandGen.CommandLine.Arguments

/-! Texts about the command line itself. -/
namespace CommandGen

def programVersion : String := "cmdforge 0.1.0"

namespace Verb

def description : Verb → String
  | standard => "Generate command wrappers from annotated Rust structs"
  | generate => "Scan a directory and write the generated files"
  | check => "Scan and validate without writing anything"
  | list => "List the commands found in a directory"
  | completions => "Generate shell completions"

end Verb

namespace Switch

def description : Switch → String
  | config => "Path to cmdforge.toml (defaults to DIR/cmdforge.toml when present)"
  | dryRun => "Preview generated code without writing to disk"
  | json => "Print every scanned command as JSON"
  | verbose => "Increase log verbosity (-v debug, -vv trace)"
  | help => "Print help"
  | version => "Print version"

def helpLine (s : Switch) : String :=
  let short := match s.short? with
    | some c => String.ofList ['-', c] ++ ", "
    | none => "    "
  let value := if s = .config then " <CONFIG>" else ""
  "  " ++ short ++ "--" ++ s.long ++ value ++ "  " ++ s.description

end Switch

def verbLines : List String :=
  "Commands:" :: (Verb.named.map fun v => "  " ++ v.name?.getD "" ++ "  " ++ v.description) ++
    ["  help  Print this message or the help of the given subcommand(s)", ""]

def helpText (v : Verb) : String :=
  let name := match v.name? with
    | some name => "cmdforge " ++ name
    | none => "cmdforge"
  let positional := if v = .completions then "<SHELL>" else "[DIR]"
  let lines :=
    [v.description, "", "Usage: " ++ name ++ " [OPTIONS] " ++ positional, ""] ++
    (if v = .standard then verbLines else []) ++
    "Options:" :: v.switches.map Switch.helpLine
  "\n".intercalate lines ++ "\n"

def completionText (shell : String) : String :=
  let names := " ".intercalate (Verb.named.filterMap Verb.name? ++ ["help"])
  let line :=
    if shell = "bash" then "complete -W \"" ++ names ++ "\" cmdforge"
    else if shell = "zsh" then "compctl -k \"(" ++ names ++ ")\" cmdforge"
    else if shell = "fish" then "complete -c cmdforge -f -a \"" ++ names ++ "\""
    else if shell = "elvish" then
      "set edit:completion:arg-completer[cmdforge] = \x7b|@words| put " ++ names ++ " \x7d"
    else
      "Register-ArgumentCompleter -Native -CommandName cmdforge -ScriptBlock \x7b \"" ++ names ++
        "\".Split(\" \") \x7d"
  line ++ "\n"

end CommandGen
