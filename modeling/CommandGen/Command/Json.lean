import CommandGen.Command.Set
import CommandGen.Text.Json

/-! Commands as JSON. -/
namespace CommandGen

open Text (Json)

def Param.json (p : Param) : Json :=
  .object [("name", .text p.name), ("aws_field", .text p.inputField),
    ("is_required", .flag p.isRequired)]

def textMember (name : String) (value : Option String) : List (String × Json) :=
  (value.map fun v => (name, Json.text v)).toList

def Command.json (c : Command) : Json :=
  .object <|
    [("action", .text c.action), ("entity", .text c.entity), ("api", .text c.api)] ++
    textMember "call" c.call ++ textMember "input" c.input ++ textMember "output" c.output ++
    [("params", .list (c.params.map Param.json)), ("has_dry_run", .flag c.hasDryRun),
     ("gen_dry_run", .flag c.genDryRun)]

def CommandSet.json (set : CommandSet) : Json := .object (set.mapValues Command.json).entries

end CommandGen
