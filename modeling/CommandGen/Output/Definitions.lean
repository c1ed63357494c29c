import CommandGen.Command.Index
import CommandGen.Output.Basic

/-! The file with three tables sorted by key, each with a lookup that halves its range. -/
namespace CommandGen

/-- Commands with their identifiers, in identifier order; those of one identifier keep their
order. -/
def byIdentifier (set : CommandSet) : List (String × Command) :=
  (set.values.map fun c => (c.identifier, c)).mergeSort fun a b => decide (a.1 ≤ b.1)

structure Definition where
  action : String
  entity : String
  api : String
  requiredParams : List String
  extraParams : List String
deriving DecidableEq

def Command.definition (c : Command) : Definition where
  action := c.action
  entity := c.entity
  api := c.api
  requiredParams := c.requiredParams
  extraParams := c.extraParams

def apiRows (set : CommandSet) : List (String × String) :=
  (byIdentifier set).map fun (identifier, c) => (identifier, c.api)

def definitionRows (set : CommandSet) : List (String × Definition) :=
  (byIdentifier set).map fun (identifier, c) => (identifier, c.definition)

def actionRows (index : ActionIndex) : List (String × List String) := index.entries

def apiRow (row : String × String) : Step :=
  .line ("(" ++ quoted row.1 ++ ", " ++ quoted row.2 ++ "),")

def definitionRow (row : String × Definition) : Step :=
  .block "(" "),"
    [.line (quoted row.1 ++ ","),
     .block "Definition \x7b" "\x7d,"
      [.line ("action: " ++ quoted row.2.action ++ ","),
       .line ("entity: " ++ quoted row.2.entity ++ ","),
       .line ("api: " ++ quoted row.2.api ++ ","),
       .line ("required_params: " ++ quotedList row.2.requiredParams ++ ","),
       .line ("extra_params: " ++ quotedList row.2.extraParams ++ ",")]]

def actionRow (row : String × List String) : Step :=
  .line ("(" ++ quoted row.1 ++ ", " ++ quotedList row.2 ++ "),")

def tableSteps (doc header : String) (rows : List Step) : List Step :=
  [.doc doc, .block ("pub static " ++ header ++ " = &[") "];" rows, .blank]

def lookupStep (header table key value : String) : Step :=
  .braced ("pub fn " ++ header)
    [.line table,
     .indent,
     .line (".binary_search_by_key(&" ++ key ++ ", |&(key, _)| key)"),
     .line ".ok()",
     .line (".map(|i| " ++ value ++ ")"),
     .dedent]

def lookupSteps : List Step :=
  [lookupStep "api_for(identifier: &str) -> Option<&'static str>" "API_PER_TEMPLATE_DEF_NAME"
    "identifier" "API_PER_TEMPLATE_DEF_NAME[i].1",
   .blank,
   lookupStep "definition(identifier: &str) -> Option<&'static Definition>" "TEMPLATE_DEFINITIONS"
    "identifier" "&TEMPLATE_DEFINITIONS[i].1",
   .blank,
   lookupStep "supported_entities(action: &str) -> Option<&'static [&'static str]>"
    "DRIVER_SUPPORTED_ACTIONS" "action" "DRIVER_SUPPORTED_ACTIONS[i].1"]

def definitionsText (set : CommandSet) (index : ActionIndex) : String :=
  layOut <|
    headerSteps ++
    [.line "use super::Definition;", .blank] ++
    tableSteps "Api of each command, by identifier." "API_PER_TEMPLATE_DEF_NAME: &[(&str, &str)]"
      ((apiRows set).map apiRow) ++
    tableSteps "Definition of each command, by identifier."
      "TEMPLATE_DEFINITIONS: &[(&str, Definition)]" ((definitionRows set).map definitionRow) ++
    tableSteps "Entities supported by each action." "DRIVER_SUPPORTED_ACTIONS: &[(&str, &[&str])]"
      ((actionRows index).map actionRow) ++
    lookupSteps

end CommandGen
