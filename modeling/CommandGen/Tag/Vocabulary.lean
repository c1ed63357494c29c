/-! The keys of the annotation language, one for each role. -/
namespace CommandGen

structure Vocabulary where
  /-- Marks the field that declares the command of a type. -/
  command : String := "command"
  api : String := "command"
  action : String := "action"
  entity : String := "entity"
  call : String := "call"
  input : String := "input"
  output : String := "output"
  dryRun : String := "dryRun"
  /-- Marks a parameter field; its value is the name of the parameter. -/
  param : String := "param"
  required : String := "required"
  /-- Field of the external input structure. -/
  inputField : String := "awsField"
deriving DecidableEq, Inhabited

namespace Vocabulary

def awless : Vocabulary where
  command := "awsAPI"
  api := "awsAPI"
  call := "awsCall"
  input := "awsInput"
  output := "awsOutput"
  dryRun := "awsDryRun"
  param := "templateName"
  inputField := "awsName"

def keys (v : Vocabulary) : List String :=
  [v.command, v.api, v.action, v.entity, v.call, v.input, v.output, v.dryRun, v.param, v.required,
   v.inputField]

end Vocabulary

inductive Preset where
  | standard
  | awless
deriving DecidableEq

def Preset.vocabulary : Preset → Vocabulary
  | .standard => {}
  | .awless => .awless

structure KeyOverrides where
  command : Option String := none
  api : Option String := none
  action : Option String := none
  entity : Option String := none
  call : Option String := none
  input : Option String := none
  output : Option String := none
  dryRun : Option String := none
  param : Option String := none
  required : Option String := none
  inputField : Option String := none
deriving DecidableEq, Inhabited

def Vocabulary.override (v : Vocabulary) (o : KeyOverrides) : Vocabulary where
  command := o.command.getD v.command
  api := o.api.getD v.api
  action := o.action.getD v.action
  entity := o.entity.getD v.entity
  call := o.call.getD v.call
  input := o.input.getD v.input
  output := o.output.getD v.output
  dryRun := o.dryRun.getD v.dryRun
  param := o.param.getD v.param
  required := o.required.getD v.required
  inputField := o.inputField.getD v.inputField

end CommandGen
