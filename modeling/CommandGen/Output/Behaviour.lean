import CommandGen.Command.Set
import CommandGen.Output.Basic

/-! The file that gives every command its behaviour: construction, client, run, validation, dry run
and help. A command that cannot be carried out is refused before any text is made. -/
namespace CommandGen

structure DirectCall where
  name : String
  input : String
  output : Option String
deriving DecidableEq

inductive RunPlan where
  | direct (call : DirectCall)
  | manual
deriving DecidableEq

inductive DryRunPlan where
  | generated (call : DirectCall)
  | manual
  | unsupported
deriving DecidableEq

structure Plan where
  run : RunPlan
  dryRun : DryRunPlan
deriving DecidableEq

inductive RenderError where
  | missingInput (typeName call : String)
  | dryRunWithoutCall (typeName : String)
deriving DecidableEq

def RenderError.message : RenderError → String
  | missingInput typeName call => s!"{typeName}: call '{call}' has no input type"
  | dryRunWithoutCall typeName => s!"{typeName}: a generated dry run needs a call"

def runPlan (typeName : String) (c : Command) : Except RenderError RunPlan :=
  match c.callMode with
  | .manual => .ok .manual
  | .direct call (some input) output => .ok (.direct ⟨call, input, output⟩)
  | .direct call none _ => .error (.missingInput typeName call)

def dryRunPlan (typeName : String) (mode : DryRunMode) : RunPlan → Except RenderError DryRunPlan
  | .direct call => .ok (match mode with
    | .generated => .generated call
    | .manual => .manual
    | .unsupported => .unsupported)
  | .manual => match mode with
    | .generated => .error (.dryRunWithoutCall typeName)
    | .manual => .ok .manual
    | .unsupported => .ok .unsupported

def plan (typeName : String) (c : Command) : Except RenderError Plan := do
  let run ← runPlan typeName c
  return ⟨run, ← dryRunPlan typeName c.dryRunMode run⟩

/-- A step that stops with a message in front of the error. -/
def orFail (call message : String) : String :=
  call ++ ".map_err(|err| CommandError::msg(format!(\"" ++ message ++ ": \x7berr\x7d\")))?;"

def clockLine : String := "let start = Instant::now();"

def timingLine (heading : String) (c : Command) (call : DirectCall) : String :=
  "self.logger.extra_verbose(&format!(\"" ++ heading ++ templated (c.api ++ "." ++ call.name) ++
    " call took \x7b:?\x7d\", start.elapsed()));"

def inputLine (call : DirectCall) : String :=
  "let mut input: " ++ call.input ++ " = Default::default();"

def fillLine (heading : String) (call : DirectCall) : String :=
  orFail "struct_injector(self, &mut input, ctx)"
    (heading ++ "cannot inject in " ++ templated call.input)

def callText (call : DirectCall) : String := "self.client()?." ++ methodName call.name ++ "(&input)"

def Command.label (c : Command) : String := c.action ++ " " ++ c.entity

def clientPath (traits : NameMap String) (c : Command) : String :=
  c.api ++ "::" ++ traitName traits c.api

def constructorStep (c : Command) : Step :=
  .braced "pub fn new(sess: Option<&Session>, logger: Option<Logger>) -> Self"
    [.block "let mut cmd = Self \x7b" "\x7d;"
      [.line "logger: logger.unwrap_or_else(Logger::discard),", .line "..Self::default()"],
     .braced "if let Some(sess) = sess"
      [.line ("cmd.api = Some(Box::new(" ++ c.api ++ "::Client::new(sess)));")],
     .line "cmd"]

def clientStep (client : String) (c : Command) : Step :=
  .braced ("fn client(&self) -> Result<&dyn " ++ client ++ ", CommandError>")
    [.line ("self.api.as_deref().ok_or_else(|| CommandError::msg(" ++
      quoted (c.label ++ ": no " ++ c.api ++ " client") ++ "))")]

def inherentStep (traits : NameMap String) (typeName : String) (c : Command) : Step :=
  let client := clientPath traits c
  .braced ("impl " ++ typeName)
    [constructorStep c,
     .blank,
     .braced ("pub fn set_api(&mut self, api: Box<dyn " ++ client ++ ">)")
       [.line "self.api = Some(api);"],
     .blank,
     .braced "fn inject(&mut self, params: &Params) -> Result<(), CommandError>"
      [.line "struct_setter(self, params)"],
     .blank,
     clientStep client c]

def runBody (c : Command) : RunPlan → List Step
  | .manual => [.line "let output = self.manual_run(ctx)?;"]
  | .direct call => Step.lines
    [inputLine call,
     fillLine "" call,
     clockLine,
     "let result = " ++ callText call ++ ";",
     timingLine "" c call,
     match call.output with
      | some output => "let output: " ++ output ++ " = result?;"
      | none => "let output = result?;"]

def runEnd (c : Command) : List Step :=
  [.line "let extracted = self.extract_result(&output);",
   .braced "match &extracted"
    [.line ("Some(value) => self.logger.info(&format!(\"" ++ templated c.label ++
      " '\x7bvalue\x7d' done\")),"),
     .line ("None => self.logger.info(" ++ quoted (c.label ++ " done") ++ "),")],
   .blank,
   .line (orFail "self.after_run(ctx, &output)" "after run"),
   .line "Ok(extracted)"]

def runStep (c : Command) (run : RunPlan) : Step :=
  .braced
    "fn run(&mut self, ctx: &Context, params: &Params) -> Result<Option<Value>, CommandError>"
    ([.line (orFail "self.inject(params)" "cannot set params on command struct"),
      .line (orFail "self.before_run(ctx)" "before run"),
      .blank] ++ runBody c run ++ [.blank] ++ runEnd c)

def validateStep : Step :=
  .braced "fn validate_command(&mut self, params: &Params, refs: &[String]) -> Vec<CommandError>"
    [.braced "if let Err(err) = self.inject(params)" [.line "return vec![err];"],
     .line "validate_struct(self, refs).err().into_iter().collect()"]

def dryRunHeader : String :=
  "fn dry_run(&mut self, ctx: &Context, params: &Params) -> Result<Option<Value>, CommandError>"

def fakeResult (c : Command) : String := "Ok(Some(fake_dry_run_id(" ++ quoted c.entity ++ ")))"

def generatedDryRunBody (c : Command) (call : DirectCall) : List Step :=
  [.line (orFail "self.inject(params)" "dry run: cannot set params on command struct"),
   .blank,
   .line (inputLine call),
   .line "input.set_dry_run(true);",
   .line (fillLine "dry run: " call),
   .blank,
   .line clockLine,
   .braced ("match " ++ callText call)
    [.block "Err(err) if err.is_dry_run_success() => \x7b" "\x7d"
      [.line (timingLine "dry run: " c call),
       .line ("self.logger.verbose(" ++ quoted ("dry run: " ++ c.label ++ " ok") ++ ");"),
       .line (fakeResult c)],
     .line "Err(err) => Err(CommandError::msg(format!(\"dry run: \x7berr\x7d\"))),",
     .line ("Ok(_) => Err(CommandError::msg(" ++
      quoted ("dry run: " ++ c.label ++ " unexpectedly succeeded") ++ ")),")]]

def dryRunStep (c : Command) : DryRunPlan → Step
  | .generated call => .braced dryRunHeader (generatedDryRunBody c call)
  | .manual => .braced dryRunHeader [.line "self.manual_dry_run(ctx, params)"]
  | .unsupported =>
    .braced
      "fn dry_run(&mut self, _ctx: &Context, _params: &Params) -> Result<Option<Value>, CommandError>"
      [.line (fakeResult c)]

def helpStep (c : Command) : Step :=
  .braced "fn params_help(&self) -> String"
    [.line ("generate_params_help(" ++ quoted c.identifier ++ ", &struct_list_params_keys(self))")]

def interfaceStep (typeName : String) (c : Command) (p : Plan) : Step :=
  .braced ("impl Command for " ++ typeName)
    [runStep c p.run, .blank, validateStep, .blank, dryRunStep c p.dryRun, .blank, helpStep c]

def commandSection (traits : NameMap String) (typeName : String) (c : Command) :
    Except RenderError (List Step) := do
  let p ← plan typeName c
  return [.blank, inherentStep traits typeName c, .blank, interfaceStep typeName c p]

/-- The head of the file. The clock is there if some command has a call to be timed. -/
def behaviourHead (timed : Bool) : List Step :=
  headerSteps ++ (if timed then [.line "use std::time::Instant;", .blank] else []) ++
    [.line "use super::*;"]

/-- The text of the file, or what is wrong with the first command that has no plan. -/
def behaviourText (traits : NameMap String) (set : CommandSet) : Except RenderError String := do
  let sections ← set.entries.mapM fun (typeName, c) => commandSection traits typeName c
  return layOut (behaviourHead set.hasDirectCalls ++ sections.flatten)

end CommandGen
