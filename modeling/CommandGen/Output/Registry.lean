import CommandGen.Command.Set
import CommandGen.Output.Basic

/-! The file that builds commands by identifier. -/
namespace CommandGen

/-- Each identifier with the type that is built for it, in type-name order. -/
def constructorRows (set : CommandSet) : List (String × String) :=
  set.entries.map fun (typeName, c) => (c.identifier, typeName)

def constructorRow (row : String × String) : Step :=
  .block "(" "),"
    [.line (quoted row.1 ++ ","),
     .block "|sess: Option<&Session>, logger: Logger| -> Box<dyn Command> \x7b" "\x7d,"
      [.line ("Box::new(" ++ row.2 ++ "::new(sess, Some(logger)))")]]

def constructorsStep (set : CommandSet) : Step :=
  .block "const CONSTRUCTORS: &[(&str, CommandConstructor)] = &[" "];"
    ((constructorRows set).map constructorRow)

def registryMethods : List Step :=
  [.braced "pub fn new(session: Option<Session>, logger: Logger) -> Self"
    [.braced "Self"
      [.line "session,", .line "logger,",
        .line "constructors: CONSTRUCTORS.iter().copied().collect(),"]],
   .blank,
   .doc "A registry backed by the mock session and a discarding logger.",
   .braced "pub fn mock() -> Self" [.line "Self::new(Some(Session::mock()), Logger::discard())"],
   .blank,
   .braced "pub fn build(&self, key: &str) -> Option<Box<dyn Command>>"
    [.line "let constructor = self.constructors.get(key)?;",
     .line "Some(constructor(self.session.as_ref(), self.logger.clone()))"],
   .blank,
   .braced "pub fn supports(&self, key: &str) -> bool" [.line "self.constructors.contains_key(key)"],
   .blank,
   .braced "pub fn keys(&self) -> impl Iterator<Item = &'static str> + '_"
    [.line "self.constructors.keys().copied()"]]

def registrySteps : List Step :=
  [.doc "Builds commands by identifier.",
   .braced "pub struct CommandRegistry"
    [.line "session: Option<Session>,",
     .line "logger: Logger,",
     .line "constructors: HashMap<&'static str, CommandConstructor>,"],
   .blank,
   .braced "impl CommandRegistry" registryMethods]

def assertionsStep (set : CommandSet) : Step :=
  .block "const _: fn() = || \x7b" "\x7d;"
    (.line "fn assert_command<T: Command>() \x7b\x7d" ::
      set.keys.map fun typeName => .line ("assert_command::<" ++ typeName ++ ">();"))

def registryText (set : CommandSet) : String :=
  layOut <|
    headerSteps ++
    [.line "use std::collections::HashMap;",
     .blank,
     .line "use super::*;",
     .blank,
     .doc "Builds a boxed command from an optional session and a logger.",
     .line "pub type CommandConstructor = fn(Option<&Session>, Logger) -> Box<dyn Command>;",
     .blank,
     constructorsStep set,
     .blank] ++
    registrySteps ++
    [.blank, assertionsStep set]

end CommandGen
