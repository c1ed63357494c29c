import CommandGen.Command.Basic
import CommandGen.NameMap

/-! The commands of one run, keyed by the name of the type that declares them. -/
namespace CommandGen

abbrev CommandSet := NameMap Command

def CommandSet.hasDirectCalls (set : CommandSet) : Bool :=
  set.values.any (·.callMode.isDirect)

end CommandGen
