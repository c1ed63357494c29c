import CommandGen.Command.Set

/-! The entities that each action supports. -/
namespace CommandGen

/-- Actions in order, each with its entities in order; an entity stands as often as commands have
it. -/
abbrev ActionIndex := NameMap (List String)

namespace ActionIndex

def add (index : ActionIndex) (c : Command) : ActionIndex :=
  index.insert c.action ((index.get? c.action).getD [] ++ [c.entity])

def ofCommands (set : CommandSet) : ActionIndex :=
  (set.values.foldl add NameMap.empty).mapValues fun es => es.mergeSort fun a b => decide (a ≤ b)

end ActionIndex

end CommandGen
