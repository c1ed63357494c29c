import CommandGen.Layout
import CommandGen.Output.Names

/-! What all generated files have in common. -/
namespace CommandGen

def headerLines : List String :=
  ["// DO NOT EDIT", "// This file was automatically generated by cmdforge"]

def Step.lines (texts : List String) : List Step := texts.map .line

def headerSteps : List Step := Step.lines headerLines ++ [.blank]

def quotedList (items : List String) : String := "&[" ++ ", ".intercalate (items.map quoted) ++ "]"

end CommandGen
