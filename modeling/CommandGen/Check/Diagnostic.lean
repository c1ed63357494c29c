/-! Findings of a check. -/
namespace CommandGen

inductive Severity where
  | error
  | warning
  | info
deriving DecidableEq

def Severity.text : Severity → String
  | error => "error"
  | warning => "warning"
  | info => "info"

structure Diagnostic where
  severity : Severity
  phase : String
  message : String
  lint : Option String := none
  location : Option String := none
deriving DecidableEq

namespace Diagnostic

def isError (d : Diagnostic) : Bool := d.severity = .error

def isWarning (d : Diagnostic) : Bool := d.severity = .warning

/-- A finding as it is shown: `error[lint]: message (at Type)`. -/
def text (d : Diagnostic) : String :=
  let lint := match d.lint with
    | some name => "[" ++ name ++ "]"
    | none => ""
  let location := match d.location with
    | some name => " (at " ++ name ++ ")"
    | none => ""
  d.severity.text ++ lint ++ ": " ++ d.message ++ location

end Diagnostic

end CommandGen
