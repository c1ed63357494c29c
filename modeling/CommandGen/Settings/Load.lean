import CommandGen.Files.Program
import CommandGen.Settings.Read

/-! Settings of a directory. -/
namespace CommandGen

open FileProgram

namespace Settings

def fileName : String := "cmdforge.toml"

def ofFile (path : String) : FileProgram (Except SettingsError Settings) := do
  match ← readTextAt path with
  | none => return .error (.unreadable path)
  | some text => return ofText text

/-- The settings for a directory: those of a file that is asked for, or of the file in the directory
if there is one, or the defaults. -/
def load (dir : String) (explicit : Option String) :
    FileProgram (Except SettingsError Settings) := do
  match explicit with
  | some path => ofFile path
  | none =>
    let path := Path.join dir fileName
    if ← isFileAt path then ofFile path else return .ok {}

end Settings

end CommandGen
