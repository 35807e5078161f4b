import ViewerHost.Files.Tree
import ViewerHost.Toml.Writer

namespace ViewerHost

inductive SettingsError where
  | missing (key : String)
  | wrongType (key expected value : String)
  | unreadable (path : Path) (reason : FileError)
  | malformedFile (path : Path)
  | malformedText
deriving DecidableEq, Repr

namespace SettingsError

def ofValue (key expected : String) (value : Toml) : SettingsError :=
  .wrongType key expected value.display

def message? : SettingsError → Option String
  | missing key => some ("Missing required property: " ++ key)
  | wrongType key expected value =>
    some ("Property '" ++ key ++ "' is not a valid " ++ expected ++ ": " ++ value)
  | unreadable path reason =>
    some ("Failed to read properties file " ++ path.text ++ ": " ++ reason.message)
  | malformedFile _ => none
  | malformedText => none

end SettingsError

end ViewerHost
