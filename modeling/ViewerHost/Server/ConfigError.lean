import ViewerHost.Subsystem.Role

namespace ViewerHost

inductive ConfigError where
  | notLoaded (reason : String)
  | settings (cause : SettingsError)
  | invalidSetting (key reason : String)
  | assembly (cause : AssemblyError)
  | unprepared (path : Path) (reason : FileError)
deriving DecidableEq, Repr

namespace ConfigError

def message? : ConfigError → Option String
  | notLoaded reason => some ("Configuration not loaded: " ++ reason)
  | settings cause => cause.message?.map ("Invalid configuration: " ++ ·)
  | invalidSetting key reason => some ("Invalid setting " ++ key ++ ": " ++ reason)
  | assembly cause => cause.message?
  | unprepared path reason => some ("Failed to prepare " ++ path.text ++ ": " ++ reason.message)

end ConfigError

end ViewerHost
