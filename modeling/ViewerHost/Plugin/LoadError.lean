import ViewerHost.Extension.Catalog

namespace ViewerHost

inductive LoadError where
  | notADirectory (dir : Path)
  | missingConfig (file : Path)
  | invalidConfig (bundle : Path) (cause : SettingsError)
  | missingLibraryDir (dir : Path)
  | classNotFound (className : String) (bundle : Path)
  | constructorNotFound (className : String)
  | constructionFailed (className : String) (cause : ExtensionError)
  | notAHandler (className produced : String)
  | duplicateMount (path existing : String)
  | reservedMount (path : String)
  | unreadable (reason : FileError)
deriving DecidableEq, Repr

namespace LoadError

def message? : LoadError → Option String
  | notADirectory dir => some ("Plugin path " ++ dir.text ++ " is not a directory")
  | missingConfig file => some ("Plugin conf file " ++ file.text ++ " not found")
  | invalidConfig bundle cause =>
    cause.message?.map (("Invalid plugin configuration in " ++ bundle.text ++ ": ") ++ ·)
  | missingLibraryDir dir => some ("Library path " ++ dir.text ++ " not found")
  | classNotFound className bundle =>
    some ("Class " ++ className ++ " not found for plugin " ++ bundle.text)
  | constructorNotFound className => some ("Constructor not found in " ++ className)
  | constructionFailed className cause =>
    cause.message?.map (("Failed to construct " ++ className ++ ": ") ++ ·)
  | notAHandler className produced =>
    some (className ++ " produced " ++ produced ++ ", which is not a request handler")
  | duplicateMount path existing =>
    some ("Mount path /" ++ path ++ " is already used by plugin '" ++ existing ++ "'")
  | reservedMount path => some ("Mount path /" ++ path ++ " is reserved by the server")
  | unreadable reason => some ("IO error: " ++ reason.message)

end LoadError

end ViewerHost
