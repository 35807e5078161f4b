import ViewerHost.Plugin.Bundle
import ViewerHost.Proofs.Settings.Loading
import ViewerHost.Server.Config

namespace ViewerHost

open Outcome Settings

variable {tree : FileTree} {dir confDir file : Path} {s : Settings} {key : String}

namespace Bundle

theorem loadSettings_eq_ok_iff :
    loadSettings tree dir = .ok s ↔
      tree.isFile (settingsFile dir) = true ∧
        Settings.load tree none (settingsFiles tree dir) = .ok s := by
  unfold loadSettings
  split
  · rename_i there
    simp [there, mapError_eq_ok_iff]
  · rename_i missing
    simp [missing]

end Bundle

namespace ServerConfig

theorem loadSettings_eq_ok_iff :
    loadSettings tree confDir = .ok s ↔
      tree.isDirectory confDir = true ∧ tree.isFile (serverFile confDir) = true ∧
        ∃ read, Settings.load tree none (files tree confDir) = .ok read ∧
          withHome confDir read = s := by
  unfold loadSettings
  cases tree.isDirectory confDir with
  | false => simp
  | true =>
      cases tree.isFile (serverFile confDir) with
      | false => simp
      | true => simp [mapError_eq_ok_iff, map_eq_ok_iff]

end ServerConfig

end ViewerHost
