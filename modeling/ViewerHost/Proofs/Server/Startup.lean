import ViewerHost.Proofs.Subsystem.Construction
import ViewerHost.Server.Lifecycle

namespace ViewerHost

open Outcome

variable {s : Settings} {key : String} {tree : FileTree} {useSsl : Bool}

namespace ServerConfig

theorem readTimezone_succeeds_iff :
    Succeeds (readTimezone s) ↔ s.Admits "default.timezone.id" Toml.IsFilled := by
  unfold readTimezone Settings.contains Settings.Admits
  dsimp only
  cases found : s.get? "default.timezone.id" with
  | none => simp
  | some value =>
      rw [Option.isSome_some, if_pos rfl, succeeds_bind_iff]
      simp [mapError_eq_ok_iff, Settings.getText_eq_ok_iff, found, succeeds_refuse_iff,
        Toml.IsFilled]

theorem readPort_succeeds_iff {default : Int} (fits : 1 ≤ default ∧ default ≤ 65535) :
    Succeeds (readPort s key default) ↔ s.Admits key (Toml.IsBetween 1 65535) := by
  apply Settings.succeeds_checked_iff
  · intro port
    rw [succeeds_guard_iff]
    omega
  · exact fits

theorem readMaxThreads_succeeds_iff :
    Succeeds (readMaxThreads s) ↔ s.Admits "server.max.threads" (Toml.IsBetween 1 0xFFFFFFFF) := by
  apply Settings.succeeds_checked_iff
  · intro threads
    rw [succeeds_guard_iff]
    omega
  · decide

theorem readHostname_succeeds_iff :
    Succeeds (readHostname s) ↔ s.Admits "server.hostname" Toml.IsFilled := by
  unfold readHostname Toml.IsFilled
  simp only [succeeds_bind_iff, mapError_eq_ok_iff, Settings.getTextOr_eq_ok_iff]
  simp only [succeeds_refuse_iff, succeeds_ok, and_true, Bool.not_eq_true]
  exact Settings.exists_yields_iff (by decide)

def Connects (s : Settings) : Bool → Prop
  | false => s.Admits "server.port" (Toml.IsBetween 1 65535)
  | true =>
    (∀ key ∈ sslKeys, ∃ value, s.get? key = some value ∧ value.IsScalar) ∧
    s.Admits "server.ssl.port" (Toml.IsBetween 1 65535)

theorem activePort_succeeds_iff : Succeeds (activePort s useSsl) ↔ Connects s useSsl := by
  cases useSsl with
  | false => exact readPort_succeeds_iff (by decide)
  | true =>
      unfold activePort Connects
      rw [if_pos rfl, succeeds_bind_and fun _ _ => readPort_succeeds_iff (by decide),
        succeeds_mapError_iff, succeeds_mapM_iff]
      simp only [Settings.getText_succeeds_iff]

theorem readListener_succeeds_iff :
    Succeeds (readListener s) ↔
      (∃ useSsl, s.Yields "server.use.ssl" Toml.Says false useSsl ∧ Connects s useSsl) ∧
      s.Admits "server.hostname" Toml.IsFilled ∧
      s.Admits "server.max.threads" (Toml.IsBetween 1 0xFFFFFFFF) := by
  rw [readListener, succeeds_bind_iff, ← exists_and_right]
  apply exists_congr
  intro useSsl
  rw [mapError_eq_ok_iff, Settings.getBoolOr_eq_ok_iff, and_assoc]
  apply and_congr_right
  intro given
  rw [← activePort_succeeds_iff, ← readHostname_succeeds_iff, ← readMaxThreads_succeeds_iff]
  apply succeeds_bind_and
  intro port _
  apply succeeds_bind_and
  intro hostname _
  exact succeeds_bind_ok_iff

def readDirectory (s : Settings) (key default : String) : Except ConfigError Path :=
  (readPath s key default).map (resolvePath s)

theorem readDirectory_eq_ok_iff {default : String} {path : Path} :
    readDirectory s key default = .ok path ↔
      ∃ text, s.Yields key Toml.Reads default text ∧ path = resolvePath s ⟨text⟩ := by
  unfold readDirectory readPath Settings.getPathOr
  simp only [map_eq_ok_iff, mapError_eq_ok_iff, Settings.getTextOr_eq_ok_iff]
  constructor
  · rintro ⟨_, ⟨text, given, rfl⟩, rfl⟩
    exact ⟨text, given, rfl⟩
  · rintro ⟨text, given, rfl⟩
    exact ⟨_, ⟨text, given, rfl⟩, rfl⟩

theorem readDirectory_succeeds_iff {default : String} :
    Succeeds (readDirectory s key default) ↔ s.Admits key Toml.IsScalar := by
  rw [readDirectory, succeeds_map_iff, readPath, succeeds_mapError_iff, Settings.getPathOr,
    succeeds_map_iff, Settings.getTextOr_succeeds_iff]

theorem ofSettings_eq_ok_iff {config : ServerConfig} :
    ofSettings s = .ok config ↔
      readTimezone s = .ok config.timezone ∧
      readDirectory s "flowgate.temp.dir" "temp" = .ok config.tempDir ∧
      readDirectory s "viewer.plugin.dir" "plugins/viewer" = .ok config.pluginDir ∧
      readDirectory s "web.resource.dir" "web" = .ok config.webDir ∧
      readListener s = .ok config.listener ∧
      s.getBoolOr "rendering.dev.mode" false = .ok config.devMode := by
  constructor
  · intro read
    obtain ⟨timezone, zone, read⟩ := bind_eq_ok_iff.mp read
    obtain ⟨tempDir, temp, read⟩ := bind_eq_ok_iff.mp read
    obtain ⟨pluginDir, plugin, read⟩ := bind_eq_ok_iff.mp read
    obtain ⟨webDir, web, read⟩ := bind_eq_ok_iff.mp read
    obtain ⟨listener, listening, read⟩ := bind_eq_ok_iff.mp read
    obtain ⟨devMode, mode, read⟩ := bind_eq_ok_iff.mp read
    cases read
    exact ⟨zone, map_eq_ok_iff.mpr ⟨tempDir, temp, rfl⟩, map_eq_ok_iff.mpr ⟨pluginDir, plugin, rfl⟩,
      map_eq_ok_iff.mpr ⟨webDir, web, rfl⟩, listening, mapError_eq_ok_iff.mp mode⟩
  · rintro ⟨zone, temp, plugin, web, listening, mode⟩
    obtain ⟨listener, tempDir, pluginDir, webDir, timezone, devMode⟩ := config
    obtain ⟨tempDir, readTemp, rfl⟩ := map_eq_ok_iff.mp temp
    obtain ⟨pluginDir, readPlugin, rfl⟩ := map_eq_ok_iff.mp plugin
    obtain ⟨webDir, readWeb, rfl⟩ := map_eq_ok_iff.mp web
    dsimp only at zone listening mode
    simp only [ofSettings, zone, readTemp, readPlugin, readWeb, listening, mode]
    rfl

end ServerConfig

theorem SessionCache.ofSettings_succeeds_iff :
    Succeeds (ofSettings s) ↔
      s.Admits capacityKey Toml.IsPositive ∧ s.Admits lifetimeKey Toml.IsPositive := by
  unfold ofSettings
  simp only [succeeds_bind_iff, mapError_eq_ok_iff, Settings.getIntOr_eq_ok_iff,
    succeeds_refuse_iff, succeeds_ok, and_true, Int.not_le, ← and_assoc, exists_and_right]
  rw [Settings.exists_yields_iff (by decide), Settings.exists_yields_iff (by decide)]
  rfl

namespace Server

theorem prepare_succeeds_iff :
    Succeeds (prepare s tree).2 ↔
      ∃ config, ServerConfig.ofSettings s = .ok config ∧
        Succeeds (tree.makeDirectories config.tempDir) ∧ Succeeds (SessionCache.ofSettings s) := by
  unfold prepare
  cases read : ServerConfig.ofSettings s with
  | error cause => simp
  | ok config =>
      dsimp only
      cases made : tree.makeDirectories config.tempDir with
      | error cause => simp [made]
      | ok tree => simp [made, succeeds_map_iff]

theorem start_ok_iff {implementations : Implementations} {catalog : Catalog} :
    ((new s implementations catalog).start tree).outcome = .ok () ↔
      Succeeds (prepare s tree).2 ∧ Succeeds (Assembly.run implementations s).product := by
  rw [start, if_neg (by simp [new])]
  dsimp only [new, enter]
  rcases prepare s tree with ⟨made, outcome⟩
  cases outcome with
  | error cause => simp [fail]
  | ok ready =>
      cases built : (Assembly.run implementations s).product with
      | error cause => simp [fail]
      | ok subsystems => simp

/-- The settings and the files that let a server start. -/
structure Startable (s : Settings) (tree : FileTree) : Prop where
  timezone : s.Admits "default.timezone.id" Toml.IsFilled
  tempDir : ∃ text, s.Yields "flowgate.temp.dir" Toml.Reads "temp" text ∧
    Succeeds (tree.makeDirectories (ServerConfig.resolvePath s ⟨text⟩))
  pluginDir : s.Admits "viewer.plugin.dir" Toml.IsScalar
  webDir : s.Admits "web.resource.dir" Toml.IsScalar
  devMode : s.Admits "rendering.dev.mode" fun value => ∃ b, value.Says b
  connection : ∃ useSsl, s.Yields "server.use.ssl" Toml.Says false useSsl ∧
    ServerConfig.Connects s useSsl
  hostname : s.Admits "server.hostname" Toml.IsFilled
  maxThreads : s.Admits "server.max.threads" (Toml.IsBetween 1 0xFFFFFFFF)
  maxSessions : s.Admits "max.num.sessions" Toml.IsPositive
  sessionLifetime : s.Admits "session.time.to.live" Toml.IsPositive
  managers : ∀ role : Role, s.Admits role.key (· = .string role.defaultTag)
  users : ∃ entries, s.Yields "user.manager.users" Toml.Lists [] entries ∧
    (∀ entry ∈ entries, UserStore.IsEntry entry) ∧ (entries.map UserStore.nameOf).Nodup
  projects : s.Admits "project.names" fun value => ∃ names, value.Lists names
  maxExecutions : s.Admits "executor.max.concurrent" Toml.IsPositive
  slaInterval : s.Admits "sla.check.interval.ms" Toml.IsPositive

/-- A server with the managers that the host comes with starts under these settings and no others,
whatever the plugins are like. -/
theorem start_succeeds_iff (s : Settings) (catalog : Catalog) (tree : FileTree) :
    ((new s .standard catalog).start tree).outcome = .ok () ↔ Startable s tree := by
  rw [start_ok_iff, Assembly.run_standard_succeeds_iff, UserStore.ofSettings_succeeds_iff,
    ProjectStore.ofSettings_succeeds_iff, Executor.ofSettings_succeeds_iff,
    Sla.ofSettings_succeeds_iff]
  constructor
  · rintro ⟨prepared, managers, users, projects, maxExecutions, slaInterval⟩
    obtain ⟨config, read, made, sessions⟩ := prepare_succeeds_iff.mp prepared
    obtain ⟨zone, temp, plugin, web, listening, mode⟩ := ServerConfig.ofSettings_eq_ok_iff.mp read
    obtain ⟨text, given, resolved⟩ := ServerConfig.readDirectory_eq_ok_iff.mp temp
    obtain ⟨connection, hostname, maxThreads⟩ :=
      ServerConfig.readListener_succeeds_iff.mp ⟨_, listening⟩
    obtain ⟨maxSessions, sessionLifetime⟩ := SessionCache.ofSettings_succeeds_iff.mp sessions
    have timezone := ServerConfig.readTimezone_succeeds_iff.mp ⟨_, zone⟩
    have pluginDir := ServerConfig.readDirectory_succeeds_iff.mp ⟨_, plugin⟩
    have webDir := ServerConfig.readDirectory_succeeds_iff.mp ⟨_, web⟩
    have devMode := Settings.getBoolOr_succeeds_iff.mp ⟨_, mode⟩
    have tempDir := resolved ▸ made
    exact ⟨timezone, ⟨text, given, tempDir⟩, pluginDir, webDir, devMode, connection, hostname,
      maxThreads, maxSessions, sessionLifetime, managers, users, projects, maxExecutions,
      slaInterval⟩
  · intro startable
    obtain ⟨text, given, made⟩ := startable.tempDir
    have temp := ServerConfig.readDirectory_eq_ok_iff.mpr ⟨text, given, rfl⟩
    obtain ⟨timezone, zone⟩ := ServerConfig.readTimezone_succeeds_iff.mpr startable.timezone
    obtain ⟨pluginDir, plugin⟩ := ServerConfig.readDirectory_succeeds_iff.mpr startable.pluginDir
    obtain ⟨webDir, web⟩ := ServerConfig.readDirectory_succeeds_iff.mpr startable.webDir
    obtain ⟨listener, listening⟩ := ServerConfig.readListener_succeeds_iff.mpr
      ⟨startable.connection, startable.hostname, startable.maxThreads⟩
    obtain ⟨devMode, mode⟩ := Settings.getBoolOr_succeeds_iff.mpr startable.devMode
    have sessions := SessionCache.ofSettings_succeeds_iff.mpr
      ⟨startable.maxSessions, startable.sessionLifetime⟩
    let config : ServerConfig :=
      ⟨listener, ServerConfig.resolvePath s ⟨text⟩, pluginDir, webDir, timezone, devMode⟩
    have read : ServerConfig.ofSettings s = .ok config :=
      ServerConfig.ofSettings_eq_ok_iff.mpr ⟨zone, temp, plugin, web, listening, mode⟩
    exact ⟨prepare_succeeds_iff.mpr ⟨config, read, made, sessions⟩, startable.managers,
      startable.users, startable.projects, startable.maxExecutions, startable.slaInterval⟩

end Server

end ViewerHost
