/-
**Settings.**

The service has settings for its own address, for the analysis of routes and for metadata. They are
read from layers, the later ones winning: defaults, two files and the variables of the environment.
Values that cannot be used are refused with the first rule that they break.

* `Settings.ofVariables`, `Settings.load`: settings from layers;
* `Settings.brokenRule?`: the first rule that settings break.
-/

import Wayfinder.Settings.Layers
import Wayfinder.Time.Duration

namespace Wayfinder

/-- Where the service listens. -/
structure ServerSettings where
  host : String
  listenPort : Nat
deriving DecidableEq, Repr

/-- The address under which the policy engine reaches the service. -/
def ServerSettings.callback (server : ServerSettings) : String :=
  server.host ++ ":" ++ Numeral.decimal server.listenPort

/-- Settings of the analysis of routes. -/
structure RouteSettings where
  oracleAddress : String
  cacheSize : Nat
  policyAddress : String
  timeoutMillis : Nat
deriving DecidableEq, Repr

/-- How long a collaborator may take. -/
def RouteSettings.timeout (settings : RouteSettings) : Duration :=
  Duration.ofMillis settings.timeoutMillis

/-- Settings of the metadata sources. -/
structure MetadataSettings where
  oracleAddress : String
  cacheSize : Nat
  apiKey : String
  geolocation : Bool
  refreshSeconds : Nat
  directory : Option String
  timeoutMillis : Nat
deriving DecidableEq, Repr

/-- The time between two refreshes. -/
def MetadataSettings.refresh (settings : MetadataSettings) : Duration :=
  Duration.ofSeconds settings.refreshSeconds

/-- How long a collaborator may take. -/
def MetadataSettings.timeout (settings : MetadataSettings) : Duration :=
  Duration.ofMillis settings.timeoutMillis

/-- All settings. -/
structure Settings where
  server : ServerSettings
  routes : RouteSettings
  metadata : MetadataSettings
deriving DecidableEq, Repr

namespace Settings

/-- The layer below all others. -/
def defaults : SettingTree :=
  .table [
    ("server", .table [("host", .text "0.0.0.0"), ("port", .integer 27001)]),
    ("analyzer", .table [
      ("sciond_addr", .text "127.0.0.1:30255"), ("cache_size", .integer 1000),
      ("policy_manager_addr", .text "127.0.0.1:27002"), ("upstream_timeout_ms", .integer 5000)]),
    ("nip", .table [
      ("sciond_addr", .text "127.0.0.1:30255"), ("cache_size", .integer 1000),
      ("google_maps_api_key", .text ""), ("enable_geolocation", .bool false),
      ("refresh_interval_secs", .integer 60), ("upstream_timeout_ms", .integer 5000)])]

/-- A section of the tree, as a table. A section that is given as a list has its settings in their
order; items after the last of them do not count. -/
def section? (tree : SettingTree) (name : String) (settings : List String) :
    Option SettingTree :=
  (tree.get? name).bind fun
    | .table fields => some (.table fields)
    | .list items =>
      if settings.length ≤ items.length then some (.table (settings.zip items)) else none
    | _ => none

/-- The names of the settings of a server, in their order. -/
def serverNames : List String := ["host", "port"]

/-- The names of the settings of the analysis of routes, in their order. -/
def routeNames : List String :=
  ["sciond_addr", "cache_size", "policy_manager_addr", "upstream_timeout_ms"]

/-- The names of the settings of the metadata sources, in their order. -/
def metadataNames : List String :=
  ["sciond_addr", "cache_size", "google_maps_api_key", "enable_geolocation",
    "refresh_interval_secs", "local_data_dir", "upstream_timeout_ms"]

/-- A setting of a section, as the type wanted. -/
def setting? {α : Type} (read : SettingTree → Option α) (part : SettingTree) (name : String) :
    Option α :=
  (part.get? name).bind read

/-- A text that may be missing. -/
def optionalText? (part : SettingTree) (name : String) : Option (Option String) :=
  match part.get? name with
  | none => some none
  | some .missing => some none
  | some value => value.text?.map some

/-- The settings of a tree. Of the number on which the server listens, only the last 16 bits count.
-/
def ofTree? (tree : SettingTree) : Option Settings := do
  let server ← section? tree "server" serverNames
  let routes ← section? tree "analyzer" routeNames
  let metadata ← section? tree "nip" metadataNames
  return {
    server := {
      host := ← setting? SettingTree.text? server "host"
      listenPort := (← setting? SettingTree.natural? server "port") % UInt16.size }
    routes := {
      oracleAddress := ← setting? SettingTree.text? routes "sciond_addr"
      cacheSize := ← setting? SettingTree.natural? routes "cache_size"
      policyAddress := ← setting? SettingTree.text? routes "policy_manager_addr"
      timeoutMillis := ← setting? SettingTree.natural? routes "upstream_timeout_ms" }
    metadata := {
      oracleAddress := ← setting? SettingTree.text? metadata "sciond_addr"
      cacheSize := ← setting? SettingTree.natural? metadata "cache_size"
      apiKey := ← setting? SettingTree.text? metadata "google_maps_api_key"
      geolocation := ← setting? SettingTree.truth? metadata "enable_geolocation"
      refreshSeconds := ← setting? SettingTree.natural? metadata "refresh_interval_secs"
      directory := ← optionalText? metadata "local_data_dir"
      timeoutMillis := ← setting? SettingTree.natural? metadata "upstream_timeout_ms" } }

/-- The rules, each with whether the settings keep it. -/
def rules (settings : Settings) : List (Bool × String) :=
  [(settings.server.host != "", "server.host must not be empty"),
    (settings.routes.oracleAddress != "", "analyzer.sciond_addr must not be empty"),
    (settings.routes.policyAddress != "", "analyzer.policy_manager_addr must not be empty"),
    (settings.routes.cacheSize != 0, "analyzer.cache_size must be positive"),
    (settings.routes.timeoutMillis != 0, "analyzer.upstream_timeout_ms must be positive"),
    (settings.metadata.oracleAddress != "", "nip.sciond_addr must not be empty"),
    (settings.metadata.cacheSize != 0, "nip.cache_size must be positive"),
    (settings.metadata.refreshSeconds != 0, "nip.refresh_interval_secs must be positive"),
    (settings.metadata.timeoutMillis != 0, "nip.upstream_timeout_ms must be positive"),
    (!settings.metadata.geolocation || settings.metadata.apiKey != "",
      "nip.google_maps_api_key is required when geolocation is enabled")]

/-- The first rule that the settings break. -/
def brokenRule? (settings : Settings) : Option String :=
  (settings.rules.find? fun rule => !rule.1).map (·.2)

/-- The settings, if they break no rule. -/
def validated (settings : Settings) : Except SettingsFault Settings :=
  match settings.brokenRule? with
  | some rule => .error (.invalid rule)
  | none => .ok settings

/-- The settings of a tree that is laid over the defaults, if they can be used. -/
def ofTree (tree : SettingTree) : Except SettingsFault Settings :=
  match ofTree? (defaults.merge tree) with
  | some settings => settings.validated
  | none => .error .malformed

/-- The settings that variables give. -/
def ofVariables (stem : String) (environment : List (String × String)) :
    Except SettingsFault Settings := do
  ofTree (← Layers.underVariables stem environment (.table []))

/-- The mode in which the service runs. -/
def runMode (environment : List (String × String)) : String :=
  ((environment.reverse.find? (·.1 = "RUN_MODE")).map (·.2)).getD "development"

/-- The tree that files give. -/
def fileTree (files : Folder) (mode : String) : Except SettingsFault SettingTree := do
  let tree ← Layers.underFile files "config/default" (.table [])
  Layers.underFile files ("config/" ++ mode) tree

/-- The settings that files and variables give. -/
def load (stem : String) (files : Folder) (environment : List (String × String)) :
    Except SettingsFault Settings := do
  let tree ← fileTree files (runMode environment)
  ofTree (← Layers.underVariables stem environment tree)

end Settings

end Wayfinder
