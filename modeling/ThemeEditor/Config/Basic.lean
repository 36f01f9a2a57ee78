/-
# ThemeEditor.Config.Basic -- the configuration and its limits

Every value may be left out and then has a default.  A configuration is usable
when the number of theme files fits their two-digit names, the timeout is neither
zero nor longer than five minutes, and the service is a web address.
-/
import ThemeEditor.Config.Environment
import ThemeEditor.Json.Reader
import ThemeEditor.Log.Line
import ThemeEditor.Theme.Fetcher

namespace ThemeEditor

set_option autoImplicit false

/-- What is configured of the log. -/
structure LogConfig where
  level? : Option String
  file? : Option String
  deriving DecidableEq, Repr

/-- What is configured. -/
structure Config where
  serviceUrl? : Option String
  fileCount? : Option UInt8
  timeout? : Option UInt64
  storage? : Option String
  log : LogConfig
  deriving DecidableEq, Repr

namespace Config

/-- The configuration in which everything is left out. -/
def empty : Config :=
  ⟨none, none, none, none, ⟨none, none⟩⟩

/-- The address of the theme service. -/
def serviceUrl (c : Config) : String :=
  c.serviceUrl?.getD "http://localhost:8080"

/-- The number of theme files. -/
def fileCount (c : Config) : UInt8 :=
  c.fileCount?.getD Fetcher.defaultFileCount

/-- The directory of the settings. -/
def storageDirectory (c : Config) (env : Environment) : String :=
  c.storage?.getD (env.storageDirectory?.getD "storage")

/-- What asking for the directory of the settings logs. -/
def storageLog (c : Config) (env : Environment) : List Log.Line :=
  match c.storage?, env.storageDirectory? with
  | none, none =>
      [⟨.warn, .config,
        Environment.noDirectoryMessage ++ ", storing settings in the current directory"⟩]
  | _, _ => []

/-- The word for the level of the log. -/
def logLevel (c : Config) : String :=
  c.log.level?.getD "info"

/-! ## Limits -/

def minFileCount : UInt8 := 1

def maxFileCount : UInt8 := 99

/-- The longest timeout, in seconds. -/
def maxTimeout : UInt64 := 300

/-- A value beyond its limits. -/
inductive LimitFault where
  | fileCount (configured : UInt8)
  | timeout (configured : UInt64)
  | serviceUrl (configured : String)
  deriving DecidableEq, Repr

namespace LimitFault

def message : LimitFault → String
  | fileCount n =>
      s!"Invalid theme_file_count: {n.toNat} " ++
        s!"(min: {minFileCount.toNat}, max: {maxFileCount.toNat})"
  | timeout n => s!"Invalid request_timeout_secs: {n.toNat} (limit: {maxTimeout.toNat})"
  | serviceUrl url => s!"Invalid theme_service_url: {url}"

/-- The advice that is shown for the fault. -/
def userMessage : LimitFault → String
  | fileCount n =>
      let range := s!"{minFileCount.toNat} - {maxFileCount.toNat}"
      s!"Theme file count out of range!\n\nYour configured value: {n.toNat}\n" ++
        s!"Valid range: {range}\n\nPlease update theme_file_count in config.toml " ++
        s!"to a value between {minFileCount.toNat} and {maxFileCount.toNat}."
  | timeout n =>
      s!"Request timeout too high!\n\nYour configured value: {n.toNat} seconds\n" ++
        s!"Recommended maximum: {maxTimeout.toNat} seconds\n\n" ++
        "Please update request_timeout_secs in config.toml, or remove it to wait indefinitely."
  | serviceUrl url =>
      s!"Theme service URL is not usable!\n\nYour configured value: '{url}'\n\n" ++
        "Please set theme_service_url in config.toml to an http:// or https:// address."

end LimitFault

/-- Whether a text begins as a web address does. -/
def isWebAddress (url : String) : Bool :=
  "http://".toList.isPrefixOf url.toList || "https://".toList.isPrefixOf url.toList

/-- The values beyond their limits. -/
def limitFaults (c : Config) : List LimitFault :=
  (if c.fileCount < minFileCount || maxFileCount < c.fileCount then [.fileCount c.fileCount]
    else []) ++
  (match c.timeout? with
    | some n => if n = 0 || maxTimeout < n then [.timeout n] else []
    | none => []) ++
  (if isWebAddress c.serviceUrl then [] else [.serviceUrl c.serviceUrl])

/-! ## As a JSON document -/

/-- The part of the log. -/
def logLayout : Json.Layout LogConfig where
  title := "struct LoggingConfig"
  fields :=
    [.of "level" (Json.optional Json.text) (fun v c => { c with level? := v }) false true,
     .of "file" (Json.optional Json.text) (fun v c => { c with file? := v }) false true]

/-- The configuration as a record. -/
def layout : Json.Layout Config where
  title := "struct AppConfig"
  fields :=
    [.of "theme_service_url" (Json.optional Json.text)
       (fun v c => { c with serviceUrl? := v }) false true,
     .of "theme_file_count" (Json.optional (Json.natural (UInt8.size - 1) "u8"))
       (fun v c => { c with fileCount? := v.map Nat.toUInt8 }) false true,
     .of "request_timeout_secs" (Json.optional (Json.natural (UInt64.size - 1) "u64"))
       (fun v c => { c with timeout? := v.map Nat.toUInt64 }) false true,
     .of "storage_dir" (Json.optional Json.text) (fun v c => { c with storage? := v }) false true,
     .of "logging" (logLayout.read ⟨none, none⟩) (fun v c => { c with log := v }) false false]

/-- The configuration that a JSON text holds. -/
def decode (source : String) : Except Json.Refusal Config :=
  Json.document (layout.read empty) source

end Config

end ThemeEditor
