import AlertPolicy.Environment
import AlertPolicy.Log
import AlertPolicy.Store.Connection
import AlertPolicy.Text.UpperCase
import AlertPolicy.Time.Duration

/-!
Settings from the environment. Under a profile, each key is first looked up with the name of the
profile before it, and a value found there counts even if it cannot be used; a value that cannot be
used gives the default of its key.
-/

namespace AlertPolicy

open AlertPolicy.Number Store Time

/-! ### Report formats -/

inductive ReportFormat where
  | text
  | json
  deriving DecidableEq, Repr

namespace ReportFormat

def name : ReportFormat → String
  | text => "text"
  | json => "json"

/-- The text without blanks around it and with its ASCII letters in lower case. -/
def normalized (s : String) : String := String.ofList ((Text.trim s).toList.map Char.toLower)

/-- The format of a name in any case; the error is the name that was not understood. -/
def parse (s : String) : Except String ReportFormat :=
  match normalized s with
  | "text" => .ok text
  | "json" => .ok json
  | other => .error other

def unknownMessage (other : String) : String :=
  "Invalid config value for report_format: unknown format '" ++ other ++
    "', expected text or json"

end ReportFormat

/-! ### Keys -/

inductive SettingKey where
  | policyFile
  | tick
  | reportFormat
  | host
  | tcpPort
  | password
  | database
  | window
  | root
  | plugin
  | kind
  deriving DecidableEq, Repr

namespace SettingKey

def name : SettingKey → String
  | policyFile => "POLICY_FILE"
  | tick => "POLICY_TICK"
  | reportFormat => "POLICY_REPORT_FORMAT"
  | host => "REDIS_HOST"
  | tcpPort => "REDIS_PORT"
  | password => "REDIS_PASSWORD"
  | database => "REDIS_DB"
  | window => "SAMPLE_WINDOW_SECS"
  | root => "COLLECTD_PREFIX"
  | plugin => "COLLECTD_PLUGIN"
  | kind => "COLLECTD_TYPE"

/-- The variable of a key under a profile. -/
def profiledName (profile : String) (k : SettingKey) : String := profile ++ "_" ++ k.name

/-- The value of a key under a profile, or without one if the profile is empty. -/
def lookup? (env : Environment) (profile : String) (k : SettingKey) : Option String :=
  if profile.isEmpty then env.value? k.name
  else (env.value? (k.profiledName profile)).or (env.value? k.name)

end SettingKey

/-! ### Settings -/

structure Settings where
  /-- The active profile in upper case, empty if there is none. -/
  profile : String
  policyFile : String
  tick : Duration
  format : ReportFormat
  server : ServerSettings
  deriving DecidableEq

namespace Settings

def tickOf (raw : Option String) : Duration :=
  match raw with
  | none => .oneSecond
  | some s => (Duration.parse? s).getD .oneSecond

def tickEvents (raw : Option String) : List LogEvent :=
  match raw with
  | none => []
  | some s =>
      if (Duration.parse? s).isSome then []
      else [⟨.warn, "invalid POLICY_TICK, using default", [("value", s)]⟩]

def formatOf (raw : Option String) : ReportFormat :=
  match raw with
  | none => .text
  | some s => (ReportFormat.parse s).toOption.getD .text

def formatEvents (raw : Option String) : List LogEvent :=
  match raw with
  | none => []
  | some s =>
      match ReportFormat.parse s with
      | .ok _ => []
      | .error other =>
          [⟨.warn, "invalid POLICY_REPORT_FORMAT, using text",
            [("error", ReportFormat.unknownMessage other)]⟩]

/-- A number of 16 bits; one that cannot be used gives the default. -/
def word16 (absent : UInt16) (raw : Option String) : UInt16 :=
  ((raw.bind (readNatural (UInt16.size - 1))).map UInt16.ofNat).getD absent

def word64 (absent : UInt64) (raw : Option String) : UInt64 :=
  ((raw.bind (readNatural (UInt64.size - 1))).map UInt64.ofNat).getD absent

/-- The settings of what each key gives. -/
def ofValues (profile : String) (value : SettingKey → Option String) : Settings :=
  let default := ServerSettings.default
  { profile
    policyFile := (value .policyFile).getD "policy.yaml"
    tick := tickOf (value .tick)
    format := formatOf (value .reportFormat)
    server := {
      host := (value .host).getD default.host
      tcpPort := word16 default.tcpPort (value .tcpPort)
      password := value .password
      database := word16 default.database (value .database)
      window := word64 default.window (value .window)
      layout := {
        root := (value .root).getD default.layout.root
        plugin := (value .plugin).getD default.layout.plugin
        kind := (value .kind).getD default.layout.kind } } }

/-- The settings under a profile, which is looked up in upper case. -/
def forProfile (env : Environment) (profile : String) : Settings :=
  let p := Text.upper profile
  ofValues p (SettingKey.lookup? env p)

/-- The variable that names the active profile. -/
def profileVariable : String := "POLICY_PROFILE"

def activeProfile (env : Environment) : String := (env.text? profileVariable).getD ""

/-- What is said of values that cannot be used. -/
def readingEvents (env : Environment) (profile : String) : List LogEvent :=
  let value := SettingKey.lookup? env (Text.upper profile)
  tickEvents (value .tick) ++ formatEvents (value .reportFormat)

def profileLabel (s : Settings) : String := if s.profile.isEmpty then "default" else s.profile

/-- The settings in four lines, of the password only whether there is one. -/
def summaryLines (s : Settings) : List String :=
  let password := if s.server.password.isSome then "(set)" else "(none)"
  ["Config loaded (profile: " ++ s.profileLabel ++ "):",
    "  engine:  policy_file=" ++ s.policyFile ++ ", tick=" ++ s.tick.text ++ ", format=" ++
      s.format.name,
    "  redis:   host=" ++ s.server.host ++ ":" ++ toString s.server.tcpPort ++ ", db=" ++
      toString s.server.database ++ ", password=" ++ password ++ ", window=" ++
      toString s.server.window ++ "s",
    "  collectd: prefix=" ++ s.server.layout.root ++ ", plugin=" ++ s.server.layout.plugin ++
      ", type=" ++ s.server.layout.kind]

def summaryEvents (s : Settings) : List LogEvent :=
  s.summaryLines.map fun line => ⟨.info, line, []⟩

end Settings

end AlertPolicy
