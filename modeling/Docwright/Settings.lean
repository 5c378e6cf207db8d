import Docwright.Number.Basic
import Docwright.Number.Reading
import Docwright.Text.LetterCase
import Docwright.Text.Quoted

/-!
# Settings

The settings of remote documentation and of logging. They are checked when they are made, and can
be read from environment variables.
-/

namespace Docwright

/-- The settings of a run. -/
structure Settings where
  /-- is the remote service to be asked? -/
  remoteEnabled : Bool := false
  /-- the key of the remote service -/
  apiKey : Option String := none
  /-- the address of the remote service -/
  apiUrl : String := "https://api.openai.com/v1/chat/completions"
  /-- the model that is asked -/
  model : String := "gpt-4o-mini"
  /-- how freely the model answers -/
  temperature : Number := .binary (.ofDecimal false 3 (-1))
  /-- the seconds that a request may take -/
  timeout : Number := .binary (.ofDecimal false 300 (-1))
  /-- the least level of messages that are logged -/
  logLevel : String := "INFO"
  deriving DecidableEq, Repr

/-- What can be wrong with settings. -/
inductive SettingsError where
  /-- the timeout is zero or below -/
  | timeout (given : Number)
  /-- the temperature is out of its range -/
  | temperature (given : Number)
  /-- there is no such log level -/
  | logLevel (given : String)
  /-- an environment variable holds no number -/
  | notANumber (key given : String)
  deriving DecidableEq, Repr

/-- The wording of a settings error. -/
def SettingsError.message : SettingsError → String
  | .timeout given => "timeout must be positive, got " ++ given.text
  | .temperature given => "temperature must be between 0 and 2, got " ++ given.text
  | .logLevel given => "Unknown log level: " ++ given
  | .notANumber key given => key ++ " must be a number, got " ++ Text.quoted given

namespace Settings

/-- The log levels. -/
def logLevels : List String :=
  ["DEBUG", "INFO", "WARNING", "ERROR", "CRITICAL"]

/-- A string in upper case. -/
def upperText (s : String) : String :=
  String.ofList (Text.upper s.toList)

/-- The settings, if they pass the checks. The first check that fails is reported. -/
def check (s : Settings) : Except SettingsError Settings :=
  if s.timeout.atMost 0 then .error (.timeout s.timeout)
  else if !(s.temperature.atLeast 0 && s.temperature.atMost 2) then
    .error (.temperature s.temperature)
  else if !logLevels.contains (upperText s.logLevel) then .error (.logLevel s.logLevel)
  else .ok s

/-- Is remote documentation switched on, with a key to use? -/
def remoteReady (s : Settings) : Bool :=
  s.remoteEnabled && s.apiKey.any (!·.isEmpty)

/-! ## Environment variables -/

/-- Environment variables with their values. -/
abbrev Environment := List (String × String)

/-- The variables that settings are read from. -/
def variableNames : List String :=
  ["FUNCDOC_REMOTE", "FUNCDOC_API_KEY", "OPENAI_API_KEY", "FUNCDOC_API_URL", "FUNCDOC_MODEL",
   "FUNCDOC_TEMPERATURE", "FUNCDOC_TIMEOUT", "FUNCDOC_LOG_LEVEL"]

/-- A variable that is set to something. -/
def given? (env : Environment) (key : String) : Option String :=
  (env.lookup key).filter (!·.isEmpty)

/-- Is the variable set to one of the words for yes? -/
def switchedOn (env : Environment) (key : String) : Bool :=
  let value := String.ofList (Text.lower ((env.lookup key).getD "").toList)
  ["1", "true", "yes", "on"].contains value

/-- The number that a variable is set to. A blank variable counts as not set. -/
def number (env : Environment) (key : String) (default : Number) : Except SettingsError Number :=
  match env.lookup key with
  | none => .ok default
  | some value =>
    if Text.allBlank value.toList then .ok default
    else
      match Number.binary? value.toList with
      | some x => .ok (.binary x)
      | none => .error (.notANumber key value)

/-- The settings that the environment asks for. -/
def ofEnvironment (env : Environment) : Except SettingsError Settings := do
  let defaults : Settings := {}
  let temperature ← number env "FUNCDOC_TEMPERATURE" defaults.temperature
  let timeout ← number env "FUNCDOC_TIMEOUT" defaults.timeout
  check
    { remoteEnabled := switchedOn env "FUNCDOC_REMOTE"
      apiKey := (given? env "FUNCDOC_API_KEY").or (given? env "OPENAI_API_KEY")
      apiUrl := (given? env "FUNCDOC_API_URL").getD defaults.apiUrl
      model := (given? env "FUNCDOC_MODEL").getD defaults.model
      temperature, timeout
      logLevel := upperText ((given? env "FUNCDOC_LOG_LEVEL").getD defaults.logLevel) }

end Settings

end Docwright
