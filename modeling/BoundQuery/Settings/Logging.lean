import BoundQuery.Settings.Environment

/-!
What the environment asks of the log. Values that are not understood ask for nothing.
-/

set_option autoImplicit false

namespace BoundQuery

inductive LogLevel where
  | trace
  | debug
  | info
  | warn
  | error
deriving DecidableEq

def LogLevel.text : LogLevel → String
  | .trace => "trace"
  | .debug => "debug"
  | .info => "info"
  | .warn => "warn"
  | .error => "error"

inductive LogFormat where
  | json
  | pretty
  | compact
deriving DecidableEq

def LogFormat.text : LogFormat → String
  | .json => "json"
  | .pretty => "pretty"
  | .compact => "compact"

structure LogSettings where
  debug : Bool
  level : Option LogLevel
  format : LogFormat

namespace LogSettings

/-- Letter case does not matter, white space does. -/
def read (environment : Environment) : LogSettings :=
  let lowered := fun (name : String) => (environment name).map Text.lower
  { debug := (lowered "QUARRY_DEBUG").any (fun held => ["true", "1", "yes"].contains held)
    level :=
      (lowered "QUARRY_LOG_LEVEL").bind (fun held =>
        [LogLevel.trace, .debug, .info, .warn, .error].find? (fun level => level.text == held))
    format :=
      ((lowered "QUARRY_LOG_FORMAT").bind (fun held =>
        [LogFormat.pretty, .compact].find? (fun format => format.text == held))).getD .json }

def effectiveLevel (settings : LogSettings) : LogLevel :=
  settings.level.getD (if settings.debug then .debug else .warn)

def isRequested (settings : LogSettings) : Bool :=
  settings.debug || settings.level.isSome

end LogSettings

end BoundQuery
