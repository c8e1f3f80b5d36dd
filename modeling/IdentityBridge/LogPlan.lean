import IdentityBridge.Datum
import IdentityBridge.Table
import IdentityBridge.Text.Case

/-! The plan for logging: level and line format chosen by an environment, and the configuration of
handlers and loggers that follows from them. The trace of the authentication modules stays muted
unless it is asked for or everything is logged. -/

namespace IdentityBridge.LogPlan

inductive Level where
  | debug
  | info
  | warning
  | error
  | critical
deriving DecidableEq, Repr

def Level.name : Level → String
  | debug => "DEBUG"
  | info => "INFO"
  | warning => "WARNING"
  | error => "ERROR"
  | critical => "CRITICAL"

/-- The words that choose a level: the names of the levels and the modes of verbosity. -/
def levelWords : List (String × Level) := [
  ("DEBUG", .debug), ("INFO", .info), ("WARNING", .warning), ("ERROR", .error),
  ("CRITICAL", .critical), ("QUIET", .error), ("NORMAL", .warning), ("VERBOSE", .info)]

/-- The level that an environment asks for, by verbosity or else by level; warnings when the word
is unknown or missing. -/
def level (environment : Table String String) : Level :=
  let word := match environment.find? "LOG_VERBOSITY" with
    | some word => word
    | none => (environment.find? "LOG_LEVEL").getD "NORMAL"
  (levelWords.lookup (Text.upper word)).getD .warning

def simpleFormat : String := "%(asctime)s - %(levelname)s - %(message)s"

/-- The formats of a log line, by name. -/
def formats : List (String × String) := [
  ("simple", simpleFormat),
  ("detailed", "%(asctime)s - %(name)s - %(levelname)s - [%(filename)s:%(lineno)d] - %(message)s"),
  ("json", "\x7b\"time\":\"%(asctime)s\",\"level\":\"%(levelname)s\",\"module\":\"%(name)s\",\"message\":\"%(message)s\"\x7d")]

/-- The line format that an environment asks for, the simple one when the name is unknown. -/
def format (environment : Table String String) : String :=
  (formats.lookup (Text.lower ((environment.find? "LOG_FORMAT").getD "simple"))).getD simpleFormat

/-- Whether the trace of the authentication modules is asked for. -/
def traces (environment : Table String String) : Bool :=
  Text.lower ((environment.find? "ENABLE_AUTH_LOGGING").getD "false") = "true"

/-- The modules whose trace is muted unless asked for. -/
def tracedModules : List String := ["trusted_auth.features.auth", "trusted_auth.features.users"]

/-- The modules that only report errors. -/
def quietModules : List String := ["httpx", "httpcore"]

/-- The whole configuration. -/
def configuration (environment : Table String String) : Datum :=
  let level := level environment
  let traced : Level := if traces environment || level = .debug then .debug else .warning
  let quiet : Datum := .record [
    ("level", .text Level.error.name), ("handlers", .list [.text "console"]),
    ("propagate", .truth false)]
  .record [
    ("version", .whole 1),
    ("disable_existing_loggers", .truth false),
    ("formatters", .record [("default", .record [
      ("format", .text (format environment)), ("datefmt", .text "%Y-%m-%d %H:%M:%S")])]),
    ("handlers", .record [("console", .record [
      ("class", .text "logging.StreamHandler"), ("level", .text level.name),
      ("formatter", .text "default"), ("stream", .text "ext://sys.stdout")])]),
    ("root", .record [("level", .text level.name), ("handlers", .list [.text "console"])]),
    ("loggers", .record (quietModules.map (fun m => (m, quiet)) ++
      tracedModules.map fun m => (m, .record [("level", .text traced.name)])))]

end IdentityBridge.LogPlan
