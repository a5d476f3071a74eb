/-! Records of what the program does, each of a level. -/

namespace Rerun

inductive LogLevel
  | trace
  | debug
  | info
  | warn
deriving DecidableEq, Repr

def LogLevel.name : LogLevel → String
  | trace => "TRACE"
  | debug => "DEBUG"
  | info => "INFO"
  | warn => "WARN"

structure LogRecord where
  level : LogLevel
  text : String
deriving DecidableEq, Repr

def LogRecord.line (r : LogRecord) : String := s!"{r.level.name} {r.text}"

end Rerun
