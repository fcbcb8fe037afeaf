/-!
What a conversion reports while it runs.
-/

namespace DocPress

inductive LogLevel where
  | debug
  | info
  | warning
  | error
  deriving DecidableEq, Repr

namespace LogLevel

def name : LogLevel → String
  | debug => "DEBUG"
  | info => "INFO"
  | warning => "WARNING"
  | error => "ERROR"

def rank : LogLevel → Nat
  | debug => 0
  | info => 1
  | warning => 2
  | error => 3

end LogLevel

structure LogRecord where
  level : LogLevel
  message : String
  deriving DecidableEq, Repr

namespace LogRecord

def debug (message : String) : LogRecord := ⟨.debug,message⟩

def info (message : String) : LogRecord := ⟨.info,message⟩

def warning (message : String) : LogRecord := ⟨.warning,message⟩

def error (message : String) : LogRecord := ⟨.error,message⟩

def line (r : LogRecord) : String :=
  r.level.name ++ String.ofList (List.replicate (8 - r.level.name.length) ' ') ++ " | " ++ r.message

end LogRecord

end DocPress
