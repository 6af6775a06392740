/-! # How urgent a log line is -/

namespace BookFinder

inductive LogLevel where
  | trace
  | debug
  | info
  | warn
  | error
deriving DecidableEq, Repr

namespace LogLevel

def word : LogLevel → String
  | trace => "trace"
  | debug => "debug"
  | info => "info"
  | warn => "warn"
  | error => "error"

def name : LogLevel → String
  | trace => "TRACE"
  | debug => "DEBUG"
  | info => "INFO"
  | warn => "WARN"
  | error => "ERROR"

/-- Five levels from the most urgent one, 1, to the least urgent one. -/
def rank : LogLevel → Nat
  | trace => 5
  | debug => 4
  | info => 3
  | warn => 2
  | error => 1

/-- The level that a word stands for, in any case. -/
def ofWord (cs : List Char) : Option LogLevel :=
  [trace, debug, info, warn, error].find? fun level => level.word.toList == cs.map Char.toLower

end LogLevel

end BookFinder
