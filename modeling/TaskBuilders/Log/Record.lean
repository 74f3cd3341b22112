/-!
# Log records
-/

namespace TaskBuilders

/-- How important a record is. -/
inductive LogLevel where
  | debug
  | info
  | warn
  | error
deriving Repr, DecidableEq

/-- A value of a record. -/
inductive LogValue where
  | text (s : String)
  | count (n : Nat)
deriving Repr, DecidableEq

/-- A message with named values. -/
structure LogRecord where
  level : LogLevel
  message : String
  fields : List (String × LogValue) := []
deriving Repr, DecidableEq

namespace LogRecord

/-- A record whose values are texts. -/
def ofTexts (level : LogLevel) (message : String) (fields : List (String × String)) : LogRecord :=
  ⟨level, message, fields.map fun f => (f.1, .text f.2)⟩

/-- A record for debugging whose values are texts. -/
def debug (message : String) (fields : List (String × String)) : LogRecord :=
  ofTexts .debug message fields

/-- A warning whose values are texts. -/
def warn (message : String) (fields : List (String × String)) : LogRecord :=
  ofTexts .warn message fields

end LogRecord

/-- The text of a value. -/
def LogValue.render : LogValue → String
  | .text s => s
  | .count n => toString n

end TaskBuilders
