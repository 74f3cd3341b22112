import TaskBuilders.Log.Record
import TaskBuilders.Text.Affix
import TaskBuilders.Text.Blank
import TaskBuilders.Text.Letter
import TaskBuilders.Text.Quoted

/-!
# Log lines

A record is one line: its level, the name of the program, the message and the fields. A value with
several lines is set out below its key.
-/

namespace TaskBuilders.Log

/-- The name before every message. -/
def programName : String := "taskdsl"

/-- The word of a level at the beginning of a line. -/
def levelWord : LogLevel → String
  | .debug => "DEBU"
  | .info => "INFO"
  | .warn => "WARN"
  | .error => "ERRO"

/-- The place of a level in the order of importance. -/
def rank : LogLevel → Nat
  | .debug => 0
  | .info => 1
  | .warn => 2
  | .error => 3

/-- The least important level that is written; nothing stands for none at all. -/
abbrev Threshold := Option LogLevel

/-- Whether records of a level are written. -/
def Threshold.admits (t : Threshold) (level : LogLevel) : Bool := t.any fun low => rank low ≤ rank level

/-- The threshold of a name, in any case of letters. The empty name stands for `info`. -/
def Threshold.ofName (name : String) : Except String Threshold :=
  match Text.lowercase name with
  | "" => .ok (some .info)
  | "debug" => .ok (some .debug)
  | "info" => .ok (some .info)
  | "warn" => .ok (some .warn)
  | "error" => .ok (some .error)
  | "fatal" => .ok none
  | _ =>
    .error ("invalid log level " ++ Text.quote name ++ ": invalid level: " ++ Text.quote name)

/-! ## Values -/

/-- Whether a value has to be quoted. -/
def needsQuotes (s : String) : Bool :=
  s.toList.any fun c => c == '"' || c == '=' || Text.isBlank c || !Text.isPrintable c

/-- The escape of a character that is not printable. -/
def escape (c : Char) : String :=
  match Text.Quoted.letterEscape? c with
  | some l => String.ofList ['\\', l]
  | none =>
    let n := c.toNat
    String.ofList ('\\' ::
      (if n < 0x20 then 'x' :: Text.hexDigits n 2
       else if n < 0x10000 then 'u' :: Text.hexDigits n 4
       else 'U' :: Text.hexDigits n 8))

/-- A text with its unprintable characters escaped, and its quotes as well if `quotes`. -/
def escapeText (quotes : Bool) (s : String) : String :=
  String.join (s.toList.map fun c =>
    if quotes && c == '"' then "\\\"" else if Text.isPrintable c then String.singleton c else escape c)

/-- Writes tabs as blanks. -/
def expandTabs (s : String) : String :=
  String.join (s.toList.map fun c => if c == '\t' then "    " else String.singleton c)

/-- The lines of a value below its key; the last one is ended if more fields follow. -/
def indented (more : Bool) : List String → String
  | [] => ""
  | [last] => if last = "" then "" else "  │ " ++ escapeText false last ++ (if more then "\n" else "")
  | line :: rest => "  │ " ++ escapeText false line ++ "\n" ++ indented more rest

/-- A field with what separates it from the text before. Some keys belong to the line itself. -/
def field (key value : String) (more : Bool) : String :=
  match key with
  | "" | "time" | "level" => ""
  | "caller" => " <" ++ expandTabs value ++ ">"
  | "prefix" => " " ++ expandTabs value ++ ":"
  | "msg" => " " ++ expandTabs value
  | _ =>
    if value = "" then " " ++ key ++ "=\"\""
    else if value.toList.contains '\n' then
      "\n  " ++ key ++ "=\n" ++ indented more (Text.splitAtChar '\n' value)
    else if needsQuotes value then " " ++ key ++ "=\"" ++ escapeText true value ++ "\""
    else " " ++ key ++ "=" ++ value

/-- The fields of a line. -/
def fields : List (String × String) → String
  | [] => ""
  | (k, v) :: rest => field k v (!rest.isEmpty) ++ fields rest

/-- A line with its fields. An empty message leaves no trace. -/
def line (level : LogLevel) (message : String) (kvs : List (String × String)) : String :=
  levelWord level ++ " " ++ programName ++ ":" ++
    (if message = "" then "" else " " ++ expandTabs message) ++ fields kvs ++ "\n"

/-- The line of a record. -/
def recordLine (r : LogRecord) : String :=
  line r.level r.message (r.fields.map fun (k, v) => (k, v.render))

/-- Keys and values that alternate in a list; a last key without a value is told so. -/
def pairUp : List String → List (String × String)
  | [] => []
  | [k] => [(k, "missing value")]
  | k :: v :: rest => (k, v) :: pairUp rest

end TaskBuilders.Log
