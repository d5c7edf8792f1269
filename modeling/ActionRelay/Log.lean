import ActionRelay.Event
/-!
# Logs

The log of a run, which goes to the error output. A record of a log is
shown on one line, unless a plain value in it has line breaks of its own.
-/

namespace ActionRelay

/-- A record of a log. -/
structure LogRecord where
  level : Level
  message : String
  fields : List (String × LogValue)
deriving DecidableEq

/-- An event as a record. -/
def Event.logRecord (event : Event) : LogRecord :=
  ⟨event.level, event.message, event.fields⟩

/-- A character as it stands between the quotes of a name. -/
def escapeNameChar (c : Char) : String :=
  match c with
  | '"' => "\\\""
  | '\\' => "\\\\"
  | '\n' => "\\n"
  | '\r' => "\\r"
  | '\t' => "\\t"
  | c => c.toString

/-- A value as it is shown: a name between quotes, without line breaks. -/
def LogValue.shown : LogValue → String
  | name text => "\"" ++ String.join (text.toList.map escapeNameChar) ++ "\""
  | plain text => text

namespace LogRecord

/-- A file is about to be read. -/
def loading (what path : String) : LogRecord :=
  ⟨.debug, "loading " ++ what, [("path", .plain path)]⟩

/-- Whether a record is shown; small steps never are, and the steps of a pass
only if `verbose`. -/
def isShown (verbose : Bool) (record : LogRecord) : Bool :=
  match record.level with
  | .trace => false
  | .debug => verbose
  | .warn => true

/-- The text of a record. -/
def text (record : LogRecord) : String :=
  record.level.word ++ " " ++ record.message ++
    String.join (record.fields.map fun (key, value) => " " ++ key ++ "=" ++ value.shown)

end LogRecord

end ActionRelay
