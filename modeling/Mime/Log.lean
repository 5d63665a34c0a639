import Mime.Event
import Mime.Text.Lower
import Mime.Text.Upper
import Mime.Text.Printable

/-! Log lines. Every call at or above a threshold becomes one line of JSON: the fields of the
call, then the event, then the level. -/

namespace Mime.Log

def severity : Level → Nat
  | .debug => 10
  | .info => 20
  | .warning => 30
  | .error => 40
  | .critical => 50

def levelName : Level → Text
  | .debug => "debug"
  | .info => "info"
  | .warning => "warning"
  | .error => "error"
  | .critical => "critical"

/-- The severities that can be named as a threshold. -/
def thresholds : List (Text × Nat) := [
  ("NOTSET", 0), ("DEBUG", 10), ("INFO", 20), ("WARN", 30), ("WARNING", 30), ("ERROR", 40),
  ("CRITICAL", 50), ("FATAL", 50)]

/-- The threshold whose name is `name` in capitals; none if there is no such name. -/
def threshold? (name : Text) : Option Nat :=
  (thresholds.find? (·.1 == name.upper)).map (·.2)

/-- A text between quotes, which are double only if there are single ones inside and no double
ones. Characters that are not printable are escaped. -/
def quoted (t : Text) : Text :=
  let quote : CodePoint := if t.contains '\'' && !t.contains '"' then '"' else '\''
  let char (c : CodePoint) : Text :=
    if c = quote ∨ c = '\\' then ['\\', c]
    else if c = '\n' then "\\n" else if c = '\r' then "\\r" else if c = '\t' then "\\t"
    else if c.isPrintable then [c] else c.escape
  [quote] ++ t.flatMap char ++ [quote]

/-- What is said of an unknown threshold. The name is in small letters, which are taken from
its capitals, so that letters that share a capital are no longer told apart. -/
def unknownThreshold (name : Text) : Text := quoted ("LEVEL " ++ name.upper : Text).lower

structure Call where
  level : Level
  event : Text
  fields : List (Text × Json)

/-- Gives a key its value, at the place that it has already, or else at the end. -/
def put (key : Text) (v : Json) (fs : List (Text × Json)) : List (Text × Json) :=
  if fs.any (·.1 == key) then fs.map fun f => if f.1 == key then (key, v) else f
  else fs ++ [(key, v)]

/-- The names that the logger keeps for itself; a field of such a name is not written. -/
def reserved : List Text := ["timestamp", "stack_info"]

def Call.record (c : Call) : List (Text × Json) :=
  let fs := (c.fields.filter fun f => !reserved.contains f.1).foldl (fun fs f => put f.1 f.2 fs) []
  put "level" (.str (levelName c.level)) (put "event" (.str c.event) fs)

def lines (threshold : Nat) (calls : List Call) : List Text :=
  (calls.filter fun c => threshold ≤ severity c.level).map fun c => (Json.obj c.record).render

end Mime.Log
