import Mime.Text.Lower
import Mime.Settings.Integer

/-! Settings of the library, their defaults, and how environment variables override them. -/

namespace Mime

structure Settings where
  logLevel : Text := "INFO"
  logJson : Bool := true
  /-- The line width for folding header values. -/
  headerFoldWidth : Int := 76
  /-- Parts that are nested deeper are not descended into. -/
  maxPartDepth : Int := 64
  /-- The charset of text that declares none. -/
  defaultCharset : Text := "us-ascii"
  /-- How much of a quoted-printable body is read at a time. -/
  qpReadChunkSize : Int := 8192

namespace Settings

inductive Key where
  | logLevel
  | logJson
  | headerFoldWidth
  | maxPartDepth
  | defaultCharset
  | qpReadChunkSize
  deriving DecidableEq

def Key.all : List Key :=
  [logLevel, logJson, headerFoldWidth, maxPartDepth, defaultCharset, qpReadChunkSize]

def Key.name : Key → Text
  | logLevel => "log_level"
  | logJson => "log_json"
  | headerFoldWidth => "header_fold_width"
  | maxPartDepth => "max_part_depth"
  | defaultCharset => "default_charset"
  | qpReadChunkSize => "qp_read_chunk_size"

/-- What a setting's text fails to be. -/
inductive Fault where
  | notBool
  | notInt (f : Integer.Fault)
  /-- It has a surrogate where a truth value or a number is needed. -/
  | notUnicode
  deriving DecidableEq

def Fault.code : Fault → Text
  | notBool => "bool_parsing"
  | notInt .malformed => "int_parsing"
  | notInt .tooLong => "int_parsing_size"
  | notUnicode => "string_unicode"

def bool? (t : Text) : Option Bool :=
  let t := t.lower
  if (["true", "1", "yes", "on", "y", "t"] : List Text).contains t then some true
  else if (["false", "0", "no", "off", "n", "f"] : List Text).contains t then some false
  else none

def assign (s : Settings) (k : Key) (t : Text) : Except Fault Settings :=
  let number (f : Int → Settings) : Except Fault Settings :=
    if t.any CodePoint.isSurrogate then .error .notUnicode
    else match Integer.ofText t with
      | .ok n => .ok (f n)
      | .error e => .error (.notInt e)
  match k with
  | .logLevel => .ok { s with logLevel := t }
  | .logJson =>
    if t.any CodePoint.isSurrogate then .error .notUnicode
    else match bool? t with
      | some b => .ok { s with logJson := b }
      | none => .error .notBool
  | .headerFoldWidth => number fun n => { s with headerFoldWidth := n }
  | .maxPartDepth => number fun n => { s with maxPartDepth := n }
  | .defaultCharset => .ok { s with defaultCharset := t }
  | .qpReadChunkSize => number fun n => { s with qpReadChunkSize := n }

def variableStart : Text := "mime_utility_"

/-- The value of the variable for a setting. Names are compared without regard to case, and
of several spellings the last counts. -/
def override? (env : List (Text × Text)) (k : Key) : Option Text :=
  (env.reverse.find? fun v => v.1.lower == variableStart ++ k.name).map (·.2)

/-- The settings under an environment, or all settings that could not be read. -/
def ofEnvironment (env : List (Text × Text)) : Except (List (Key × Fault)) Settings :=
  let (s, faults) := Key.all.foldl
    (fun (s, faults) k =>
      match override? env k with
      | none => (s, faults)
      | some t => match assign s k t with
        | .ok s' => (s', faults)
        | .error f => (s, faults ++ [(k, f)]))
    (({} : Settings), ([] : List (Key × Fault)))
  if faults = [] then .ok s else .error faults

end Settings

end Mime
