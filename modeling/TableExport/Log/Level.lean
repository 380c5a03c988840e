import TableExport.Text.Case

/-!
Levels of messages and the threshold below which messages are dropped. The
threshold is read from a name in any case; a name that is unknown means the
usual level, and two names belong to something that is no level.
-/

set_option autoImplicit false

namespace TableExport.Log

open TableExport.Text

inductive Level where
  | debug
  | info
  | warning
  | error
deriving DecidableEq, Repr

def Level.weight : Level → Nat
  | .debug => 10
  | .info => 20
  | .warning => 30
  | .error => 40

def Level.label : Level → String
  | .debug => "DEBUG"
  | .info => "INFO"
  | .warning => "WARNING"
  | .error => "ERROR"

inductive LevelFault where
  | formatText
  | styleTable
deriving DecidableEq, Repr

def LevelFault.message : LevelFault → String
  | .formatText => "Unknown level: '%(levelname)s:%(name)s:%(message)s'"
  | .styleTable =>
      "Level not an integer or a valid string: " ++
        "\x7b'%': (<class 'logging.PercentStyle'>, '%(levelname)s:%(name)s:%(message)s'), " ++
        "'\x7b': (<class 'logging.StrFormatStyle'>, " ++
        "'\x7blevelname\x7d:\x7bname\x7d:\x7bmessage\x7d'), " ++
        "'$': (<class 'logging.StringTemplateStyle'>, " ++
        "'$\x7blevelname\x7d:$\x7bname\x7d:$\x7bmessage\x7d')\x7d"

def namedWeight (name : String) : Except LevelFault Nat :=
  match raisedToAscii name with
  | "CRITICAL" => .ok 50
  | "FATAL" => .ok 50
  | "ERROR" => .ok 40
  | "WARNING" => .ok 30
  | "WARN" => .ok 30
  | "INFO" => .ok 20
  | "DEBUG" => .ok 10
  | "NOTSET" => .ok 0
  | "BASIC_FORMAT" => .error .formatText
  | "_STYLES" => .error .styleTable
  | _ => .ok 20

/-- The least weight that is kept under a named weight; none at all means warnings. -/
def thresholdOf (weight : Nat) : Nat :=
  if weight = 0 then Level.warning.weight else weight

end TableExport.Log
