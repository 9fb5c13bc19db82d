import InterfacePlan.Log.Basic

set_option autoImplicit false

namespace InterfacePlan.Log

/-- The capital of a letter as far as names of levels need it: two letters outside ASCII have ASCII
capitals. -/
def capital (c : Char) : Char :=
  if c = 'ı' then 'I' else if c = 'ſ' then 'S' else c.toUpper

def capitals (s : String) : String :=
  String.ofList (s.toList.map capital)

def levelNumbers : List (String × Nat) :=
  [("DEBUG", 10), ("INFO", 20), ("WARN", 30), ("WARNING", 30), ("ERROR", 40), ("CRITICAL", 50),
    ("FATAL", 50), ("NOTSET", 0)]

inductive LevelError where
  /-- The name stands for the form of a line. -/
  | format
  /-- The name stands for the table of styles. -/
  | styles
  deriving DecidableEq

def LevelError.message : LevelError → String
  | .format => "Unknown level: '%(levelname)s:%(name)s:%(message)s'"
  | .styles =>
    "Level not an integer or a valid string: \x7b"
      ++ "'%': (<class 'logging.PercentStyle'>, '%(levelname)s:%(name)s:%(message)s'), "
      ++ "'\x7b': (<class 'logging.StrFormatStyle'>, "
      ++ "'\x7blevelname\x7d:\x7bname\x7d:\x7bmessage\x7d'), "
      ++ "'$': (<class 'logging.StringTemplateStyle'>, "
      ++ "'$\x7blevelname\x7d:$\x7bname\x7d:$\x7bmessage\x7d')\x7d"

/-- The number of a level by its name in any case; an unknown name means `INFO`. -/
def levelNumber (name : String) : Except LevelError Nat :=
  match capitals name with
  | "BASIC_FORMAT" => .error .format
  | "_STYLES" => .error .styles
  | name => .ok ((levelNumbers.lookup name).getD 20)

def noisyLoggers : List String :=
  ["httpx", "httpcore", "uvicorn.access"]

structure Setup where
  root : Nat
  json : Bool
  deriving DecidableEq

namespace Setup

def ofLevel (level : String) (json : Bool) : Except LevelError Setup :=
  (levelNumber level).map fun number => ⟨number, json⟩

/-- The level of the loggers that report each request; zero leaves it to the root. -/
def noisy (setup : Setup) : Nat :=
  if Level.debug.number < setup.root then Level.warning.number else 0

def isNoisy (logger : String) : Bool :=
  noisyLoggers.any fun name => name = logger || (name ++ ".").toList.isPrefixOf logger.toList

def threshold (setup : Setup) (logger : String) : Nat :=
  if isNoisy logger && setup.noisy ≠ 0 then setup.noisy else setup.root

end Setup

end InterfacePlan.Log
