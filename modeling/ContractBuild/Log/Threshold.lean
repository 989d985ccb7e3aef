import ContractBuild.Failure.Basic
import ContractBuild.Log.Record

/-!
# Thresholds

The names by which the least level that the log shows is chosen. A name that is not known counts as
`WARNING`. Two names that belong to the log itself are known but name no level: asking for one of
them is a misuse.
-/

namespace ContractBuild.Log

/-- What a name known to the log stands for. -/
inductive Known where
  /-- The least weight of a record that is shown. -/
  | threshold (weight : Nat)
  /-- A text, where the name of a level would be needed. -/
  | text (s : String)
  /-- Something that is neither a number nor a text, as messages show it. -/
  | other (shown : String)
  deriving DecidableEq, Repr

/-- The names known to the log. -/
def known : List (String × Known) := [
  ("DEBUG", .threshold 10),
  ("INFO", .threshold 20),
  ("WARN", .threshold 30),
  ("WARNING", .threshold 30),
  ("ERROR", .threshold 40),
  ("FATAL", .threshold 50),
  ("CRITICAL", .threshold 50),
  ("NOTSET", .threshold 0),
  ("BASIC_FORMAT", .text "%(levelname)s:%(name)s:%(message)s"),
  ("_STYLES", .other ("\x7b'%': (<class 'logging.PercentStyle'>, "
    ++ "'%(levelname)s:%(name)s:%(message)s'), "
    ++ "'\x7b': (<class 'logging.StrFormatStyle'>, "
    ++ "'\x7blevelname\x7d:\x7bname\x7d:\x7bmessage\x7d'), "
    ++ "'$': (<class 'logging.StringTemplateStyle'>, "
    ++ "'$\x7blevelname\x7d:$\x7bname\x7d:$\x7bmessage\x7d')\x7d"))]

/-- The upper case of a character, as far as a known name can tell: besides the ASCII letters, the
dotless i, the long s and the ligatures of s and t have an ASCII upper case. -/
def upper (c : Char) : List Char :=
  if c = 'ı' then ['I']
  else if c = 'ſ' then ['S']
  else if c = '\ufb05' || c = '\ufb06' then ['S', 'T']
  else [c.toUpper]

/-- The threshold of a level name in any letter case. -/
def threshold (name : String) : Except Misuse Nat :=
  match known.lookup (String.ofList (name.toList.flatMap upper)) with
  | some (.threshold weight) => .ok weight
  | some (.text s) => .error (.unknownLevel s)
  | some (.other shown) => .error (.noLevel shown)
  | none => .ok Level.warning.weight

end ContractBuild.Log
