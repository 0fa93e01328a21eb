import IndexExplorer.Problem
import IndexExplorer.Text.Case

/-!
The levels of the log. The loggers of the transport are kept quiet: they never log below warnings.
-/
namespace IndexExplorer

/-- The named levels. -/
def LogLevel.named : List (String × Nat) := [
  ("CRITICAL", 50), ("FATAL", 50), ("ERROR", 40), ("WARNING", 30), ("WARN", 30), ("INFO", 20),
  ("DEBUG", 10), ("NOTSET", 0)]

/-- The level of informative messages, which names that are not known stand for. -/
def LogLevel.info : Nat := 20

/-- The level of warnings. -/
def LogLevel.warning : Nat := 30

/-- The level of a name in any letter case. Two names are taken by other things of the log, which
are no levels: the form of its lines and the table of its styles. -/
def LogLevel.ofName (name : String) : Result Nat :=
  let name := Text.upper name
  if name = "BASIC_FORMAT" then
    .error (.badValue (.logLevel "'%(levelname)s:%(name)s:%(message)s'"))
  else if name = "_STYLES" then .error .wrongKind
  else .ok ((named.lookup name).getD info)

/-- What is logged: from the root's level on, and by the transport's loggers from theirs on. -/
structure Log where
  root : Nat := LogLevel.warning
  transport : Nat := 0
  handlers : Nat := 0
deriving DecidableEq, Repr

namespace Log

/-- The log set to a level; the one handler is made the first time and kept. -/
def atLevel (log : Log) (level : Nat) : Log :=
  ⟨level, max level LogLevel.warning, max log.handlers 1⟩

/-- The log set to the level of a name, given as any value; nothing given stands for the default
name. -/
def setup (default : String) (log : Log) (level : Json) : Result Log := do
  let name ← match level with
    | .str s => .ok (if s.isEmpty then default else s)
    | v => if v.given then .error .noSuchPart else .ok default
  return log.atLevel (← LogLevel.ofName name)

end Log

end IndexExplorer
