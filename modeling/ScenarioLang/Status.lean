import ScenarioLang.PathMap

namespace ScenarioLang

-- How far the compilation of a file went: claimed, in the specification with
-- imports open, settled, or given up.
inductive FileStatus where
  | pending | compiled | done | failed
  deriving DecidableEq, Repr

namespace FileStatus

def all : List FileStatus := [pending, compiled, done, failed]

def code : FileStatus → String
  | pending => "pending"
  | compiled => "compiled"
  | done => "done"
  | failed => "failed"

def canAdvance : FileStatus → FileStatus → Bool
  | pending,compiled | pending,done | pending,failed => true
  | compiled,done | compiled,failed => true
  | _,_ => false

def isTerminal : FileStatus → Bool
  | done | failed => true
  | _ => false

end FileStatus

abbrev StatusTable := PathMap FileStatus

namespace StatusTable

def claim (path : Path) (table : StatusTable) : Bool × StatusTable :=
  if PathMap.holds path table then (false,table) else (true,PathMap.put path .pending table)

def advance (path : Path) (status : FileStatus) (table : StatusTable) : Bool × StatusTable :=
  match PathMap.get? path table with
  | some current =>
    if current.canAdvance status then (true,PathMap.put path status table) else (false,table)
  | none => (false,table)

end StatusTable
end ScenarioLang
