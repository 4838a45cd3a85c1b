import ScenarioLang.PathMap
import ScenarioLang.Problem

namespace ScenarioLang

structure FileProblems where
  errors : List Problem
  warnings : List Problem
  deriving DecidableEq, Repr

namespace FileProblems

def none : FileProblems := ⟨[],[]⟩
def isNone (problems : FileProblems) : Bool := problems.errors.isEmpty && problems.warnings.isEmpty

def add (problems more : FileProblems) : FileProblems :=
  ⟨problems.errors ++ more.errors,problems.warnings ++ more.warnings⟩

end FileProblems

-- Problems by file. A file may have an entry without any problem; what is asked
-- about the map does not tell such an entry from none.
structure ProblemMap where
  files : PathMap FileProblems

namespace ProblemMap

def empty : ProblemMap := ⟨[]⟩

def generic : Path := ⟨['*']⟩

def add (path : Path) (problems : FileProblems) (map : ProblemMap) : ProblemMap :=
  ⟨map.files.update path fun old => (old.getD .none).add problems⟩

def addErrors (path : Path) (errors : List Problem) : ProblemMap → ProblemMap := add path ⟨errors,[]⟩
def addWarnings (path : Path) (warnings : List Problem) : ProblemMap → ProblemMap := add path ⟨[],warnings⟩
def addError (path : Path) (error : Problem) : ProblemMap → ProblemMap := addErrors path [error]
def addWarning (path : Path) (warning : Problem) : ProblemMap → ProblemMap := addWarnings path [warning]
def addGenericError (error : Problem) : ProblemMap → ProblemMap := addError generic error

def merge (map more : ProblemMap) : ProblemMap :=
  more.files.foldl (fun map (path,problems) => map.add path problems) map

def get? (path : Path) (map : ProblemMap) : Option FileProblems := map.files.get? path
def errors (path : Path) (map : ProblemMap) : List Problem := ((map.get? path).getD .none).errors
def warnings (path : Path) (map : ProblemMap) : List Problem := ((map.get? path).getD .none).warnings

def hasErrors (map : ProblemMap) : Bool := map.files.any fun entry => !entry.2.errors.isEmpty
def hasErrorsFor (path : Path) (map : ProblemMap) : Bool := !(map.errors path).isEmpty
def errorCount (map : ProblemMap) : Nat := (map.files.flatMap fun entry => entry.2.errors).length
def warningCount (map : ProblemMap) : Nat := (map.files.flatMap fun entry => entry.2.warnings).length

def toList (map : ProblemMap) : List (Path × FileProblems) :=
  map.files.filter fun entry => !entry.2.isNone

def isEmpty (map : ProblemMap) : Bool := map.files.all fun entry => entry.2.isNone

end ProblemMap
end ScenarioLang
