import ScenarioLang.Path

namespace ScenarioLang

-- Values by path, in path order. A path keeps the spelling under which it first
-- came in, also when its value is replaced.
abbrev PathMap (α : Type) := List (Path × α)

namespace PathMap

def get? (path : Path) : PathMap α → Option α
  | [] => none
  | (key,value) :: rest => if key.same path then some value else get? path rest

def holds (path : Path) (entries : PathMap α) : Bool := (get? path entries).isSome

def update (path : Path) (change : Option α → α) : PathMap α → PathMap α
  | [] => [(path,change none)]
  | (key,value) :: rest =>
    if key.same path then (key,change (some value)) :: rest
    else if path.before key then (path,change none) :: (key,value) :: rest
    else (key,value) :: update path change rest

def put (path : Path) (value : α) (entries : PathMap α) : PathMap α := update path (fun _ => value) entries

def keys (entries : PathMap α) : List Path := entries.map Prod.fst

end PathMap

abbrev PathSet := PathMap Unit

namespace PathSet

def insert (path : Path) (paths : PathSet) : PathSet := PathMap.put path () paths
def toList (paths : PathSet) : List Path := PathMap.keys paths

end PathSet
end ScenarioLang
