import ScenarioLang.Dictionary.Source

namespace ScenarioLang.Dictionary

-- Dictionaries that were read once and are not read again, by the code under
-- which each was found. Failures are not remembered.
structure Memory where
  ofFiles : List (Text × Dictionary)
  ofBuiltin : List (Text × Dictionary)

namespace Memory

def empty : Memory := ⟨[],[]⟩

def firstAnswer (decide : Text → Option Lookup) (known : List (Text × Dictionary)) :
    List Text → Option (Lookup × List (Text × Dictionary))
  | [] => none
  | code :: rest =>
    match known.find? fun entry => entry.1 = code with
    | some (_,dictionary) => some (.found dictionary,known)
    | none =>
      match decide code with
      | some (.found dictionary) => some (.found dictionary,(code,dictionary) :: known)
      | some answer => some (answer,known)
      | none => firstAnswer decide known rest

def askBuiltin (memory : Memory) (language : Text) : Lookup × Memory :=
  match firstAnswer (fun code => (ofCode? code).map .found) memory.ofBuiltin (candidates language) with
  | some (answer,known) => (answer,{ memory with ofBuiltin := known })
  | none => (.failed (.notFound language),memory)

def askFolder (tree : FileTree) (folder : Path) (memory : Memory) (language : Text) : Lookup × Memory :=
  match firstAnswer (ofFile? tree folder) memory.ofFiles (candidates language) with
  | some (answer,known) => (answer,{ memory with ofFiles := known })
  | none => memory.askBuiltin language

end Memory
end ScenarioLang.Dictionary
