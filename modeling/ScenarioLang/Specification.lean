import ScenarioLang.Document

namespace ScenarioLang

structure Specification where
  documents : List Document
  positions : List (Path × Nat)

namespace Specification

def empty : Specification := ⟨[],[]⟩

def key (doc : Document) : Path :=
  match doc.fileInfo with
  | some info => info.path
  | none => ⟨[]⟩

def position? (spec : Specification) (path : Path) : Option Nat :=
  (spec.positions.find? fun entry => entry.1.same path).map Prod.snd

def insert (spec : Specification) (doc : Document) : Specification :=
  match spec.position? (key doc) with
  | some position => { spec with documents := spec.documents.set position doc }
  | none => ⟨spec.documents ++ [doc],(key doc,spec.documents.length) :: spec.positions⟩

def get? (spec : Specification) (path : Path) : Option Document :=
  (spec.position? path).bind fun position => spec.documents[position]?

def contains (spec : Specification) (path : Path) : Bool := (spec.position? path).isSome

def paths (spec : Specification) : List Path :=
  spec.documents.filterMap fun doc => doc.fileInfo.map FileInfo.path

end Specification
end ScenarioLang
