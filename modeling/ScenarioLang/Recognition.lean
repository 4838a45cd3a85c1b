import ScenarioLang.Document
import ScenarioLang.ProblemMap

namespace ScenarioLang

inductive Reply (σ α : Type) where
  | answered (value : α) (state : σ)
  | crashed (state : σ)

-- Recognizes the sentences of steps in one language. Recognition may change the
-- document and report problems. A document changed before a crash stays so.
structure Recognizer (σ : Type) where
  isTrained : Text → σ → Reply σ Bool
  canBeTrained : Text → σ → Reply σ Bool
  train : Text → σ → Reply σ (Option RecognitionError)
  recognize : Text → Document → σ → Document × Reply σ FileProblems

namespace Recognizer

def none : Recognizer Unit where
  isTrained _ state := .answered true state
  canBeTrained _ state := .answered true state
  train _ state := .answered .none state
  recognize _ doc state := (doc,.answered .none state)

def prepare (recognizer : Recognizer σ) (language : Text) (state : σ) : Reply σ (Option RecognitionError) :=
  match recognizer.isTrained language state with
  | .crashed state => .crashed state
  | .answered true state => .answered .none state
  | .answered false state =>
    match recognizer.canBeTrained language state with
    | .crashed state => .crashed state
    | .answered false state => .answered (some ⟨language,"no training data available"⟩) state
    | .answered true state => recognizer.train language state

def crash : Problem := .unlocated .internal "sentence recognition panicked"

def apply (recognizer : Recognizer σ) (language : Text) (doc : Document) (state : σ) :
    Document × FileProblems × σ :=
  match recognizer.prepare language state with
  | .crashed state => (doc,⟨[crash],[]⟩,state)
  | .answered (some error) state => (doc,⟨[.ofRecognitionError error],[]⟩,state)
  | .answered .none state =>
    match recognizer.recognize language doc state with
    | (doc,.crashed state) => (doc,⟨[crash],[]⟩,state)
    | (doc,.answered problems state) => (doc,problems,state)

end Recognizer
end ScenarioLang
