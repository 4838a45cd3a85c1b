import ScenarioLang.Dictionary
import ScenarioLang.Text.Words

namespace ScenarioLang

inductive PatternPart where
  | letter (c : Char)
  | blanks
  deriving DecidableEq, Repr

abbrev Branch := List PatternPart

namespace Branch
open Words Unicode

def lead (parts : Branch) : List Branch → List Branch
  | [] => [parts]
  | branch :: rest => (parts ++ branch) :: rest

-- Reads the text of a pattern. A bar parts branches, a backslash takes an operator for
-- itself, and `\s+` stands for blanks. Nothing else that an operator may mean is read.
def read : Text → Option (List Branch)
  | [] => some [[]]
  | '|' :: rest => (read rest).map ([] :: ·)
  | '\\' :: 's' :: '+' :: rest => (read rest).map (lead [.blanks])
  | '\\' :: c :: rest => if isOperator c then (read rest).map (lead [.letter c]) else none
  | c :: rest => if isOperator c then none else (read rest).map (lead [.letter c])

-- Goes through a text along a branch and hands what is left to the test that comes after it.
-- A run of blanks is as long as the rest of the branch and the test allow.
def follow : Branch → Text → (Text → Option α) → Option α
  | [],t,accept => accept t
  | _ :: _,[],_ => none
  | .letter c :: parts,d :: t,accept => if fold c = fold d then follow parts t accept else none
  | .blanks :: parts,d :: t,accept =>
    if isBlank d then follow (.blanks :: parts) t accept <|> follow parts t accept else none

end Branch

-- The words of a keyword and the pattern they make. Without a usable word there is
-- none.
structure KeywordPattern where
  keyword : Keyword
  words : List Text
  branches : Option (List Branch)
  compiled : branches = (Words.alternation words).bind Branch.read

namespace KeywordPattern

def empty (keyword : Keyword) : KeywordPattern := ⟨keyword,[],none,rfl⟩

def setWords (pattern : KeywordPattern) (words : List Text) : KeywordPattern :=
  ⟨pattern.keyword,words,(Words.alternation words).bind Branch.read,rfl⟩

def rebind (pattern : KeywordPattern) (dictionary : Dictionary) : KeywordPattern :=
  pattern.setWords (dictionary.words pattern.keyword)

def ofDictionary (keyword : Keyword) (dictionary : Dictionary) : KeywordPattern :=
  (empty keyword).rebind dictionary

def captureWith (pattern : KeywordPattern) (t : Text) (accept : Text → Text → Option α) : Option α :=
  pattern.branches.bind fun branches => branches.findSome? fun branch =>
    branch.follow t fun rest => accept (t.take (t.length - rest.length)) rest

def captures (pattern : KeywordPattern) (t : Text) : Option Text :=
  pattern.captureWith t fun covered rest => if rest = [] then some covered else none

end KeywordPattern
end ScenarioLang
