import ScenarioLang.Unicode.Ranges

namespace ScenarioLang

-- Source text is read apart character by character, so it is kept as the list
-- of its Unicode scalar values. Composed messages are strings.
abbrev Text := List Char

namespace Text
open Unicode

def trimStart (t : Text) : Text := t.dropWhile isBlank
def trimEnd (t : Text) : Text := (t.reverse.dropWhile isBlank).reverse
def trim (t : Text) : Text := trimEnd (trimStart t)

def allBlank (t : Text) : Bool := t.all isBlank

def indent (t : Text) : Nat := (t.takeWhile isBlank).length

def joinHead (c : Char) : List Text → List Text
  | [] => [[c]]
  | part :: parts => (c :: part) :: parts

def split (separator : Char → Bool) : Text → List Text
  | [] => [[]]
  | c :: rest => if separator c then [] :: split separator rest else joinHead c (split separator rest)

def runs (t : Text) : List Text := (split isBlank t).filter fun run => !run.isEmpty

def after : Text → Text → Option Text
  | [],t => some t
  | _ :: _,[] => none
  | c :: literal,d :: t => if c = d then after literal t else none

-- Cuts at every occurrence of a separator, left to right without overlap. The
-- count says how much of the current separator is still to be passed over.
def cutAfter (separator : Text) : Nat → Text → List Text
  | _,[] => [[]]
  | skip + 1,_ :: rest => cutAfter separator skip rest
  | 0,c :: rest =>
    if (after separator (c :: rest)).isSome then [] :: cutAfter separator (separator.length - 1) rest
    else joinHead c (cutAfter separator 0 rest)

def cut (separator t : Text) : List Text := cutAfter separator 0 t

def dropReturn (line : Text) : Text :=
  if line.getLast? = some '\r' then line.dropLast else line

-- Lines ended by line feeds. Text after the last line feed is a line only if
-- there is some, and then it keeps a carriage return at its end.
def lines (t : Text) : List Text :=
  let parts := split (· = '\n') t
  let ended := parts.dropLast.map dropReturn
  match parts.getLast? with
  | some last => if last.isEmpty then ended else ended ++ [last]
  | none => ended

def numbered (lines : List Text) : List (Text × Nat) := lines.zipIdx 1

def sameAsciiCase (s t : Text) : Bool := s.map Char.toLower = t.map Char.toLower

-- A line that ends in a quote or in a closing angle bracket ends in a value or
-- in a literal, and a number sign right after an opening angle bracket belongs
-- to a literal such as <#id>. Otherwise the last number sign opens the comment.
def uncommented (line : Text) : Text :=
  match (line.reverse.dropWhile isBlank).head? with
  | some '"' => line
  | some '>' => line
  | _ =>
    match line.reverse.dropWhile (· ≠ '#') with
    | [] => line
    | _ :: before => if before.head? = some '<' then line else before.reverse

end Text

def hexDigit? (c : Char) : Option Nat :=
  if '0' ≤ c && c ≤ '9' then some (c.toNat - '0'.toNat)
  else if 'a' ≤ c && c ≤ 'f' then some (c.toNat - 'a'.toNat + 10)
  else if 'A' ≤ c && c ≤ 'F' then some (c.toNat - 'A'.toNat + 10)
  else none

def hexValue (digits : Text) : Option Nat :=
  digits.foldlM (fun value c => (hexDigit? c).map fun d => 16*value + d) 0

end ScenarioLang
