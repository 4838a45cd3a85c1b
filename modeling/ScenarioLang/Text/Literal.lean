import ScenarioLang.Text
import ScenarioLang.Unicode.Letter
import ScenarioLang.Unicode.Number

namespace ScenarioLang.Text
open Unicode

def isNameChar (c : Char) : Bool :=
  isLetter c || isNumber c || c = ' ' || c = '.' || c = '_' || c = '-'

def isName : Text → Bool
  | [] => false
  | c :: rest => isLetter c && rest.all isNameChar

def isDigits (t : Text) : Bool := !t.isEmpty && t.all isDigit

def isNumeral (t : Text) : Bool :=
  let magnitude := match t with
    | '-' :: rest => rest
    | _ => t
  let fraction := magnitude.dropWhile isDigit
  isDigits (magnitude.takeWhile isDigit) &&
    match fraction with
    | [] => true
    | c :: digits => c = '.' && isDigits digits

def numberLimit : Nat := Nat.pow 2 32

def isAsciiDigit (c : Char) : Bool := '0'.toNat ≤ c.toNat && c.toNat ≤ '9'.toNat

def digitsValue (digits : Text) : Nat :=
  digits.foldl (fun value c => 10*value + (c.toNat - '0'.toNat)) 0

def number? (digits : Text) : Option Nat :=
  if !digits.isEmpty && digits.all isAsciiDigit && digitsValue digits < numberLimit
  then some (digitsValue digits) else none

def toClosingQuote : Text → Option (Text × Text)
  | [] => none
  | '"' :: rest => some ([],rest)
  | ['\\'] => none
  | '\\' :: c :: rest => (toClosingQuote rest).map fun (content,tail) => ('\\' :: c :: content,tail)
  | c :: rest => (toClosingQuote rest).map fun (content,tail) => (c :: content,tail)

def quoted : Text → Option (Text × Text)
  | '"' :: rest => toClosingQuote rest
  | _ => none

-- Text is stored in UTF-8, and places in it are counted in bytes.
def bytes (t : Text) : Nat := (String.ofList t).utf8ByteSize

def placed : Nat → Text → List (Nat × Char)
  | _,[] => []
  | byte,c :: rest => (byte,c) :: placed (byte + c.utf8Size) rest

def cutAt? (t : Text) (byte : Nat) : Option (Text × Text) :=
  let stored := String.ofList t
  if between : (⟨byte⟩ : String.Pos.Raw).IsValid stored then
    some ((stored.sliceTo ⟨_,between⟩).copy.toList,(stored.sliceFrom ⟨_,between⟩).copy.toList)
  else none

def closingByte : Bool → List (Nat × Char) → Option Nat
  | _,[] => none
  | true,_ :: rest => closingByte false rest
  | false,(byte,c) :: rest =>
    if c = '\\' then closingByte true rest
    else if c = '"' then some byte else closingByte false rest

-- The scan over stored text. Once the quote is found, the content is sliced off ahead of its
-- byte and the rest from the byte behind it, where a slice may fail.
def scanQuoted : Text → Option (Option Text × Option Text)
  | '"' :: inner => (closingByte false (placed 0 inner)).map fun byte =>
    ((cutAt? inner byte).map Prod.fst,(cutAt? inner (byte + 1)).map Prod.snd)
  | _ => none

end ScenarioLang.Text
