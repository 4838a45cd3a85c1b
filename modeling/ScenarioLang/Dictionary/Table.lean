import ScenarioLang.Dictionary
import ScenarioLang.Text

namespace ScenarioLang.Dictionary

-- Dictionary files are JSON: an object whose "keywords" maps keys to lists of
-- words, or the same as a list of at most one such map. Readers return what
-- follows the value they read.
namespace Json

def isSpace (c : Char) : Bool := c = ' ' || c = '\n' || c = '\t' || c = '\r'
def skipSpace (t : Text) : Text := t.dropWhile isSpace

def expect (c : Char) (t : Text) : Option Text :=
  match skipSpace t with
  | d :: rest => if c = d then some rest else none
  | [] => none

def unit : Text → Option (Nat × Text)
  | a :: b :: c :: d :: rest => do return (← hexValue [a,b,c,d],rest)
  | _ => none

-- A leading surrogate must be followed by a trailing one, and a trailing one
-- never stands alone.
def scalar (t : Text) : Option (Char × Text) := do
  let (high,rest) ← unit t
  if high < 0xD800 || 0xDFFF < high then return (Char.ofNat high,rest)
  guard (high < 0xDC00)
  match rest with
  | '\\' :: 'u' :: rest =>
    let (low,rest) ← unit rest
    guard (0xDC00 ≤ low && low ≤ 0xDFFF)
    return (Char.ofNat (0x10000 + (high - 0xD800)*0x400 + (low - 0xDC00)),rest)
  | _ => none

def simpleEscape? (c : Char) : Option Char :=
  match c with
  | '"' => some '"'
  | '\\' => some '\\'
  | '/' => some '/'
  | 'b' => some '\x08'
  | 'f' => some '\x0c'
  | 'n' => some '\n'
  | 'r' => some '\r'
  | 't' => some '\t'
  | _ => none

def stringRest : Nat → Text → Option (Text × Text)
  | 0,_ => none
  | _ + 1,[] => none
  | fuel + 1,c :: rest =>
    if c = '"' then some ([],rest)
    else if c = '\\' then do
      let (c,rest) ← match rest with
        | 'u' :: rest => scalar rest
        | d :: rest => (simpleEscape? d).map fun c => (c,rest)
        | [] => none
      let (content,rest) ← stringRest fuel rest
      return (c :: content,rest)
    else if c.toNat < 0x20 then none
    else do
      let (content,rest) ← stringRest fuel rest
      return (c :: content,rest)

def string (t : Text) : Option (Text × Text) := do
  let rest ← expect '"' t
  stringRest (rest.length + 1) rest

-- Values nobody asked for are only passed over. Their strings may hold lone
-- surrogates.
def skipString : Text → Option Text
  | [] => none
  | '"' :: rest => some rest
  | '\\' :: 'u' :: a :: b :: c :: d :: rest =>
    if [a, b, c, d].all fun h => (hexDigit? h).isSome then skipString rest else none
  | '\\' :: c :: rest => if (simpleEscape? c).isSome then skipString rest else none
  | c :: rest => if c.toNat < 0x20 then none else skipString rest

def isDigit (c : Char) : Bool := '0' ≤ c && c ≤ '9'

def skipDigits (t : Text) : Option Text :=
  match t with
  | c :: rest => if isDigit c then some (rest.dropWhile isDigit) else none
  | [] => none

def skipExponent (t : Text) : Option Text :=
  match t with
  | 'e' :: '+' :: rest | 'e' :: '-' :: rest | 'E' :: '+' :: rest | 'E' :: '-' :: rest => skipDigits rest
  | 'e' :: rest | 'E' :: rest => skipDigits rest
  | _ => some t

def skipNumber (t : Text) : Option Text := do
  let t := match t with
    | '-' :: rest => rest
    | _ => t
  let t ← match t with
    | '0' :: rest => if rest.head?.any isDigit then none else some rest
    | _ => skipDigits t
  let t ← match t with
    | '.' :: rest => skipDigits rest
    | _ => some t
  skipExponent t

-- Fuel bounds the depth and the number of parts; the length of the text is
-- always enough.
mutual

def skipValue : Nat → Text → Option Text
  | 0,_ => none
  | fuel + 1,t =>
    match skipSpace t with
    | '"' :: rest => skipString rest
    | '[' :: rest =>
      match skipSpace rest with
      | ']' :: rest => some rest
      | rest => do skipItems fuel (← skipValue fuel rest)
    | '\x7b' :: rest =>
      match skipSpace rest with
      | '\x7d' :: rest => some rest
      | rest => do skipMembers fuel (← skipMember fuel rest)
    | 'n' :: 'u' :: 'l' :: 'l' :: rest => some rest
    | 't' :: 'r' :: 'u' :: 'e' :: rest => some rest
    | 'f' :: 'a' :: 'l' :: 's' :: 'e' :: rest => some rest
    | rest => skipNumber rest

def skipItems : Nat → Text → Option Text
  | 0,_ => none
  | fuel + 1,t =>
    match skipSpace t with
    | ']' :: rest => some rest
    | ',' :: rest => do skipItems fuel (← skipValue fuel rest)
    | _ => none

def skipMember : Nat → Text → Option Text
  | 0,_ => none
  | fuel + 1,t => do skipValue fuel (← expect ':' (← skipString (← expect '"' t)))

def skipMembers : Nat → Text → Option Text
  | 0,_ => none
  | fuel + 1,t =>
    match skipSpace t with
    | '\x7d' :: rest => some rest
    | ',' :: rest => do skipMembers fuel (← skipMember fuel rest)
    | _ => none

end

def partsRest (close : Char) (part : Text → Option (α × Text)) : Nat → Text → Option (List α × Text)
  | 0,_ => none
  | fuel + 1,t =>
    match skipSpace t with
    | ',' :: rest => do
      let (head,rest) ← part rest
      let (tail,rest) ← partsRest close part fuel rest
      return (head :: tail,rest)
    | c :: rest => if c = close then some ([],rest) else none
    | [] => none

def parts (close : Char) (part : Text → Option (α × Text)) (t : Text) : Option (List α × Text) :=
  match expect close t with
  | some rest => some ([],rest)
  | none => do
    let (head,rest) ← part t
    let (tail,rest) ← partsRest close part (rest.length + 1) rest
    return (head :: tail,rest)

def wordList (t : Text) : Option (List Text × Text) := do
  parts ']' string (← expect '[' t)

def keywordEntry (t : Text) : Option ((Text × List Text) × Text) := do
  let (key,rest) ← string t
  let (words,rest) ← wordList (← expect ':' rest)
  return ((key,words),rest)

def keywordTable (t : Text) : Option (List (Text × List Text) × Text) := do
  parts '\x7d' keywordEntry (← expect '\x7b' t)

def member (t : Text) : Option (Option (List (Text × List Text)) × Text) := do
  let (key,rest) ← string t
  let rest ← expect ':' rest
  if key = "keywords".toList then
    let (table,rest) ← keywordTable rest
    return (some table,rest)
  else
    let rest ← skipValue (2*rest.length + 2) rest
    return (none,rest)

def tables (t : Text) : Option (List (List (Text × List Text)) × Text) :=
  match expect '[' t with
  | some rest => parts ']' keywordTable rest
  | none => do
    let (members,rest) ← parts '\x7d' member (← expect '\x7b' t)
    return (members.filterMap id,rest)

def table (t : Text) : Option (List (Text × List Text)) := do
  let (tables,rest) ← tables t
  guard (skipSpace rest).isEmpty
  match tables with
  | [] => return []
  | [entries] => return entries
  | _ => none

end Json

-- Of entries with one key the last counts, and keys that name no keyword are
-- left out.
def ofEntries (language : Text) (entries : List (Text × List Text)) : Dictionary where
  language := language
  words keyword :=
    match entries.reverse.find? fun entry => entry.1 = keyword.key.toList with
    | some (_,words) => words
    | none => []

def ofJson? (language json : Text) : Option Dictionary :=
  (Json.table json).map (ofEntries language)

end ScenarioLang.Dictionary
