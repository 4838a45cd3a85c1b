import ScenarioLang.Text
import ScenarioLang.Yaml.Place

namespace ScenarioLang.Yaml

-- Tags are sequences of bytes: an escape may stand for any byte.
abbrev Octets := List UInt8

def octets (t : Text) : Octets := t.map Char.toUInt8

def isWordChar (c : Char) : Bool :=
  ('0' ≤ c && c ≤ '9') || ('a' ≤ c && c ≤ 'z') || ('A' ≤ c && c ≤ 'Z') || c = '_' || c = '-'

-- What may stand in a tag. Commas and square brackets may do so only where they
-- cannot end it.
def isUriChar (whole : Bool) (c : Char) : Bool :=
  isWordChar c || ";/?:@&=+$.%!~*'()".toList.contains c || (whole && ",[]".toList.contains c)

def scanOctet (place : Place) : Option (UInt8 × Place) :=
  match place.rest with
  | '%' :: high :: low :: _ => do return (.ofNat (← hexValue [high,low]),place.advanceBy 3)
  | _ => none

def followers? (first : UInt8) : Option Nat :=
  if first < 0x80 then some 0
  else if first < 0xC0 then none
  else if first < 0xE0 then some 1
  else if first < 0xF0 then some 2
  else if first < 0xF8 then some 3
  else none

def scanFollowers : Nat → Place → Option (Octets × Place)
  | 0,place => some ([],place)
  | count + 1,place => do
    let (octet,place) ← scanOctet place
    guard (0x80 ≤ octet && octet < 0xC0)
    let (octets,place) ← scanFollowers count place
    return (octet :: octets,place)

def scanEscaped (place : Place) : Option (Octets × Place) := do
  let (first,place) ← scanOctet place
  let (octets,place) ← scanFollowers (← followers? first) place
  return (first :: octets,place)

def uriRest (whole : Bool) : Nat → Place → Option (Octets × Place)
  | 0,place => some ([],place)
  | fuel + 1,place =>
    match place.rest with
    | [] => some ([],place)
    | c :: _ =>
      if isUriChar whole c then do
        let (octets,place) ← if c = '%' then scanEscaped place else some ([c.toUInt8],place.advance)
        let (rest,place) ← uriRest whole fuel place
        return (octets ++ rest,place)
      else some ([],place)

-- The characters of a tag from here on, perhaps none. What an escaped zero byte
-- and the bytes after it say is not kept.
def scanUri (whole : Bool) (place : Place) : Option (Octets × Place) := do
  let (octets,next) ← uriRest whole (place.rest.length + 1) place
  return (octets.takeWhile (· ≠ 0),next)

def scanSomeUri (whole : Bool) (place : Place) : Option (Octets × Place) := do
  guard ((place.peek 0).any (isUriChar whole))
  scanUri whole place

def scanHandle (place : Place) : Option (Text × Place) := do
  guard (place.peek 0 = some '!')
  let word := (place.advance.rest).takeWhile isWordChar
  let next := place.advanceBy (word.length + 1)
  if next.peek 0 = some '!' then return ('!' :: word ++ ['!'],next.advance)
  else return ('!' :: word,next)

def isClosed (handle : Text) : Bool := 2 ≤ handle.length && handle.getLast? = some '!'

inductive Tag where
  | whole (name : Octets)
  | short (handle : Text) (suffix : Octets)
  deriving DecidableEq, Repr

namespace Tag

def unspecific : Octets := octets "!".toList

def standardHandles : List (Text × Octets) :=
  [("!".toList,octets "!".toList),("!!".toList,octets "tag:yaml.org,2002:".toList)]

def resolve? (handles : List (Text × Octets)) : Tag → Option Octets
  | whole name => some name
  | short handle suffix => ((handles ++ standardHandles).lookup handle).map (· ++ suffix)

def core (type : String) : Octets := octets ("tag:yaml.org,2002:" ++ type).toList

end Tag

def scanShortTag (place : Place) : Option (Tag × Place) := do
  let (handle,next) ← scanHandle place
  if isClosed handle then
    let (suffix,next) ← scanSomeUri false next
    return (.short handle suffix,next)
  let (rest,next) ← scanUri false next
  let suffix := octets handle.tail ++ rest
  return (if suffix = [] then .whole Tag.unspecific else .short ['!'] suffix,next)

def scanTag (inFlow : Bool) (place : Place) : Option (Tag × Place) := do
  let (tag,next) ←
    if place.peek 1 = some '<' then do
      let (name,next) ← scanSomeUri true (place.advanceBy 2)
      guard (next.peek 0 = some '>')
      some (.whole name,next.advance)
    else scanShortTag place
  guard (endsWord (next.peek 0) || (inFlow && next.peek 0 = some ','))
  return (tag,next)

end ScenarioLang.Yaml
