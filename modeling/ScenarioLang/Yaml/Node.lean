import ScenarioLang.Yaml.Token

namespace ScenarioLang.Yaml

-- Scalars and collections of a document, with the numbers of their anchors. An
-- alias has the number of the anchor that it means.
inductive Node where
  | alias (number : Nat)
  | scalar (anchor : Option Nat) (style : ScalarStyle) (tag : Option Octets) (content : Text)
  | sequence (anchor : Option Nat) (items : List Node)
  | mapping (anchor : Option Nat) (entries : List (Node × Node))

abbrev Anchors := List (Text × Nat)

namespace Anchors

-- A name gets the count of the names before it as its number. A name that comes
-- again moves to a number that may be taken.
def add (anchors : Anchors) : Option Text → Option Nat × Anchors
  | none => (none,anchors)
  | some name =>
    (some anchors.length,(name,anchors.length) :: anchors.filter fun entry => entry.1 ≠ name)

end Anchors

namespace Node

def anchor? : Node → Option Nat
  | .alias _ => none
  | .scalar anchor _ _ _ => anchor
  | .sequence anchor _ => anchor
  | .mapping anchor _ => anchor

mutual

def parts : Node → List Node
  | .alias number => [.alias number]
  | .scalar anchor style tag content => [.scalar anchor style tag content]
  | .sequence anchor items => .sequence anchor items :: partsOfItems items
  | .mapping anchor entries => .mapping anchor entries :: partsOfEntries entries

def partsOfItems : List Node → List Node
  | [] => []
  | item :: rest => parts item ++ partsOfItems rest

def partsOfEntries : List (Node × Node) → List Node
  | [] => []
  | (key,value) :: rest => parts key ++ parts value ++ partsOfEntries rest

end

def emptyScalar : Node := .scalar none .plain none []

def properties : List Token → Option Text × Option Tag × List Token
  | .anchor name :: .tag tag :: rest => (some name,some tag,rest)
  | .tag tag :: .anchor name :: rest => (some name,some tag,rest)
  | .anchor name :: rest => (some name,none,rest)
  | .tag tag :: rest => (none,some tag,rest)
  | rest => (none,none,rest)

abbrev Handles := List (Text × Octets)

def resolve? (handles : Handles) : Option Tag → Option (Option Octets)
  | none => some none
  | some tag => (tag.resolve? handles).map some

abbrev Read (α : Type) := α × Anchors × List Token

def isMissing (ends : Token → Bool) (tokens : List Token) : Bool := tokens.head?.any ends

def endsBlockValue : Token → Bool
  | .key | .value | .blockEnd => true
  | _ => false

def endsBlockItem : Token → Bool
  | .blockEntry | .blockEnd => true
  | _ => false

def endsIndentlessItem : Token → Bool
  | .blockEntry | .key | .value | .blockEnd => true
  | _ => false

def endsFlowKey : Token → Bool
  | .value | .flowEntry | .flowMappingEnd => true
  | _ => false

def endsFlowValue : Token → Bool
  | .flowEntry | .flowMappingEnd => true
  | _ => false

def endsPairKey : Token → Bool
  | .value | .flowEntry | .flowSequenceEnd => true
  | _ => false

def endsPairValue : Token → Bool
  | .flowEntry | .flowSequenceEnd => true
  | _ => false

def flowPart? (first : Bool) (tokens : List Token) : Option (List Token) :=
  match first,tokens with
  | true,_ => some tokens
  | false,.flowEntry :: rest => some rest
  | false,_ => none

-- Fuel bounds the number of nodes and tokens that are gone through; four times
-- the number of tokens is always enough.
mutual

def read (handles : Handles) : Nat → Bool → Bool → Anchors → List Token → Option (Read Node)
  | 0,_,_,_,_ => none
  | fuel + 1,block,indentless,anchors,tokens =>
    match tokens with
    | .alias name :: rest => do return (.alias (← anchors.lookup name),anchors,rest)
    | _ => do
      let (name,written,rest) := properties tokens
      let tag ← resolve? handles written
      let (anchor,anchors) := anchors.add name
      let absent : Option (Read Node) :=
        if name.isSome || written.isSome then some (.scalar anchor .plain tag [],anchors,rest) else none
      match rest with
      | .scalar style content :: rest =>
        return (.scalar anchor style (tag.filter (· ≠ Tag.unspecific)) content,anchors,rest)
      | .flowSequenceStart :: rest =>
        let (items,anchors,rest) ← readFlowItems handles fuel true anchors rest
        return (.sequence anchor items,anchors,rest)
      | .flowMappingStart :: rest =>
        let (entries,anchors,rest) ← readFlowEntries handles fuel true anchors rest
        return (.mapping anchor entries,anchors,rest)
      | .blockEntry :: _ =>
        if indentless then
          let (items,anchors,rest) ← readIndentless handles fuel anchors rest
          return (.sequence anchor items,anchors,rest)
        else absent
      | .blockSequenceStart :: inner =>
        if block then
          let (items,anchors,rest) ← readItems handles fuel anchors inner
          return (.sequence anchor items,anchors,rest)
        else absent
      | .blockMappingStart :: inner =>
        if block then
          let (entries,anchors,rest) ← readEntries handles fuel anchors inner
          return (.mapping anchor entries,anchors,rest)
        else absent
      | _ => absent

def readOptional (handles : Handles) : Nat → (Token → Bool) → Bool → Bool → Anchors → List Token → Option (Read Node)
  | 0,_,_,_,_,_ => none
  | fuel + 1,ends,block,indentless,anchors,tokens =>
    if isMissing ends tokens then some (emptyScalar,anchors,tokens)
    else read handles fuel block indentless anchors tokens

def readItems (handles : Handles) : Nat → Anchors → List Token → Option (Read (List Node))
  | 0,_,_ => none
  | fuel + 1,anchors,tokens =>
    match tokens with
    | .blockEnd :: rest => some ([],anchors,rest)
    | .blockEntry :: rest => do
      let (item,anchors,rest) ← readOptional handles fuel endsBlockItem true false anchors rest
      let (items,anchors,rest) ← readItems handles fuel anchors rest
      return (item :: items,anchors,rest)
    | _ => none

def readIndentless (handles : Handles) : Nat → Anchors → List Token → Option (Read (List Node))
  | 0,_,_ => none
  | fuel + 1,anchors,tokens =>
    match tokens with
    | .blockEntry :: rest => do
      let (item,anchors,rest) ← readOptional handles fuel endsIndentlessItem true false anchors rest
      let (items,anchors,rest) ← readIndentless handles fuel anchors rest
      return (item :: items,anchors,rest)
    | _ => some ([],anchors,tokens)

def readEntries (handles : Handles) : Nat → Anchors → List Token → Option (Read (List (Node × Node)))
  | 0,_,_ => none
  | fuel + 1,anchors,tokens =>
    match tokens with
    | .blockEnd :: rest => some ([],anchors,rest)
    | .key :: rest => do
      let (key,anchors,rest) ← readOptional handles fuel endsBlockValue true true anchors rest
      let (value,anchors,rest) ← readValue handles fuel endsBlockValue true anchors rest
      let (entries,anchors,rest) ← readEntries handles fuel anchors rest
      return ((key,value) :: entries,anchors,rest)
    | _ => none

def readValue (handles : Handles) : Nat → (Token → Bool) → Bool → Anchors → List Token → Option (Read Node)
  | 0,_,_,_,_ => none
  | fuel + 1,ends,block,anchors,tokens =>
    match tokens with
    | .value :: rest => readOptional handles fuel ends block block anchors rest
    | _ => some (emptyScalar,anchors,tokens)

-- The key of a pair that is an item. A key that is left out takes the token
-- after it along, whether that is the colon, a comma or the end of the sequence.
def readPairKey (handles : Handles) : Nat → Anchors → List Token → Option (Read Node)
  | 0,_,_ => none
  | fuel + 1,anchors,tokens =>
    if isMissing endsPairKey tokens then some (emptyScalar,anchors,tokens.tail)
    else read handles fuel false false anchors tokens

def readFlowItems (handles : Handles) : Nat → Bool → Anchors → List Token → Option (Read (List Node))
  | 0,_,_,_ => none
  | fuel + 1,first,anchors,tokens =>
    match tokens with
    | .flowSequenceEnd :: rest => some ([],anchors,rest)
    | _ => do
      match ← flowPart? first tokens with
      | .flowSequenceEnd :: rest => return ([],anchors,rest)
      | .key :: rest =>
        let (key,anchors,rest) ← readPairKey handles fuel anchors rest
        let (value,anchors,rest) ← readValue handles fuel endsPairValue false anchors rest
        let (items,anchors,rest) ← readFlowItems handles fuel false anchors rest
        return (.mapping none [(key,value)] :: items,anchors,rest)
      | tokens =>
        let (item,anchors,rest) ← read handles fuel false false anchors tokens
        let (items,anchors,rest) ← readFlowItems handles fuel false anchors rest
        return (item :: items,anchors,rest)

def readFlowEntries (handles : Handles) : Nat → Bool → Anchors → List Token → Option (Read (List (Node × Node)))
  | 0,_,_,_ => none
  | fuel + 1,first,anchors,tokens =>
    match tokens with
    | .flowMappingEnd :: rest => some ([],anchors,rest)
    | _ => do
      match ← flowPart? first tokens with
      | .flowMappingEnd :: rest => return ([],anchors,rest)
      | .key :: rest =>
        let (key,anchors,rest) ← readOptional handles fuel endsFlowKey false false anchors rest
        let (value,anchors,rest) ← readValue handles fuel endsFlowValue false anchors rest
        let (entries,anchors,rest) ← readFlowEntries handles fuel false anchors rest
        return ((key,value) :: entries,anchors,rest)
      | tokens =>
        let (key,anchors,rest) ← read handles fuel false false anchors tokens
        let (entries,anchors,rest) ← readFlowEntries handles fuel false anchors rest
        return ((key,emptyScalar) :: entries,anchors,rest)

end

def endsDocument : Token → Bool
  | .directive _ | .documentStart | .documentEnd => true
  | _ => false

def directives : List Token → List Directive × List Token
  | .directive declared :: rest => ((declared :: (directives rest).1),(directives rest).2)
  | rest => ([],rest)

def readStart (tokens : List Token) : Option (Handles × Bool × List Token) :=
  match directives tokens with
  | (declared,.documentStart :: rest) => do return (← Directive.handles? declared,true,rest)
  | ([],rest) => some ([],false,rest)
  | _ => none

def ofTokens? (tokens : List Token) : Option (Option Node) :=
  if tokens = [] then some none
  else do
    let (handles,marked,rest) ← readStart tokens
    let (node,_,rest) ←
      if marked && (rest = [] || isMissing endsDocument rest) then some (emptyScalar,[],rest)
      else read handles (4*tokens.length + 4) true false [] rest
    guard (rest.dropWhile (· = .documentEnd)).isEmpty
    return some node

end Node

structure Document where
  root : Node
  anchored : List (Nat × Node)

namespace Document

def ofRoot (root : Node) : Document :=
  ⟨root,(root.parts.filterMap fun node => node.anchor?.map fun number => (number,node)).reverse⟩

def follow? (document : Document) : Node → Option Node
  | .alias number => document.anchored.lookup number
  | node => some node

def ofText? (t : Text) : Option (Option Document) := do
  return (← Node.ofTokens? (← tokens t)).map ofRoot

end Document
end ScenarioLang.Yaml
