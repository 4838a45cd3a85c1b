import ScenarioLang.Text
import ScenarioLang.Unicode.Ranges

namespace ScenarioLang

-- Paths keep the spelling they were given. Two spellings name one path when
-- they have the same components.
structure Path where
  text : Text
  deriving DecidableEq, Repr

inductive Component where
  | root | here | up | name (name : Text)
  deriving DecidableEq, Repr

namespace Component

def ofPart? (part : Text) : Option Component :=
  if part = [] || part = ['.'] then none
  else if part = ['.','.'] then some up
  else some (name part)

def written : Component → Text
  | root => ['/']
  | here => ['.']
  | up => ['.','.']
  | name part => part

def before : Component → Component → Bool
  | root,root => false
  | root,_ => true
  | here,root | here,here => false
  | here,_ => true
  | up,name _ => true
  | up,_ => false
  | name a,name b => a < b
  | name _,_ => false

end Component

namespace Path

def isAbsolute (path : Path) : Bool := path.text.head? = some '/'

def components (path : Path) : List Component :=
  let parts := Text.split (· = '/') path.text
  let named := parts.filterMap Component.ofPart?
  if path.isAbsolute then .root :: named
  else if parts.head? = some ['.'] then .here :: named
  else named

def same (a b : Path) : Bool := a.components = b.components

def componentsBefore : List Component → List Component → Bool
  | _,[] => false
  | [],_ :: _ => true
  | a :: as,b :: bs => a.before b || (a = b && componentsBefore as bs)

def before (a b : Path) : Bool := componentsBefore a.components b.components

def slashed (parts : List Component) : Text :=
  ['/'].intercalate (parts.map Component.written)

def ofComponents : List Component → Path
  | .root :: rest => ⟨'/' :: slashed rest⟩
  | components => ⟨slashed components⟩

def join (base path : Path) : Path :=
  if path.isAbsolute then path
  else if base.text = [] || base.text.getLast? = some '/' then ⟨base.text ++ path.text⟩
  else ⟨base.text ++ '/' :: path.text⟩

def parent? (path : Path) : Option Path :=
  match path.components.reverse with
  | [] | .root :: _ => none
  | _ :: rest => some (ofComponents rest.reverse)

-- One component met on the way, latest first: a dot stays where it is, two
-- dots take back a name and never leave the root.
def follow (stack : List Component) : Component → List Component
  | .here => stack
  | .up =>
    match stack with
    | .name _ :: rest => rest
    | .root :: _ => stack
    | _ => .up :: stack
  | component => component :: stack

def normalize (path : Path) : Path :=
  ofComponents (path.components.foldl follow []).reverse

def resolve (base path : Path) : Path := normalize (base.join path)

def resolveImport (importer : Path) (value : Text) : Path :=
  let written : Path := ⟨value.map fun c => if c = '\\' then '/' else c⟩
  normalize ((importer.parent?.getD ⟨[]⟩).join written)

def isAsciiLetter (c : Char) : Bool := ('a' ≤ c && c ≤ 'z') || ('A' ≤ c && c ≤ 'Z')

def isWritable (value : Text) : Bool :=
  !value.allBlank &&
  value.all (fun c => !Unicode.isControl c && !"<>\"|?*".toList.contains c) &&
  match value with
  | drive :: ':' :: rest => isAsciiLetter drive && !rest.contains ':'
  | _ => !value.contains ':'

end Path
end ScenarioLang
