import ScenarioLang.Yaml.Tag

namespace ScenarioLang.Yaml

inductive Directive where
  | version (major minor : Nat)
  | handle (name : Text) (expansion : Octets)
  deriving DecidableEq, Repr

def scanVersionPart (place : Place) : Option (Nat × Place) := do
  let digits := place.rest.takeWhile fun c => '0' ≤ c && c ≤ '9'
  guard (0 < digits.length && digits.length ≤ 9)
  return (digits.foldl (fun value c => 10*value + (c.toNat - '0'.toNat)) 0,place.advanceBy digits.length)

def scanVersion (place : Place) : Option (Directive × Place) := do
  let (major,place) ← scanVersionPart (place.passWhile isSpaceOrTab)
  guard (place.peek 0 = some '.')
  let (minor,place) ← scanVersionPart place.advance
  return (.version major minor,place)

def scanHandleDirective (place : Place) : Option (Directive × Place) := do
  let (name,place) ← scanHandle (place.passWhile isSpaceOrTab)
  guard (name = ['!'] || isClosed name)
  guard ((place.peek 0).any isSpaceOrTab)
  let (expansion,place) ← scanSomeUri true (place.passWhile isSpaceOrTab)
  guard (endsWord (place.peek 0))
  return (.handle name expansion,place)

def scanDirective (place : Place) : Option (Directive × Place) := do
  let place := place.advance
  let name := place.rest.takeWhile isWordChar
  let place := place.advanceBy name.length
  guard (endsWord (place.peek 0))
  let (directive,place) ←
    if name = "YAML".toList then scanVersion place
    else if name = "TAG".toList then scanHandleDirective place
    else none
  let place := place.passWhile isSpaceOrTab
  let place := if place.peek 0 = some '#' then place.passWhile fun c => !isBreak c else place
  guard (endsLine (place.peek 0))
  return (directive,place.passBreak.2)

namespace Directive

-- The declared handles. Only one version may be given and no handle twice; 1.1
-- and 1.2 are the versions that can be read.
def handles? : List Directive → Option (List (Text × Octets))
  | [] => some []
  | version major minor :: rest => do
    guard (major = 1 && (minor = 1 || minor = 2))
    guard !(rest.any fun directive => directive matches version _ _)
    handles? rest
  | handle name expansion :: rest => do
    let handles ← handles? rest
    guard !(handles.any fun entry => entry.1 = name)
    return (name,expansion) :: handles

end Directive
end ScenarioLang.Yaml
