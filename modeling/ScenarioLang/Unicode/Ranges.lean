namespace ScenarioLang

-- Ascending disjoint closed intervals of code points. The search leaves the
-- list at the first interval that starts beyond the character.
abbrev Ranges := List (Nat × Nat)

def Ranges.holds (c : Char) : Ranges → Bool
  | [] => false
  | (low,high) :: rest =>
    if c.toNat < low then false
    else if c.toNat ≤ high then true
    else holds c rest

-- Blocks of a character mapping: the characters low, low + step, ..., high go
-- to target, target + step, and so on. Characters outside all blocks stay.
abbrev Mapping := List (Nat × Nat × Nat × Nat)

def Mapping.image (c : Char) : Mapping → Char
  | [] => c
  | (low,high,step,target) :: rest =>
    if c.toNat < low then c
    else if c.toNat ≤ high then
      if (c.toNat - low) % step = 0 then Char.ofNat (target + (c.toNat - low)) else image c rest
    else image c rest

namespace Unicode

-- White_Space. Line feed and carriage return are blanks like any other.
def blankRanges : Ranges :=
  [(0x9, 0xD), (0x20, 0x20), (0x85, 0x85), (0xA0, 0xA0), (0x1680, 0x1680), (0x2000, 0x200A),
   (0x2028, 0x2029), (0x202F, 0x202F), (0x205F, 0x205F), (0x3000, 0x3000)]

def isBlank (c : Char) : Bool := blankRanges.holds c

def controlRanges : Ranges :=
  [(0x0, 0x1F), (0x7F, 0x9F)]

def isControl (c : Char) : Bool := controlRanges.holds c

end Unicode
end ScenarioLang
