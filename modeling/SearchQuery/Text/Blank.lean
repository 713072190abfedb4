/-!
# Blank characters

The characters of the Unicode property `White_Space`, and trimming by them.
-/

namespace SearchQuery

/-- The first and last code points of each run of blank characters. -/
def blankRanges : List (Nat × Nat) :=
  [(0x09, 0x0D), (0x20, 0x20), (0x85, 0x85), (0xA0, 0xA0), (0x1680, 0x1680), (0x2000, 0x200A),
    (0x2028, 0x2029), (0x202F, 0x202F), (0x205F, 0x205F), (0x3000, 0x3000)]

def isBlank (c : Char) : Bool :=
  blankRanges.any fun (first, last) => first ≤ c.toNat && c.toNat ≤ last

def trimStart (text : List Char) : List Char := text.dropWhile isBlank

def trimmed (text : String) : String :=
  String.ofList (trimStart (trimStart text.toList).reverse).reverse

def lowerAscii (text : String) : String := text.map Char.toLower

end SearchQuery
