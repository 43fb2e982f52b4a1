/-!
# White space

The characters with the Unicode property `White_Space`, and texts without such
characters at their ends.
-/

namespace PortKnock.Text

/-- First and last code points of the runs of white space, in order. -/
def whiteSpaceRanges : List (Nat × Nat) :=
  [(0x9, 0xd), (0x20, 0x20), (0x85, 0x85), (0xa0, 0xa0), (0x1680, 0x1680), (0x2000, 0x200a),
    (0x2028, 0x2029), (0x202f, 0x202f), (0x205f, 0x205f), (0x3000, 0x3000)]

def isWhiteSpace (c : Char) : Bool :=
  whiteSpaceRanges.any fun (first, last) => first ≤ c.toNat && c.toNat ≤ last

/-- The text without the white space at both ends. -/
def trim (text : String) : String :=
  let behind := text.toList.dropWhile isWhiteSpace
  String.ofList (behind.reverse.dropWhile isWhiteSpace).reverse

end PortKnock.Text
