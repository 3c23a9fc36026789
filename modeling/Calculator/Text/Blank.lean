import Calculator.Text.CodePoints

/-!
# White space

The characters with the Unicode property White_Space, and texts without them at either end.
-/

namespace Calculator.Text

/-- The characters with the property White_Space. -/
def whiteSpace : CodePoints where
  ranges := [(0x09, 0x0D), (0x20, 0x20), (0x85, 0x85), (0xA0, 0xA0), (0x1680, 0x1680), (0x2000, 0x200A),
    (0x2028, 0x2029), (0x202F, 0x202F), (0x205F, 0x205F), (0x3000, 0x3000)]

def isWhiteSpace (c : Char) : Bool :=
  whiteSpace.has c

def trimStart (text : List Char) : List Char :=
  text.dropWhile isWhiteSpace

def trimEnd (text : List Char) : List Char :=
  (text.reverse.dropWhile isWhiteSpace).reverse

/-- A text without white space at its ends. -/
def trim (text : List Char) : List Char :=
  trimEnd (trimStart text)

/-- Whether a text consists of white space. -/
def isBlank (text : List Char) : Bool :=
  text.all isWhiteSpace

end Calculator.Text
