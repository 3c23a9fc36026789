/-!
# Places in a text

What a pattern can demand of a place in a text without reading a character there.
-/

namespace Calculator.Pattern

/-- What can be demanded of a place in a text. Words are of ASCII characters but for `unicodeWord`, which stands for
the boundaries of other words and which no place meets. -/
inductive Place
  | textStart
  | textEnd
  | lineStart
  | lineEnd
  | returnedLineStart
  | returnedLineEnd
  | wordBoundary
  | noWordBoundary
  | wordStart
  | wordEnd
  | wordStartHalf
  | wordEndHalf
  | unicodeWord
deriving DecidableEq, Repr

namespace Place

def isWordChar (c : Char) : Bool :=
  c.isAlphanum || c = '_'

/-- Whether a place between two characters, or at an end of the text, is as demanded. -/
def holds (before after : Option Char) : Place → Bool
  | textStart => before.isNone
  | textEnd => after.isNone
  | lineStart => before.all (· = '\n')
  | lineEnd => after.all (· = '\n')
  | returnedLineStart => before.all fun c => c = '\n' || (c = '\r' && after ≠ some '\n')
  | returnedLineEnd => after.all fun c => c = '\r' || (c = '\n' && before ≠ some '\r')
  | wordBoundary => before.any isWordChar ≠ after.any isWordChar
  | noWordBoundary => before.any isWordChar = after.any isWordChar
  | wordStart => !before.any isWordChar && after.any isWordChar
  | wordEnd => before.any isWordChar && !after.any isWordChar
  | wordStartHalf => !before.any isWordChar
  | wordEndHalf => !after.any isWordChar
  | unicodeWord => false

end Place

end Calculator.Pattern
