/-!
# Lines

Bytes are cut into lines behind every line feed. The last line may lack one; no line is empty. A line's text is what it
encodes in UTF-8, if it does, and its content is the text without the line feed and a carriage return before it.
-/

namespace Calculator.Text

/-- The lines of some bytes, with their line feeds. -/
def lines (bytes : List UInt8) : List (List UInt8) :=
  let pieces := bytes.splitOn 10
  (pieces.dropLast.map (· ++ [10])) ++ (pieces.getLast?.filter (· ≠ [])).toList

/-- The text that bytes encode. -/
def decode? (bytes : List UInt8) : Option (List Char) :=
  (String.fromUTF8? bytes.toByteArray).map String.toList

/-- A line without its ending. A carriage return belongs to the ending only before a line feed. -/
def content (line : List Char) : List Char :=
  match line.reverse with
  | '\n' :: '\r' :: rest => rest.reverse
  | '\n' :: rest => rest.reverse
  | _ => line

end Calculator.Text
