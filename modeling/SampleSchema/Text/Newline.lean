/-!
Line ends in text files. A carriage return, alone or before a line feed, is read
as a line feed.
-/

namespace SampleSchema.Text

/-- Turn every line end into a line feed. -/
def lineFeedsOnly : List Char → List Char
  | [] => []
  | '\r' :: '\n' :: rest => '\n' :: lineFeedsOnly rest
  | '\r' :: rest => '\n' :: lineFeedsOnly rest
  | c :: rest => c :: lineFeedsOnly rest

end SampleSchema.Text
