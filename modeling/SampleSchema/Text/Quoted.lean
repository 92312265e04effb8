import SampleSchema.Text.Hex
import SampleSchema.Text.Printable
/-!
Text in quotes, as messages show names of files. Apostrophes are put around it,
or double quotes if it holds apostrophes and no double quotes. Backslashes, the
quotes around it and characters that cannot be shown are escaped.
-/

namespace SampleSchema.Text.Quoted

def quoteChar (quote c : Char) : List Char :=
  if c = quote ∨ c = '\\' then ['\\', c]
  else if c = '\n' then ['\\', 'n']
  else if c = '\r' then ['\\', 'r']
  else if c = '\t' then ['\\', 't']
  else if isPrintable c then [c]
  else if c.toNat < 0x100 then '\\' :: 'x' :: Hex.digits 2 c.toNat
  else if c.toNat < 0x10000 then '\\' :: 'u' :: Hex.digits 4 c.toNat
  else '\\' :: 'U' :: Hex.digits 8 c.toNat

/-- The quotes that a text is put in. -/
def quoteFor (s : List Char) : Char :=
  if s.contains '\'' && !s.contains '"' then '"' else '\''

def quote (s : String) : String :=
  let q := quoteFor s.toList
  String.ofList (q :: s.toList.flatMap (quoteChar q) ++ [q])

end SampleSchema.Text.Quoted
