import Triage.Text.Basic

/-!
# Quoted text

A text as a message quotes it: between single quotes, or between double quotes where that saves
escaping; the backslash, the quote in use and all characters without a visible form are escaped.
-/

namespace Triage.Text

/-- One character inside quotes of the kind `quote`. -/
def quoteChar (quote c : Char) : List Char :=
  if c = quote ∨ c = '\\' then ['\\', c]
  else if c = '\n' then ['\\', 'n']
  else if c = '\r' then ['\\', 'r']
  else if c = '\t' then ['\\', 't']
  else if isPrintable c then [c]
  else if c.toNat < 256 then ("\\x" ++ hex 2 c.toNat).toList
  else if c.toNat < 65536 then ("\\u" ++ hex 4 c.toNat).toList
  else ("\\U" ++ hex 8 c.toNat).toList

/-- Single quotes, unless the text holds one and no double quote. -/
def quoteFor (s : List Char) : Char := if '\'' ∈ s ∧ '"' ∉ s then '"' else '\''

/-- The text in quotes. -/
def quoted (s : String) : String :=
  let quote := quoteFor s.toList
  String.ofList (quote :: s.toList.flatMap (quoteChar quote) ++ [quote])

end Triage.Text
