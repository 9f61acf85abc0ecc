import Triage.Text.Basic

/-!
# The letters of a written expression

An expression is read letter by letter, where a backslash makes one letter together with the
character after it. `escape` writes a text as the expression that stands for just that text.
-/

namespace Triage.Regex

/-- A letter of a written expression. A backslash that ends it escapes nothing. -/
inductive Token where
  | char (c : Char)
  | escape (c : Char)
  | dangling
  deriving DecidableEq, Repr

/-- The letters of a text. -/
def tokens : List Char → List Token
  | [] => []
  | ['\\'] => [.dangling]
  | '\\' :: c :: rest => .escape c :: tokens rest
  | c :: rest => .char c :: tokens rest

/-- A letter as it was written. -/
def Token.text : Token → List Char
  | .char c => [c]
  | .escape c => ['\\', c]
  | .dangling => ['\\']

/-- The characters that have a meaning of their own somewhere in an expression. -/
def special : List Char :=
  "()[]\x7b\x7d?*+-|^$\\.&~# \t\n\r".toList ++ [Char.ofNat 11, Char.ofNat 12]

/-- One character, written so that it stands for itself. -/
def escapeChar (c : Char) : List Char := if c ∈ special then ['\\', c] else [c]

/-- A text, written so that it stands for itself. -/
def escape (s : List Char) : List Char := s.flatMap escapeChar

end Triage.Regex
