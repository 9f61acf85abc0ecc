import Triage.Text.CharClass

/-!
# Cutting and joining text

Trimming, splitting, searching and replacing, stated on lists of characters so that a proof can
follow them, with versions on `String` for the callers.
-/

namespace Triage.Text

/-- Drops the longest end of the list on which `p` holds. -/
def dropEndWhile (p : Char → Bool) (s : List Char) : List Char :=
  (s.reverse.dropWhile p).reverse

/-- Drops space at both ends. -/
def trimChars (s : List Char) : List Char := dropEndWhile isSpace (s.dropWhile isSpace)

/-- Drops space at both ends. -/
def trim (s : String) : String := String.ofList (trimChars s.toList)

/-- There is nothing but space. -/
def isBlankText (s : String) : Bool := s.toList.all isSpace

/-- Drops every slash at the end. -/
def trimEndSlashes (s : String) : String := String.ofList (dropEndWhile (· == '/') s.toList)

/-- The parts between separators; there is always at least one. -/
def splitChars (separator : Char) : List Char → List (List Char)
  | [] => [[]]
  | c :: rest =>
    match splitChars separator rest with
    | [] => [[]]
    | part :: parts => if c = separator then [] :: part :: parts else (c :: part) :: parts

/-- The parts between separators; there is always at least one. -/
def split (separator : Char) (s : String) : List String :=
  (splitChars separator s.toList).map String.ofList

/-- `needle` stands somewhere in `hay`. -/
def occursIn (needle : List Char) : List Char → Bool
  | [] => needle.isEmpty
  | c :: rest => needle.isPrefixOf (c :: rest) || occursIn needle rest

/-- `needle` stands somewhere in `hay`. -/
def contains (hay needle : String) : Bool := occursIn needle.toList hay.toList

/-- The text starts with `start`. -/
def startsWith (s start : String) : Bool := start.toList.isPrefixOf s.toList

theorem startsWith_iff {s start : String} :
    startsWith s start = true ↔ start.toList <+: s.toList := List.isPrefixOf_iff_prefix

/-- The text ends with `ending`. -/
def endsWith (s ending : String) : Bool := ending.toList.isSuffixOf s.toList

/-- The first `n` characters. -/
def takeFirst (n : Nat) (s : String) : String := String.ofList (s.toList.take n)

/-- All but the first `n` characters. -/
def dropFirst (n : Nat) (s : String) : String := String.ofList (s.toList.drop n)

/-- Replaces every occurrence of the non-empty `old`, from left to right and without overlap;
`skip` characters of an occurrence already replaced are passed over. -/
def replaceFrom (old new : List Char) : Nat → List Char → List Char
  | _, [] => []
  | skip + 1, _ :: rest => replaceFrom old new skip rest
  | 0, c :: rest =>
    if old.isPrefixOf (c :: rest) then new ++ replaceFrom old new (old.length - 1) rest
    else c :: replaceFrom old new 0 rest

/-- Replaces every occurrence of a non-empty text. -/
def replace (s old new : String) : String :=
  String.ofList (replaceFrom old.toList new.toList 0 s.toList)

/-- Joins texts with a separator between neighbours. -/
def join (separator : String) (parts : List String) : String := separator.intercalate parts

/-- Fills up with spaces at the end to a width of `n` characters. -/
def padEnd (n : Nat) (s : String) : String := s ++ String.ofList (List.replicate (n - s.length) ' ')

/-- A carriage return, with or without a line feed, becomes a line feed. -/
def unifyNewlines : List Char → List Char
  | [] => []
  | '\r' :: '\n' :: rest => '\n' :: unifyNewlines rest
  | '\r' :: rest => '\n' :: unifyNewlines rest
  | c :: rest => c :: unifyNewlines rest

/-- Decimal digits of a number. -/
def ofNat (n : Nat) : String := String.ofList (Nat.toDigits 10 n)

/-- Decimal digits of a number, after a minus sign where it is negative. -/
def ofInt : Int → String
  | .ofNat n => ofNat n
  | .negSucc n => "-" ++ ofNat (n + 1)

/-- `n` in base sixteen, small letters, filled up with zeros to `width` digits. -/
def hex (width n : Nat) : String :=
  let digits := Nat.toDigits 16 n
  String.ofList (List.replicate (width - digits.length) '0' ++ digits)

/-- The value of a digit in base sixteen. -/
def hexValue? (c : Char) : Option Nat :=
  if isAsciiDigit c then some (c.toNat - 48)
  else if 'a' ≤ c ∧ c ≤ 'f' then some (c.toNat - 87)
  else if 'A' ≤ c ∧ c ≤ 'F' then some (c.toNat - 55)
  else none

/-- The number that a row of ASCII digits denotes. -/
def natOfDigits (digits : List Char) : Nat :=
  digits.foldl (fun n c => 10 * n + (c.toNat - 48)) 0

end Triage.Text
