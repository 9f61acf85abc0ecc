import Triage.Text.Point

/-!
# UTF-8

A sequence of bytes is read one character at a time. The first byte of a character says which
ranges the following bytes owe; a byte outside its range, or the end of the bytes, is a fault that
covers the first byte and every following byte that was still right.

Every character can be written, but no half of a surrogate pair can. Where one stands alone, the fault
covers it and the halves right after it.
-/

namespace Triage.Text.Utf8

/-- Why bytes are not UTF-8. -/
inductive Reason where
  | start
  | continuation
  | ending
  deriving DecidableEq, Repr

/-- A fault: its reason, the byte it starts at, how many bytes it covers and the first of them. -/
structure Fault where
  reason : Reason
  position : Nat
  width : Nat
  byte : Nat
  deriving DecidableEq, Repr

/-- The words for a reason. -/
def Reason.text : Reason → String
  | .start => "invalid start byte"
  | .continuation => "invalid continuation byte"
  | .ending => "unexpected end of data"

/-- The message for a fault: one byte is shown, several are given by position only. -/
def Fault.message (f : Fault) : String :=
  let place :=
    if f.width = 1 then s!"byte 0x{hex 2 f.byte} in position {ofNat f.position}"
    else s!"bytes in position {ofNat f.position}-{ofNat (f.position + f.width - 1)}"
  s!"'utf-8' codec can't decode {place}: {f.reason.text}"

/-- What the first byte of a character settles: the bits it carries and the ranges that the
following bytes must lie in. -/
structure Lead where
  bits : Nat
  owed : List (Nat × Nat)

/-- The plain range of a following byte. -/
def tail : Nat × Nat := (0x80, 0xbf)

/-- Reads the first byte of a character. -/
def lead? (b : Nat) : Option Lead :=
  if b < 0x80 then some ⟨b, []⟩
  else if b < 0xc2 then none
  else if b < 0xe0 then some ⟨b - 0xc0, [tail]⟩
  else if b = 0xe0 then some ⟨0, [(0xa0, 0xbf), tail]⟩
  else if b = 0xed then some ⟨0xd, [(0x80, 0x9f), tail]⟩
  else if b < 0xf0 then some ⟨b - 0xe0, [tail, tail]⟩
  else if b = 0xf0 then some ⟨0, [(0x90, 0xbf), tail, tail]⟩
  else if b < 0xf4 then some ⟨b - 0xf0, [tail, tail, tail]⟩
  else if b = 0xf4 then some ⟨4, [(0x80, 0x8f), tail, tail]⟩
  else none

/-- Where a reader stands: between characters, or inside one that started at `position` with
`byte`, has given `bits` by `width` bytes and owes more. -/
inductive State where
  | between
  | inside (position byte width bits : Nat) (next : Nat × Nat) (owed : List (Nat × Nat))

/-- Reads the bytes from position `at` on. -/
def decodeFrom : State → Nat → List Nat → Except Fault (List Char)
  | .between, _, [] => .ok []
  | .inside position byte width _ _ _, _, [] => .error ⟨.ending, position, width, byte⟩
  | .between, i, b :: rest =>
    match lead? b with
    | none => .error ⟨.start, i, 1, b⟩
    | some ⟨bits, []⟩ => (decodeFrom .between (i + 1) rest).map (Char.ofNat bits :: ·)
    | some ⟨bits, next :: owed⟩ => decodeFrom (.inside i b 1 bits next owed) (i + 1) rest
  | .inside position byte width bits next owed, i, b :: rest =>
    if next.1 ≤ b ∧ b ≤ next.2 then
      let bits := bits * 64 + (b - 0x80)
      match owed with
      | [] => (decodeFrom .between (i + 1) rest).map (Char.ofNat bits :: ·)
      | next :: owed => decodeFrom (.inside position byte (width + 1) bits next owed) (i + 1) rest
    else .error ⟨.continuation, position, width, byte⟩

/-- Reads bytes as UTF-8. -/
def decode (bytes : List UInt8) : Except Fault (List Char) :=
  decodeFrom .between 0 (bytes.map UInt8.toNat)

/-- Why code points cannot be written: the codes of the first halves that stand alone, and where. -/
structure EncodeFault where
  position : Nat
  halves : List Nat
  deriving DecidableEq, Repr

/-- The message for a fault: one half is shown, several are given by position only. -/
def EncodeFault.message (f : EncodeFault) : String :=
  let place := match f.halves with
    | [code] => "character '\\u" ++ hex 4 code ++ "' in position " ++ ofNat f.position
    | halves => s!"characters in position {ofNat f.position}-" ++
        ofNat (f.position + halves.length - 1)
  s!"'utf-8' codec can't encode {place}: surrogates not allowed"

/-- The fault of code points among which some half stands alone. -/
def encodeFault (points : List Point) : EncodeFault where
  position := (points.takeWhile (·.half?.isNone)).length
  halves := ((points.dropWhile (·.half?.isNone)).takeWhile (·.half?.isSome)).filterMap Point.half?

end Triage.Text.Utf8
