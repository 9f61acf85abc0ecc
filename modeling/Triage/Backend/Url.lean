import Triage.Backend.HostName
import Triage.Text.Quoted
import Triage.Text.Case
import Triage.Regex.Matcher
import Triage.Regex.Reader
import Triage.Decimal.Numeral

/-!
# Addresses

An address is cut into its parts and each part is brought into its normal form: scheme and host in
small letters, the port only where it is not the usual one of the scheme, no dots for this and the
parent directory in the path, and escapes for the characters that a part may not hold. What is an
address and what its normal form is follows version 0.28 of httpx.
-/

namespace Triage

/-- An address in its normal form. -/
structure Url where
  scheme : String
  userinfo : String
  host : String
  port : Option Int
  path : String
  query : Option String
  fragment : Option String
  deriving DecidableEq, Repr

namespace Url

open Text

/-- Why a text is no address. -/
inductive Fault where
  | tooLong
  | control (c : Char) (position : Nat)
  | ipv4 (host : String)
  | ipv6 (host : String)
  | hostName (host : String)
  | port (port : String)
  | pathAfterHost
  | pathSlashes
  | pathColon
  deriving DecidableEq, Repr

/-- The message for a fault. -/
def Fault.message : Fault → String
  | .tooLong => "URL too long"
  | .control c position =>
    s!"Invalid non-printable ASCII character in URL, {quoted c.toString} at position " ++
      s!"{ofNat position}."
  | .ipv4 host => s!"Invalid IPv4 address: {quoted host}"
  | .ipv6 host => s!"Invalid IPv6 address: {quoted host}"
  | .hostName host => s!"Invalid IDNA hostname: {quoted host}"
  | .port number => s!"Invalid port: {quoted number}"
  | .pathAfterHost => "For absolute URLs, path must be empty or begin with '/'"
  | .pathSlashes => "Relative URLs cannot have a path starting with '//'"
  | .pathColon => "Relative URLs cannot have a path starting with ':'"

/-- The longest address. -/
def lengthLimit : Nat := 65536

/-- A character that never needs an escape. -/
def isUnreserved (c : Char) : Bool := isAsciiLetter c || isAsciiDigit c || "-._~".toList.contains c

/-- Visible ASCII without the given characters. -/
def visibleBut (excluded : String) (c : Char) : Bool :=
  32 ≤ c.toNat && c.toNat < 127 && !excluded.toList.contains c

/-- What may stand in a path. -/
def pathSafe : Char → Bool := visibleBut " \"#<>?`\x7b\x7d"

/-- What may stand in a query. -/
def querySafe : Char → Bool := visibleBut " \"#<>"

/-- What may stand in a fragment. -/
def fragmentSafe : Char → Bool := visibleBut " \"<>`"

/-- What may stand before the host. -/
def userSafe : Char → Bool := visibleBut " \"#<>?`\x7b\x7d/;=@[\\]^|"

/-- What may stand in the name of a host. -/
def hostSafe (c : Char) : Bool :=
  isUnreserved c || "!$&'()*+,;=\"`\x7b\x7d%|\\".toList.contains c

/-- A character by the bytes of its UTF-8 form. -/
def escapeChar (c : Char) : List Char :=
  (c.toString.toUTF8.toList.flatMap fun b =>
    '%' :: (hex 2 b.toNat).toList.map Char.toUpper)

/-- Escapes what is not safe; an escape that is there already stays. -/
def escape (safe : Char → Bool) : List Char → List Char
  | '%' :: a :: b :: rest =>
    if (hexValue? a).isSome && (hexValue? b).isSome then '%' :: a :: b :: escape safe rest
    else (if safe '%' then ['%'] else escapeChar '%') ++ escape safe (a :: b :: rest)
  | c :: rest => (if isUnreserved c || safe c then [c] else escapeChar c) ++ escape safe rest
  | [] => []

/-- Escapes what is not safe. -/
def escapeText (safe : Char → Bool) (s : String) : String := String.ofList (escape safe s.toList)

/-- The parts of an address before they are brought into normal form. -/
structure Parts where
  scheme : String
  authority : String
  path : String
  query : Option String
  fragment : Option String

/-- Cuts at the first character that satisfies `p`; that character is dropped. -/
def cut (p : Char → Bool) (s : List Char) : List Char × Option (List Char) :=
  (s.takeWhile (!p ·), match s.dropWhile (!p ·) with
    | [] => none
    | _ :: rest => some rest)

/-- A scheme and what follows its colon. -/
def schemeOf (s : List Char) : List Char × List Char :=
  match cut (· == ':') s with
  | (scheme, some rest) =>
    let proper := match scheme with
      | [] => true
      | c :: more =>
        isAsciiLetter c &&
          more.all fun c => isAsciiLetter c || isAsciiDigit c || "+.-".toList.contains c
    if proper then (scheme, rest) else ([], s)
  | _ => ([], s)

/-- Cuts an address into parts. -/
def parts (s : List Char) : Parts :=
  let (scheme, rest) := schemeOf s
  let (authority, rest) := match rest with
    | '/' :: '/' :: rest =>
      let stop (c : Char) : Bool := c == '/' || c == '?' || c == '#'
      (rest.takeWhile (!stop ·), rest.dropWhile (!stop ·))
    | _ => ([], rest)
  let (rest, fragment) := cut (· == '#') rest
  let (path, query) := cut (· == '?') rest
  ⟨String.ofList scheme, String.ofList authority, String.ofList path, query.map String.ofList,
    fragment.map String.ofList⟩

/-- Cuts at the last character equal to `c`; that character is dropped. -/
def cutLast (c : Char) (s : List Char) : Option (List Char × List Char) :=
  if c ∈ s then
    let after := (s.reverse.takeWhile (· ≠ c)).reverse
    some (s.take (s.length - after.length - 1), after)
  else none

/-- What stands before the host, the host, and what stands after it. -/
def authorityParts (s : List Char) : List Char × List Char × List Char :=
  let (userinfo, rest) := match cutLast '@' s with
    | some (before, after) => (before, after)
    | none => ([], s)
  let (host, rest) :=
    if rest.head? = some '[' ∧ ']' ∈ rest then
      match cutLast ']' rest with
      | some (before, after) => (before ++ [']'], after)
      | none => ([], rest)
    else (rest.takeWhile (· ≠ ':'), rest.dropWhile (· ≠ ':'))
  (userinfo, host, match rest with | ':' :: rest => rest | rest => rest)

/-- The text matches an expression from its start to its end. -/
def looksLike (expression s : String) : Bool :=
  match Regex.compile false expression with
  | .ok pattern => (pattern.search? s).isSome
  | .error _ => false

/-- An octet in decimal, without zeros in front. -/
def isOctet (s : List Char) : Bool :=
  s ≠ [] && s.length ≤ 3 && s.all isAsciiDigit && (s.length = 1 || s.head? ≠ some '0') &&
    natOfDigits s ≤ 255

/-- Four octets between points. -/
def isIpv4 (s : List Char) : Bool :=
  let octets := splitChars '.' s
  octets.length == 4 && octets.all isOctet

/-- A group of an address of version six. -/
def isHexGroup (s : List Char) : Bool :=
  s ≠ [] && s.length ≤ 4 && s.all fun c => (hexValue? c).isSome

/-- The groups between colons; a text without characters has none. -/
def hexGroups (s : List Char) : List (List Char) := if s = [] then [] else splitChars ':' s

/-- Groups of which the last one may be written as four octets, which count as two groups. -/
def plainGroups (groups : List (List Char)) : List (List Char) :=
  match groups.getLast? with
  | some last => if isIpv4 last then groups.dropLast ++ [['0'], ['0']] else groups
  | none => groups

/-- Cuts at the first pair of colons. -/
def cutGap : List Char → Option (List Char × List Char)
  | ':' :: ':' :: rest => some ([], rest)
  | c :: rest => (cutGap rest).map fun (before, after) => (c :: before, after)
  | [] => none

/-- Eight groups between colons, of which one run may be left out. A zone may follow a percent
sign. -/
def isIpv6 (s : List Char) : Bool :=
  let (address, zone) := cut (· == '%') s
  let zoneFine := match zone with
    | some z => z ≠ [] && !z.contains '%'
    | none => true
  let groupsFine := match cutGap address with
    | some (before, after) =>
      let groups := hexGroups before ++ plainGroups (hexGroups after)
      groups.all isHexGroup && groups.length ≤ 7
    | none =>
      let groups := plainGroups (hexGroups address)
      groups.all isHexGroup && groups.length == 8
  zoneFine && groupsFine

/-- The name of a host in its normal form. -/
def hostOf (host : String) : Except Fault String :=
  if host = "" then .ok ""
  else if looksLike "^[0-9]+.[0-9]+.[0-9]+.[0-9]+$" host then
    if isIpv4 host.toList then .ok host else .error (.ipv4 host)
  else if looksLike "^\\[.*\\]$" host then
    let inside := (host.toList.drop 1).dropLast
    if isIpv6 inside then .ok (String.ofList inside) else .error (.ipv6 host)
  else if host.toList.all fun c => c.toNat < 128 then .ok (escapeText hostSafe (lower host))
  else
    match HostName.toAscii? (lower host) with
    | some name => .ok name
    | none => .error (.hostName host)

/-- The usual port of a scheme. -/
def usualPort : String → Option Int
  | "ftp" => some 21
  | "http" | "ws" => some 80
  | "https" | "wss" => some 443
  | _ => none

/-- The port of an address, where it is not the usual one. -/
def portOf (scheme port : String) : Except Fault (Option Int) :=
  if port = "" then .ok none
  else
    match Numeral.integer? port.toList with
    | some n => .ok (if usualPort scheme = some n then none else some n)
    | none => .error (.port port)

/-- Drops dots for this directory and resolves those for the parent. -/
def dropDots (path : String) : String :=
  let segments := split '/' path
  if segments.all fun s => s ≠ "." && s ≠ ".." then path
  else
    let kept := segments.foldl (fun (done : List String) s =>
      if s = "." then done
      else if s = ".." then (if done = [] ∨ done = [""] then done else done.dropLast)
      else done ++ [s]) []
    join "/" kept

/-- The path fits the rest of the address. -/
def checkPath (hasScheme hasHost : Bool) (path : String) : Except Fault Unit :=
  if hasHost then
    if path ≠ "" ∧ !startsWith path "/" then .error .pathAfterHost else .ok ()
  else if hasScheme then .ok ()
  else if startsWith path "//" then .error .pathSlashes
  else if startsWith path ":" then .error .pathColon
  else .ok ()

/-- Reads an address. -/
def parse (s : String) : Except Fault Url := do
  if lengthLimit < s.length then throw .tooLong
  match s.toList.find? fun c => c.toNat < 32 || c.toNat == 127 with
  | some c => throw (.control c (s.toList.takeWhile (· ≠ c)).length)
  | none => pure ()
  let p := parts s.toList
  let (userinfo, host, port) := authorityParts p.authority.toList
  let scheme := lower p.scheme
  let userinfo := escapeText userSafe (String.ofList userinfo)
  let host ← hostOf (String.ofList host)
  let port ← portOf scheme (String.ofList port)
  let hasHost := userinfo ≠ "" || host ≠ "" || port.isSome
  checkPath (scheme ≠ "") hasHost p.path
  let path := if scheme ≠ "" || hasHost then dropDots p.path else p.path
  return ⟨scheme, userinfo, host, port, escapeText pathSafe path,
    p.query.map (escapeText querySafe), p.fragment.map (escapeText fragmentSafe)⟩

/-- The path with the query; an empty path is a slash. -/
def target (u : Url) : String :=
  (if u.path = "" then "/" else u.path) ++
    match u.query with
    | some q => "?" ++ q
    | none => ""

/-- The address with another path and query. -/
def withTarget (u : Url) (target : String) : Except Fault Url := do
  let (path, query) := cut (· == '?') target.toList
  let path := String.ofList path
  let hasHost := u.userinfo ≠ "" || u.host ≠ "" || u.port.isSome
  checkPath (u.scheme ≠ "") hasHost path
  let path := if u.scheme ≠ "" || hasHost then dropDots path else path
  return { u with
    path := escapeText pathSafe path
    query := query.map fun q => escapeText querySafe (String.ofList q) }

/-- The address of a resource below a base, which ends with a slash. -/
def below (base : Url) (resource : String) : Except Fault Url := do
  let target := base.target
  let base ← base.withTarget (if endsWith target "/" then target else target ++ "/")
  base.withTarget (base.target ++ resource)

/-- The address as text. -/
def text (u : Url) : String :=
  let host := if ':' ∈ u.host.toList then "[" ++ u.host ++ "]" else u.host
  let port := match u.port with
    | some n => ":" ++ ofInt n
    | none => ""
  let authority := (if u.userinfo = "" then "" else u.userinfo ++ "@") ++ host ++ port
  (if u.scheme = "" then "" else u.scheme ++ ":") ++
    (if authority = "" then "" else "//" ++ authority) ++ u.path ++
    (match u.query with | some q => "?" ++ q | none => "") ++
    (match u.fragment with | some f => "#" ++ f | none => "")

end Url

end Triage
