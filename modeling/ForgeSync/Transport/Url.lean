import ForgeSync.Json.Write

/-!
# Web addresses

The client sends requests to absolute `http` and `https` addresses.  An address it cannot
build is refused before anything is sent, so the client needs to know which addresses are
well formed.  For these two schemes the standard URL grammar comes down to the authority:
after the scheme and any run of slashes comes an optional user part ending at the last `@`,
then a host, then an optional port of decimal digits not above 65535.  The host is an IPv6
address in brackets, or a domain: its percent escapes are decoded, ASCII letters are folded
to lower case, and the result must be non-empty, free of the characters a domain may not
hold, and, when its last label is a number, a valid IPv4 address in one of the dotted forms
(decimal, octal with a leading zero, hexadecimal with `0x`).  The path, query and fragment
never make an address invalid, since they are percent-encoded as needed.  Tabs and line
breaks anywhere, and control characters and spaces at the ends, are dropped first.

Non-ASCII domains are taken as they are, apart from C1 controls and U+FFFD, which no
domain may hold.

Query pairs are added to an address in the form encoding: ASCII letters, digits and
`*-._` stay, a space becomes `+`, and every other byte is escaped.
-/

namespace ForgeSync

namespace Url

/-- Characters that may not appear in a domain. -/
def isForbiddenDomainChar (c : Char) : Bool :=
  c.val < 0x20 || c.val == 0x7F || " #%/:<>?@[\\]^|".toList.contains c

/-- Whether a character is an ASCII hexadecimal digit. -/
def isHexChar (c : Char) : Bool :=
  c.isDigit || ('a' ≤ c && c ≤ 'f') || ('A' ≤ c && c ≤ 'F')

/-- The value of a hexadecimal digit. -/
def hexCharValue (c : Char) : Nat :=
  if c.isDigit then c.toNat - 48
  else if 'a' ≤ c && c ≤ 'f' then c.toNat - 87
  else c.toNat - 55

/-! ### IPv6 -/

/-- Up to `n` hexadecimal digits at the front: how many, and the rest. -/
def hexRun : Nat → List Char → Nat × List Char
  | n + 1, c :: cs =>
    if isHexChar c then
      let (k, rest) := hexRun n cs
      (k + 1, rest)
    else (0, c :: cs)
  | _, cs => (0, cs)

/-- One decimal part of a dotted IPv4 address inside an IPv6 address: digits without a
leading zero, at most 255; the rest after it. -/
def decimalOctet (cs : List Char) : Option (List Char) :=
  let (ds, rest) := cs.span Char.isDigit
  if ds.isEmpty then none
  else if ds.length > 1 && ds.head? == some '0' then none
  else if ds.foldl (fun acc d => acc * 10 + (d.toNat - 48)) 0 > 255 then none
  else some rest

/-- Exactly four decimal parts separated by points, and nothing after them. -/
def dottedQuad (cs : List Char) : Bool :=
  match decimalOctet cs with
  | some ('.' :: r1) =>
    match decimalOctet r1 with
    | some ('.' :: r2) =>
      match decimalOctet r2 with
      | some ('.' :: r3) => decimalOctet r3 == some []
      | _ => false
    | _ => false
  | _ => false

/-- What `hexRun` leaves is never longer than what it was given. -/
theorem hexRun_rest_length (n : Nat) (cs : List Char) : (hexRun n cs).2.length ≤ cs.length := by
  induction n generalizing cs with
  | zero => simp [hexRun]
  | succ n ih =>
    cases cs with
    | nil => simp [hexRun]
    | cons x xs =>
      simp only [hexRun]
      split
      · have := ih xs
        simp only [List.length_cons]
        omega
      · simp

/-- Check the pieces of an IPv6 address from piece `index` on; `compressed` says whether
`::` was seen.  Each step consumes at least one character. -/
def ipv6Pieces (index : Nat) (compressed : Bool) (cs : List Char) : Bool :=
  match cs with
  | [] => compressed || index == 8
  | c :: rest =>
    if index == 8 then false
    else if c == ':' then
      if compressed then false else ipv6Pieces (index + 1) true rest
    else
      match h : hexRun 4 (c :: rest) with
      | (len, '.' :: _) =>
        len > 0 && index ≤ 6 && dottedQuad (c :: rest) && (compressed || index + 2 == 8)
      | (_, [':']) => false
      | (len, ':' :: more) =>
        if len == 0 then false else ipv6Pieces (index + 1) compressed more
      | (len, []) => len > 0 && (compressed || index + 1 == 8)
      | _ => false
termination_by cs.length
decreasing_by
  · simp
  · have hle := hexRun_rest_length 4 (c :: rest)
    rw [h] at hle
    simp only [List.length_cons] at hle ⊢
    omega

/-- Whether a text is an IPv6 address as written between brackets. -/
def validIpv6 (cs : List Char) : Bool :=
  match cs with
  | ':' :: ':' :: rest => ipv6Pieces 1 true rest
  | ':' :: _ => false
  | _ => ipv6Pieces 0 false cs

/-! ### IPv4 -/

/-- The value of one part of an IPv4 address: decimal, octal after a leading zero, or
hexadecimal after `0x`; an empty part after a prefix is zero. -/
def ipv4Number (cs : List Char) : Option Nat :=
  match cs with
  | [] => none
  | '0' :: x :: rest =>
    if x == 'x' || x == 'X' then
      if rest.all isHexChar then some (rest.foldl (fun acc d => acc * 16 + hexCharValue d) 0)
      else none
    else
      let ds := x :: rest
      if ds.all (fun d => '0' ≤ d && d ≤ '7') then
        some (ds.foldl (fun acc d => acc * 8 + (d.toNat - 48)) 0)
      else none
  | ds =>
    if ds.all Char.isDigit then some (ds.foldl (fun acc d => acc * 10 + (d.toNat - 48)) 0)
    else none

/-- The labels of a domain, without one empty label at the end. -/
def labels (cs : List Char) : List (List Char) :=
  let parts := cs.splitOn '.'
  if parts.length > 1 && parts.getLast? == some [] then parts.dropLast else parts

/-- Whether a domain's last label is a number, which makes it an IPv4 address. -/
def endsInNumber (cs : List Char) : Bool :=
  match (labels cs).getLast? with
  | some last =>
    (!last.isEmpty && last.all Char.isDigit) ||
      (match last with
        | '0' :: x :: rest => (x == 'x' || x == 'X') && rest.all isHexChar
        | _ => false)
  | none => false

/-- Whether a domain that ends in a number is a valid IPv4 address: at most four parts, each
but the last at most 255, and the last filling the bytes that are left. -/
def validIpv4 (cs : List Char) : Bool :=
  let parts := if cs.getLast? == some '.' then (cs.splitOn '.').dropLast else cs.splitOn '.'
  if parts.length > 4 then false
  else
    match parts.mapM ipv4Number with
    | none => false
    | some numbers =>
      match numbers.getLast? with
      | none => false
      | some last =>
        numbers.dropLast.all (· ≤ 255) && last < Nat.pow 256 (5 - numbers.length)

/-! ### Hosts and authorities -/

/-- Decode the percent escapes of a text into bytes; a `%` not followed by two hexadecimal
digits stays as it is. -/
def percentDecode : List Char → List UInt8
  | '%' :: a :: b :: rest =>
    if isHexChar a && isHexChar b then
      (hexCharValue a * 16 + hexCharValue b).toUInt8 :: percentDecode rest
    else (String.utf8EncodeChar '%') ++ percentDecode (a :: b :: rest)
  | c :: rest => String.utf8EncodeChar c ++ percentDecode rest
  | [] => []

/-- Whether a non-bracketed host is a valid domain or IPv4 address. -/
def validDomain (host : List Char) : Bool :=
  match String.fromUTF8? ⟨(percentDecode host).toArray⟩ with
  | none => false
  | some decoded =>
    let cs := decoded.toList.map Char.toLower
    !cs.isEmpty &&
      cs.all (fun c => !isForbiddenDomainChar c && !(0x80 ≤ c.val && c.val < 0xA0) &&
        c.val != 0xFFFD) &&
      (!endsInNumber cs || validIpv4 cs)

/-- Whether a host is valid: an IPv6 address in brackets, or a domain. -/
def validHost (host : List Char) : Bool :=
  match host with
  | '[' :: rest =>
    match rest.getLast? with
    | some ']' => validIpv6 rest.dropLast
    | _ => false
  | _ => validDomain host

/-- The host of a host-and-port text, up to the first colon outside brackets, and what
follows that colon, if there is one. -/
def splitPort (inBrackets : Bool) : List Char → List Char × Option (List Char)
  | [] => ([], none)
  | c :: rest =>
    if c == ':' && !inBrackets then ([], some rest)
    else
      let inside := if c == '[' then true else if c == ']' then false else inBrackets
      let (h, p) := splitPort inside rest
      (c :: h, p)

/-- Whether a port text is digits of a value at most 65535 (an empty port is allowed). -/
def validPort (cs : List Char) : Bool :=
  cs.all Char.isDigit && cs.foldl (fun acc d => acc * 10 + (d.toNat - 48)) 0 ≤ 65535

/-- Whether an authority (user part, host and port) is valid. -/
def validAuthority (authority : List Char) : Bool :=
  let hostPort := (authority.splitOn '@').getLast?.getD []
  let (host, port) := splitPort false hostPort
  !host.isEmpty && validHost host && (port.map validPort).getD true

/-- Whether a character ends the authority. -/
def endsAuthority (c : Char) : Bool :=
  c == '/' || c == '?' || c == '#' || c == '\\'

/-- Whether a character is a C0 control or a space. -/
def isControlOrSpace (c : Char) : Bool := c.val ≤ 0x20

/-- Whether an absolute `http` or `https` address is well formed. -/
def valid (url : String) : Bool :=
  let cs := ((url.toList.dropWhile isControlOrSpace).reverse.dropWhile isControlOrSpace).reverse
  let cs := cs.filter (fun c => c != '\t' && c != '\n' && c != '\r')
  let afterScheme :=
    if "https:".toList.isPrefixOf cs then some (cs.drop 6)
    else if "http:".toList.isPrefixOf cs then some (cs.drop 5)
    else none
  match afterScheme with
  | none => false
  | some rest =>
    let rest := rest.dropWhile (fun c => c == '/' || c == '\\')
    validAuthority (rest.takeWhile (fun c => !endsAuthority c))

/-! ### Query strings -/

/-- The form encoding of one byte. -/
def formByte (b : UInt8) : List Char :=
  let c := Char.ofNat b.toNat
  if c.isAlphanum || c == '*' || c == '-' || c == '.' || c == '_' then [c]
  else if b == 0x20 then ['+']
  else ['%', Json.hexDigit (b.toNat / 16), Json.hexDigit (b.toNat % 16)].map Char.toUpper

/-- The form encoding of a text. -/
def formEncode (s : String) : String :=
  String.ofList (s.toUTF8.toList.flatMap formByte)

/-- Query pairs in the form encoding, joined with `&`. -/
def formQuery (pairs : List (String × String)) : String :=
  "&".intercalate (pairs.map (fun (k, v) => formEncode k ++ "=" ++ formEncode v))

/-- An address with query pairs added. -/
def withQuery (url : String) (pairs : List (String × String)) : String :=
  if pairs.isEmpty then url
  else url ++ (if url.contains '?' then "&" else "?") ++ formQuery pairs

end Url

end ForgeSync
