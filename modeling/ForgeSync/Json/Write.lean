import ForgeSync.Json.Value

/-!
# Writing JSON text

The compact form in which the client sends a body and in which answers are written: no
blank anywhere, object members sorted by name (byte order of their UTF-8 text, which is the
order of their code points) with each name once at its last value, and strings escaped as
little as the standard allows — the quote, the backslash and the control characters, the
common ones by their short escape and the rest as lowercase four-digit unicode escapes.
Every other character, ASCII or not, is written as itself.
-/

namespace ForgeSync

/-- The written form of a number: an exact integer in decimal, any other as it was read. -/
def Number.write : Number → String
  | .int i => toString i
  | .real literal => literal

namespace Json

/-- Lowercase hexadecimal digit of a number below sixteen. -/
def hexDigit (n : Nat) : Char :=
  if n < 10 then Char.ofNat (0x30 + n) else Char.ofNat (0x61 + n - 10)

/-- The written form of one character inside a string. -/
def escapeChar (c : Char) : List Char :=
  if c = '"' then ['\\', '"']
  else if c = '\\' then ['\\', '\\']
  else if c = '\n' then ['\\', 'n']
  else if c = '\r' then ['\\', 'r']
  else if c = '\t' then ['\\', 't']
  else if c = '\x08' then ['\\', 'b']
  else if c = '\x0c' then ['\\', 'f']
  else if c.toNat < 0x20 then
    ['\\', 'u', '0', '0', hexDigit (c.toNat / 16), hexDigit (c.toNat % 16)]
  else [c]

/-- A string as a quoted JSON string. -/
def quote (s : String) : String :=
  String.ofList ('"' :: (s.toList.flatMap escapeChar ++ ['"']))

/-- Members with each name once, at its last value, sorted by name. -/
def sortedMembers (members : List (String × String)) : List (String × String) :=
  let lastFirst := members.reverse.foldl
    (fun acc m => if acc.any (fun a => a.1 == m.1) then acc else acc ++ [m]) []
  lastFirst.mergeSort (fun a b => decide (a.1 ≤ b.1))

mutual

/-- The compact text of a value. -/
def render : Json → String
  | .null => "null"
  | .bool true => "true"
  | .bool false => "false"
  | .num n => n.write
  | .str s => quote s
  | .arr items => "[" ++ ",".intercalate (renderItems items) ++ "]"
  | .obj members =>
    "\x7b" ++ ",".intercalate ((sortedMembers (renderMembers members)).map
      (fun m => quote m.1 ++ ":" ++ m.2)) ++ "\x7d"

/-- The compact texts of the items of an array. -/
def renderItems : List Json → List String
  | [] => []
  | j :: js => render j :: renderItems js

/-- The names and compact value texts of the members of an object. -/
def renderMembers : List (String × Json) → List (String × String)
  | [] => []
  | (k, v) :: ms => (k, render v) :: renderMembers ms

end

/-- The UTF-8 bytes of the compact text of a value. -/
def toBytes (j : Json) : List UInt8 :=
  (render j).toUTF8.toList

end Json

end ForgeSync
