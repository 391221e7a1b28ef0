import ForgeSync.Json.Value

/-!
# Reading JSON text

A strict reader of JSON text given as bytes.  It accepts exactly the grammar of RFC 8259:
blanks are space, tab, line feed and carriage return; a number has no leading zero, a point
and an exponent mark each need a digit after them; a string holds no raw control byte, only
the escapes of the standard, and a surrogate escape only as half of a pair; the bytes of a
string are UTF-8.  Nesting is limited to 127 levels, and nothing but blanks may follow the
value.

The reader runs on fuel: each call that reads a value or a member consumes at least one byte
before it recurses, so the length of the text plus one is always enough.
-/

namespace ForgeSync

namespace Json

/-- The bytes JSON allows between tokens. -/
def isBlankByte (b : UInt8) : Bool :=
  b == 0x20 || b == 0x09 || b == 0x0A || b == 0x0D

/-- Whether a byte is an ASCII decimal digit. -/
def isDigitByte (b : UInt8) : Bool :=
  0x30 ≤ b && b ≤ 0x39

/-- Drop leading blanks. -/
def skipBlank : List UInt8 → List UInt8
  | b :: rest => if isBlankByte b then skipBlank rest else b :: rest
  | [] => []

/-- The value of a list of decimal digit bytes. -/
def digitsValue (ds : List UInt8) : Nat :=
  ds.foldl (fun acc d => acc * 10 + (d.toNat - 0x30)) 0

/-- Text of a list of ASCII bytes. -/
def asciiText (bs : List UInt8) : String :=
  String.ofList (bs.map (fun b => Char.ofNat b.toNat))

/-- The digits at the front and the rest, failing when there is none. -/
def someDigits (bs : List UInt8) : Option (List UInt8 × List UInt8) :=
  match bs.span isDigitByte with
  | ([], _) => none
  | (ds, rest) => some (ds, rest)

/-- The optional fraction part: nothing, or a point and at least one digit. -/
def fractionPart : List UInt8 → Option (List UInt8 × List UInt8)
  | 0x2E :: rest => (someDigits rest).map (fun (ds, r) => (0x2E :: ds, r))
  | bs => some ([], bs)

/-- The optional exponent part: nothing, or a mark, an optional sign and at least one digit. -/
def exponentPart : List UInt8 → Option (List UInt8 × List UInt8)
  | e :: rest =>
    if e == 0x65 || e == 0x45 then
      match rest with
      | s :: rest' =>
        if s == 0x2B || s == 0x2D then
          (someDigits rest').map (fun (ds, r) => (e :: s :: ds, r))
        else (someDigits (s :: rest')).map (fun (ds, r) => (e :: ds, r))
      | [] => none
    else some ([], e :: rest)
  | [] => some ([], [])

/-- Classify a number literal: an integer literal is exact when it fits an unsigned 64-bit
word, or a signed one when negative; negative zero and every other literal are kept as text. -/
def numberOf (negative : Bool) (intDigits frac expo : List UInt8) : Number :=
  let literal := asciiText ((if negative then [0x2D] else []) ++ intDigits ++ frac ++ expo)
  if frac.isEmpty && expo.isEmpty then
    let v := digitsValue intDigits
    if negative then
      if v == 0 || v > Nat.pow 2 63 then .real literal else .int (-(v : Int))
    else if v < Nat.pow 2 64 then .int v else .real literal
  else .real literal

/-- Read a number at the front of the bytes. -/
def readNumber (bs : List UInt8) : Option (Number × List UInt8) := do
  let (negative, body) := match bs with
    | 0x2D :: rest => (true, rest)
    | _ => (false, bs)
  let (intDigits, rest) ← someDigits body
  -- a leading zero stands alone
  if intDigits.length > 1 && intDigits.head? == some 0x30 then none
  let (frac, rest) ← fractionPart rest
  let (expo, rest) ← exponentPart rest
  pure (numberOf negative intDigits frac expo, rest)

/-- The value of a hexadecimal digit byte. -/
def hexValue? (b : UInt8) : Option Nat :=
  if 0x30 ≤ b && b ≤ 0x39 then some (b.toNat - 0x30)
  else if 0x61 ≤ b && b ≤ 0x66 then some (b.toNat - 0x61 + 10)
  else if 0x41 ≤ b && b ≤ 0x46 then some (b.toNat - 0x41 + 10)
  else none

/-- Four hexadecimal digits at the front, as a 16-bit code unit. -/
def readHex4 : List UInt8 → Option (Nat × List UInt8)
  | a :: b :: c :: d :: rest => do
    let va ← hexValue? a
    let vb ← hexValue? b
    let vc ← hexValue? c
    let vd ← hexValue? d
    pure (((va * 16 + vb) * 16 + vc) * 16 + vd, rest)
  | _ => none

/-- The code point of a unicode escape, after its backslash and letter: a surrogate must be
the leading half of a pair whose trailing half follows as a second escape. -/
def readUnicodeEscape (bs : List UInt8) : Option (Nat × List UInt8) := do
  let (u, rest) ← readHex4 bs
  if 0xD800 ≤ u && u < 0xDC00 then
    match rest with
    | 0x5C :: 0x75 :: rest' =>
      let (v, rest'') ← readHex4 rest'
      if 0xDC00 ≤ v && v < 0xE000 then
        pure (0x10000 + (u - 0xD800) * 0x400 + (v - 0xDC00), rest'')
      else none
    | _ => none
  else if 0xDC00 ≤ u && u < 0xE000 then none
  else pure (u, rest)

/-- The character an escape letter stands for, other than a unicode escape. -/
def simpleEscape? (b : UInt8) : Option Char :=
  match b with
  | 0x22 => some '"'
  | 0x5C => some '\\'
  | 0x2F => some '/'
  | 0x62 => some '\x08'
  | 0x66 => some '\x0c'
  | 0x6E => some '\n'
  | 0x72 => some '\r'
  | 0x74 => some '\t'
  | _ => none

/-- Read the body of a string after its opening quote, gathering its UTF-8 bytes in reverse;
the bytes are checked to be UTF-8 once the closing quote is reached. -/
def readStringBody (fuel : Nat) (acc : List UInt8) (bs : List UInt8) :
    Option (String × List UInt8) :=
  match fuel with
  | 0 => none
  | fuel + 1 =>
    match bs with
    | [] => none
    | 0x22 :: rest => (String.fromUTF8? ⟨acc.reverse.toArray⟩).map (fun s => (s, rest))
    | 0x5C :: e :: rest =>
      if e == 0x75 then
        match readUnicodeEscape rest with
        | some (cp, rest') =>
          readStringBody fuel ((String.utf8EncodeChar (Char.ofNat cp)).reverse ++ acc) rest'
        | none => none
      else
        match simpleEscape? e with
        | some c => readStringBody fuel ((String.utf8EncodeChar c).reverse ++ acc) rest
        | none => none
    | b :: rest => if b < 0x20 then none else readStringBody fuel (b :: acc) rest

/-- Read a string at the front, starting with its opening quote. -/
def readString (bs : List UInt8) : Option (String × List UInt8) :=
  match bs with
  | 0x22 :: rest => readStringBody (rest.length + 1) [] rest
  | _ => none

/-- Read a literal word such as `true` at the front. -/
def readLiteral (word : List UInt8) (bs : List UInt8) : Option (List UInt8) :=
  if word.isPrefixOf bs then some (bs.drop word.length) else none

mutual

/-- Read one value after optional blanks; `depth` is the number of levels still allowed. -/
def readValue (fuel depth : Nat) (bs : List UInt8) : Option (Json × List UInt8) :=
  match fuel with
  | 0 => none
  | fuel + 1 =>
    match skipBlank bs with
    | [] => none
    | b :: rest =>
      if b == 0x7B then
        if depth ≤ 1 then none
        else
          match skipBlank rest with
          | 0x7D :: rest' => some (.obj [], rest')
          | rest' => readMembers fuel (depth - 1) [] rest'
      else if b == 0x5B then
        if depth ≤ 1 then none
        else
          match skipBlank rest with
          | 0x5D :: rest' => some (.arr [], rest')
          | rest' => readItems fuel (depth - 1) [] rest'
      else if b == 0x22 then (readString (b :: rest)).map (fun (s, r) => (.str s, r))
      else if b == 0x74 then (readLiteral [0x72, 0x75, 0x65] rest).map (fun r => (.bool true, r))
      else if b == 0x66 then
        (readLiteral [0x61, 0x6C, 0x73, 0x65] rest).map (fun r => (.bool false, r))
      else if b == 0x6E then (readLiteral [0x75, 0x6C, 0x6C] rest).map (fun r => (.null, r))
      else (readNumber (b :: rest)).map (fun (n, r) => (.num n, r))

/-- Read the items of an array after its opening bracket, one item at a time. -/
def readItems (fuel depth : Nat) (acc : List Json) (bs : List UInt8) :
    Option (Json × List UInt8) :=
  match fuel with
  | 0 => none
  | fuel + 1 =>
    match readValue fuel depth bs with
    | none => none
    | some (v, rest) =>
      match skipBlank rest with
      | 0x2C :: rest' => readItems fuel depth (v :: acc) rest'
      | 0x5D :: rest' => some (.arr (v :: acc).reverse, rest')
      | _ => none

/-- Read the members of an object after its opening brace, one member at a time. -/
def readMembers (fuel depth : Nat) (acc : List (String × Json)) (bs : List UInt8) :
    Option (Json × List UInt8) :=
  match fuel with
  | 0 => none
  | fuel + 1 =>
    match readString (skipBlank bs) with
    | none => none
    | some (key, rest) =>
      match skipBlank rest with
      | 0x3A :: rest' =>
        match readValue fuel depth rest' with
        | none => none
        | some (v, rest'') =>
          match skipBlank rest'' with
          | 0x2C :: more => readMembers fuel depth ((key, v) :: acc) more
          | 0x7D :: more => some (.obj ((key, v) :: acc).reverse, more)
          | _ => none
      | _ => none

end

/-- Read a whole JSON text: one value, with nothing but blanks after it. -/
def parseBytes (bs : List UInt8) : Option Json :=
  match readValue (2 * bs.length + 2) 128 bs with
  | some (v, rest) => if (skipBlank rest).isEmpty then some v else none
  | none => none

/-- Read a whole JSON text given as a string. -/
def parse (s : String) : Option Json :=
  parseBytes s.toUTF8.toList

end Json

end ForgeSync
