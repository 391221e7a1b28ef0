import ForgeSync.Toml.Table

/-!
# Reading TOML

The reader follows TOML 1.0.  A document is a run of lines, each blank, a comment, a key/value
pair or a table header, and a value may run over several lines (multi-line strings, arrays).

* Keys are bare (`A-Z a-z 0-9 - _`) or quoted, and dotted with optional blanks around the dots.
* Strings are basic (`"…"`, with escapes `\b \t \n \f \r \" \\ \uXXXX \UXXXXXXXX`), literal
  (`'…'`), and their multi-line forms, where a newline right after the opening quotes is
  dropped, up to two quotes may stand before the closing ones, and in the basic form a
  backslash at the end of a line swallows the blanks and newlines after it.
* Integers are decimal without leading zeros, or hexadecimal, octal or binary after `0x`, `0o`,
  `0b`, with single underscores between digits, and must fit in 64 signed bits.
* Floats have a fraction, an exponent or both, or are `inf` and `nan` with an optional sign;
  one too large for a double is refused unless it is negative.
* Date-times are a full date with an optional time and offset, or a time alone; months, days
  (by month and leap year), hours, minutes, seconds (up to 60) and offsets are checked.
* Arrays may span lines and hold comments and a trailing comma; inline tables stay on one line
  and have no trailing comma; either nests at most 79 deep, and a key has at most 79 parts.

A value that starts with a digit or a sign is tried as a date-time, then a float, then an
integer.  Each reading step gives a value and the rest of the text, or a fault.  A soft fault
means the step did not apply: the next way is tried, or a list ends before the item.  Once a
step has passed its first sure sign (a year and a dash, an hour and a colon, a `0x`, an
underscore, an opening quote), a fault is final.
-/

namespace ForgeSync

namespace Toml

/-- A reading step: a value and the characters after it, or a fault. -/
abbrev Step (α : Type) := List Char → Except Fault (α × List Char)

namespace Reader

/-- The empty stretch where `cs` is left unread. -/
def here (cs : List Char) : Option Span := some (Span.point cs.length)

/-- A final fault where `cs` is left unread, for something being read. -/
def invalid {α : Type} (cs : List Char) (what : String) : Except Fault α :=
  .error { span := here cs, label := some what }

/-- The stretch from `cs` to `rest`, where `rest` is what is left after reading from `cs`. -/
def spanOf (cs rest : List Char) : Span := ⟨cs.length, rest.length⟩

/-- How the expectations of a quoted value are named. -/
def quoteNames : List String := ["`\"`", "`'`"]

/-- Blanks: space and tab. -/
def isBlank (c : Char) : Bool := c == ' ' || c == '\t'

/-- Characters a comment may hold: tab, printable ASCII, and anything beyond ASCII. -/
def isCommentChar (c : Char) : Bool :=
  c == '\t' || (0x20 ≤ c.toNat && c.toNat ≤ 0x7E) || 0x80 ≤ c.toNat

/-- Characters a basic string holds as they are: blanks and printable ASCII but the quote and
the backslash, and anything beyond ASCII. -/
def isBasicChar (c : Char) : Bool :=
  c == ' ' || c == '\t' || c == '!' || (0x23 ≤ c.toNat && c.toNat ≤ 0x5B) ||
    (0x5D ≤ c.toNat && c.toNat ≤ 0x7E) || 0x80 ≤ c.toNat

/-- Characters a literal string holds: tab, printable ASCII but the apostrophe, and anything
beyond ASCII. -/
def isLiteralChar (c : Char) : Bool :=
  c == '\t' || (0x20 ≤ c.toNat && c.toNat ≤ 0x26) || (0x28 ≤ c.toNat && c.toNat ≤ 0x7E) ||
    0x80 ≤ c.toNat

/-- Dropping a leading run never lengthens a list. -/
theorem length_dropWhile_le {α : Type} (p : α → Bool) (l : List α) :
    (l.dropWhile p).length ≤ l.length := by
  have h := congrArg List.length (@List.takeWhile_append_dropWhile _ p l)
  simp only [List.length_append] at h
  omega

/-- Skip blanks. -/
def skipBlank (cs : List Char) : List Char := cs.dropWhile isBlank

/-- Skip a comment, if one starts here, up to the first character a comment may not hold. -/
def skipComment : List Char → List Char
  | '#' :: rest => rest.dropWhile isCommentChar
  | cs => cs

/-- The end of a line: a newline (LF or CR LF), or the end of the text. -/
def lineEnd? : List Char → Option (List Char)
  | [] => some []
  | '\n' :: rest => some rest
  | '\r' :: '\n' :: rest => some rest
  | _ => none

/-- What may end a line after a statement: blanks, a comment, then the end of the line. -/
def trailing (cs : List Char) : Except Fault (List Char) :=
  let after := skipComment (skipBlank cs)
  match lineEnd? after with
  | some rest => .ok rest
  | none => .error { span := here after, expected := ["newline", "`#`"] }

/-- Skip what may stand between the items of an array: blanks, newlines and comments, each
comment ending its line.  A comment that does not, or a carriage return without its line feed,
is a soft fault there. -/
def filler : List Char → Except Fault (List Char)
  | ' ' :: rest => filler rest
  | '\t' :: rest => filler rest
  | '\n' :: rest => filler rest
  | '\r' :: '\n' :: rest => filler rest
  | '\r' :: rest => .error { span := here ('\r' :: rest), soft := true }
  | '#' :: rest =>
    match _h : rest.dropWhile isCommentChar with
    | '\n' :: more => filler more
    | '\r' :: '\n' :: more => filler more
    | after => .error { span := here after, soft := true }
  | cs => .ok cs
termination_by cs => cs.length
decreasing_by
  all_goals simp only [List.length_cons]
  all_goals first
    | omega
    | (have hd := length_dropWhile_le isCommentChar rest
       rw [_h] at hd
       simp only [List.length_cons] at hd
       omega)

/-- The value of a hexadecimal digit. -/
def hexDigit? (c : Char) : Option Nat :=
  if '0' ≤ c && c ≤ '9' then some (c.toNat - '0'.toNat)
  else if 'a' ≤ c && c ≤ 'f' then some (c.toNat - 'a'.toNat + 10)
  else if 'A' ≤ c && c ≤ 'F' then some (c.toNat - 'A'.toNat + 10)
  else none

/-- The number a run of digits writes in a base. -/
def digitsValue (base : Nat) (ds : List Char) : Nat :=
  ds.foldl (fun n c => n * base + (hexDigit? c).getD 0) 0

/-! ### Strings -/

/-- How the characters an escape may name are listed in a message. -/
def escapeNames : List String :=
  ["`b`", "`f`", "`n`", "`r`", "`t`", "`u`", "`U`", "`\\`", "`\"`"]

/-- The character an escape writes, read after its backslash, and how many characters it takes;
none at the end of the text. -/
def escape (cs : List Char) : Option (Except Fault (Char × Nat)) :=
  match cs with
  | 'b' :: _ => some (.ok ('\x08', 1))
  | 't' :: _ => some (.ok ('\t', 1))
  | 'n' :: _ => some (.ok ('\n', 1))
  | 'f' :: _ => some (.ok ('\x0c', 1))
  | 'r' :: _ => some (.ok ('\r', 1))
  | '"' :: _ => some (.ok ('"', 1))
  | '\\' :: _ => some (.ok ('\\', 1))
  | 'u' :: rest => some (scalar 4 rest)
  | 'U' :: rest => some (scalar 8 rest)
  | c :: rest =>
    some (.error { span := here (if c.toNat < 0x80 then rest else c :: rest),
                   label := some "escape sequence", expected := escapeNames })
  | [] => none
where
  /-- A code point of `n` hexadecimal digits, which must be a Unicode scalar value. -/
  scalar (n : Nat) (rest : List Char) : Except Fault (Char × Nat) :=
    let what := "unicode " ++ toString n ++ "-digit hex code"
    let ds := rest.take n
    if ds.length == n && ds.all (fun c => (hexDigit? c).isSome) then
      let v := digitsValue 16 ds
      if v < 0xD800 || (0xE000 ≤ v && v ≤ 0x10FFFF) then .ok (Char.ofNat v, n + 1)
      else .error { span := here rest, label := some what, cause := some "value is out of range" }
    else invalid rest what

/-- The rest of a basic string after its opening quote: its text (kept reversed in `acc`) and
what follows the closing quote. -/
def basicBody (acc : List Char) : List Char → Except Fault (String × List Char)
  | [] => invalid [] "basic string"
  | '"' :: rest => .ok (String.ofList acc.reverse, rest)
  | '\\' :: rest =>
    match escape rest with
    | some (.ok (c, n)) => basicBody (c :: acc) (rest.drop n)
    | some (.error e) => .error e
    | none => invalid ('\\' :: rest) "basic string"
  | c :: rest =>
    if isBasicChar c then basicBody (c :: acc) rest else invalid (c :: rest) "basic string"
termination_by cs => cs.length
decreasing_by all_goals simp only [List.length_cons, List.length_drop]; omega

/-- The rest of a literal string after its opening apostrophe. -/
def literalBody (acc : List Char) : List Char → Except Fault (String × List Char)
  | [] => invalid [] "literal string"
  | '\'' :: rest => .ok (String.ofList acc.reverse, rest)
  | c :: rest =>
    if isLiteralChar c then literalBody (c :: acc) rest else invalid (c :: rest) "literal string"

/-- Whether a backslash in a multi-line basic string, followed by `cs`, ends its line: only
blanks stand before the newline. -/
def endsLine (cs : List Char) : Bool :=
  match cs.dropWhile isBlank with
  | '\n' :: _ => true
  | '\r' :: '\n' :: _ => true
  | _ => false

/-- The body of a multi-line basic string after its opening quotes (and the newline dropped
after them): its text and what follows the closing quotes.  After a backslash that ends a line
(`joining`), blanks and newlines are dropped.  A run of one or two quotes belongs to the text,
and of a run of three to five that ends the string the quotes beyond three do too. -/
def mlBasicBody (joining : Bool) (acc : List Char) (cs : List Char) :
    Except Fault (String × List Char) :=
  match joining, cs with
  | true, c :: rest =>
    if isBlank c || c == '\n' then mlBasicBody true acc rest
    else if c == '\r' && rest.head? == some '\n' then mlBasicBody true acc rest.tail
    else mlBasicBody false acc (c :: rest)
  | true, [] => mlBasicBody false acc []
  | false, [] => invalid [] "multiline basic string"
  | false, '"' :: rest =>
    let n := (rest.takeWhile (· == '"')).length + 1
    let after := rest.dropWhile (· == '"')
    if n < 3 then
      if after.isEmpty then invalid ('"' :: rest) "multiline basic string"
      else mlBasicBody false (List.replicate n '"' ++ acc) after
    else
      let extra := min (n - 3) 2
      .ok (String.ofList (List.replicate extra '"' ++ acc).reverse,
        List.replicate (n - 3 - extra) '"' ++ after)
  | false, '\\' :: rest =>
    if endsLine rest then mlBasicBody true acc rest
    else
      match escape rest with
      | some (.ok (c, n)) => mlBasicBody false (c :: acc) (rest.drop n)
      | some (.error e) => .error e
      | none => invalid ('\\' :: rest) "multiline basic string"
  | false, '\n' :: rest => mlBasicBody false ('\n' :: acc) rest
  | false, '\r' :: rest =>
    if rest.head? == some '\n' then mlBasicBody false ('\n' :: acc) rest.tail
    else invalid ('\r' :: rest) "multiline basic string"
  | false, c :: rest =>
    if isBasicChar c then mlBasicBody false (c :: acc) rest
    else invalid (c :: rest) "multiline basic string"
termination_by (cs.length, if joining then 1 else 0)
decreasing_by
  all_goals simp only [List.length_cons, List.length_drop, List.length_tail, List.length_nil]
  all_goals first
    | (apply Prod.Lex.left; omega)
    | (apply Prod.Lex.right; decide)
    | (apply Prod.Lex.left
       have hd := length_dropWhile_le (· == '"') rest
       omega)

/-- Whether a multi-line literal string's text goes on here: a character it may hold or a
newline. -/
def literalContinues : List Char → Bool
  | '\n' :: _ => true
  | '\r' :: '\n' :: _ => true
  | c :: _ => isLiteralChar c
  | [] => false

/-- The body of a multi-line literal string after its opening apostrophes (and the newline
dropped after them).  A run of one or two apostrophes belongs to the text only when the text
goes on after it. -/
def mlLiteralBody (acc : List Char) (cs : List Char) : Except Fault (String × List Char) :=
  match cs with
  | [] => invalid [] "multiline literal string"
  | '\'' :: rest =>
    let n := (rest.takeWhile (· == '\'')).length + 1
    let after := rest.dropWhile (· == '\'')
    if n < 3 then
      if literalContinues after then mlLiteralBody (List.replicate n '\'' ++ acc) after
      else invalid ('\'' :: rest) "multiline literal string"
    else
      let extra := min (n - 3) 2
      .ok (String.ofList (List.replicate extra '\'' ++ acc).reverse,
        List.replicate (n - 3 - extra) '\'' ++ after)
  | '\n' :: rest => mlLiteralBody ('\n' :: acc) rest
  | '\r' :: rest =>
    if rest.head? == some '\n' then mlLiteralBody ('\n' :: acc) rest.tail
    else invalid ('\r' :: rest) "multiline literal string"
  | c :: rest =>
    if isLiteralChar c then mlLiteralBody (c :: acc) rest
    else invalid (c :: rest) "multiline literal string"
termination_by cs.length
decreasing_by
  all_goals simp only [List.length_cons, List.length_tail]
  all_goals first
    | omega
    | (have hd := length_dropWhile_le (· == '\'') rest; omega)

/-- Drop the newline that may follow the opening quotes of a multi-line string. -/
def dropFirstNewline : List Char → List Char
  | '\n' :: rest => rest
  | '\r' :: '\n' :: rest => rest
  | cs => cs

/-- A string of any of the four kinds, from its opening quote. -/
def string? (cs : List Char) : Option (Except Fault (String × List Char)) :=
  match cs with
  | '"' :: '"' :: '"' :: rest => some (mlBasicBody false [] (dropFirstNewline rest))
  | '"' :: rest => some (basicBody [] rest)
  | '\'' :: '\'' :: '\'' :: rest => some (mlLiteralBody [] (dropFirstNewline rest))
  | '\'' :: rest => some (literalBody [] rest)
  | _ => none

/-! ### Numbers and date-times -/

/-- Digits of a kind with single underscores between them, after a first digit already read
(digits kept reversed in `acc`): the digits without underscores, and the rest.  An underscore
that no digit follows is a final fault that expects a digit. -/
def digitTail (ok : Char → Bool) (acc : List Char) :
    List Char → Except Fault (List Char × List Char)
  | '_' :: c :: rest =>
    if ok c then digitTail ok (c :: acc) rest
    else .error { span := here (c :: rest), expected := ["digit"] }
  | '_' :: [] => .error { span := here [], expected := ["digit"] }
  | c :: rest => if ok c then digitTail ok (c :: acc) rest else .ok (acc.reverse, c :: rest)
  | [] => .ok (acc.reverse, [])

/-- An optional sign: whether it is a minus, and what follows. -/
def sign (cs : List Char) : Bool × List Char :=
  match cs with
  | '+' :: r => (false, r)
  | '-' :: r => (true, r)
  | _ => (false, cs)

/-- A decimal integer with an optional sign and no leading zero: whether it is negative and its
digits.  Without a digit after the sign it is a soft fault. -/
def decimal (cs : List Char) : Except Fault ((Bool × List Char) × List Char) :=
  let (negative, body) := sign cs
  match body with
  | '0' :: rest => .ok ((negative, ['0']), rest)
  | c :: rest =>
    if c.isDigit then
      match digitTail Char.isDigit [c] rest with
      | .ok (ds, r) => .ok ((negative, ds), r)
      | .error e => .error (e.labelled "integer")
    else .error { span := here body, label := some "integer", soft := true }
  | [] => .error { span := here [], label := some "integer", soft := true }

/-- Digits where a leading zero is allowed, as in fractions and exponents; at least one, or a
soft fault. -/
def leadingDigits (cs : List Char) : Except Fault (List Char × List Char) :=
  match cs with
  | c :: rest =>
    if c.isDigit then digitTail Char.isDigit [c] rest else .error { span := here cs, soft := true }
  | [] => .error { span := here [], soft := true }

/-- An exponent after its `e`: an optional sign and digits. -/
def exponent (cs : List Char) : Except Fault (Int × List Char) :=
  let (negative, body) := sign cs
  match leadingDigits body with
  | .ok (ds, r) =>
    let v : Int := digitsValue 10 ds
    .ok (if negative then -v else v, r)
  | .error e => .error e.hard

/-- Whether the decimal `ds × 10^e10`, with `ds` its digits, is at least the halfway point
between the largest double and `2^1024`, so that it rounds to infinity. -/
def floatOverflows (ds : List Char) (e10 : Int) : Bool :=
  let ds := ds.dropWhile (· == '0')
  let m := digitsValue 10 ds
  if m == 0 then false
  else
    let top : Int := (ds.length : Int) - 1 + e10
    if 309 ≤ top then true
    else if top ≤ 307 then false
    else
      let limit := Nat.pow 2 1024 - Nat.pow 2 970
      if 0 ≤ e10 then limit ≤ m * Nat.pow 10 e10.toNat
      else limit * Nat.pow 10 (-e10).toNat ≤ m

/-- Infinity or not-a-number, with an optional sign, and its text; a soft fault after the sign
otherwise. -/
def specialFloat (cs : List Char) : Except Fault (String × List Char) :=
  let (_, body) := sign cs
  let text (rest : List Char) := String.ofList (cs.take (cs.length - rest.length))
  match body with
  | 'i' :: 'n' :: 'f' :: rest => .ok (text rest, rest)
  | 'n' :: 'a' :: 'n' :: rest => .ok (text rest, rest)
  | _ => .error { span := here body, label := some "floating-point number", soft := true }

/-- A float and its text: an integer part with a fraction, an exponent or both, else infinity
or not-a-number.  A fault after the integer part is final; one that rounds to positive
infinity is refused at its start. -/
def float (cs : List Char) : Except Fault (String × List Char) :=
  let final (e : Fault) : Fault := (e.labelled "floating-point number").hard
  let finish (negative : Bool) (intDs fracDs : List Char) (e : Int) (rest : List Char) :
      Except Fault (String × List Char) :=
    if !negative && floatOverflows (intDs ++ fracDs) (e - fracDs.length) then
      .error { span := here cs, label := some "floating-point number" }
    else .ok (String.ofList (cs.take (cs.length - rest.length)), rest)
  let withExponent (negative : Bool) (intDs fracDs : List Char) (r : List Char) :=
    match exponent r with
    | .ok (e, r2) => finish negative intDs fracDs e r2
    | .error e => .error (final e)
  match decimal cs with
  | .error e => if e.soft then specialFloat cs else .error (final e)
  | .ok ((negative, intDs), rest) =>
    match rest with
    | '.' :: r =>
      match leadingDigits r with
      | .error e => .error (final (e.expecting ["digit"]))
      | .ok (fracDs, r2) =>
        match r2 with
        | c :: r3 =>
          if c == 'e' || c == 'E' then withExponent negative intDs fracDs r3
          else finish negative intDs fracDs 0 r2
        | [] => finish negative intDs fracDs 0 r2
    | c :: r =>
      if c == 'e' || c == 'E' then withExponent negative intDs [] r else specialFloat cs
    | [] => specialFloat cs

/-- The cause of an integer that does not fit in 64 signed bits. -/
def outOfRange (negative : Bool) : String :=
  if negative then "number too small to fit in target type"
  else "number too large to fit in target type"

/-- An integer: hexadecimal, octal or binary after its prefix, or decimal; it must fit in 64
signed bits. -/
def integer (cs : List Char) : Except Fault (Int × List Char) :=
  match cs with
  | '0' :: 'x' :: rest => radix 16 (fun c => (hexDigit? c).isSome) "hexadecimal integer" rest
  | '0' :: 'o' :: rest => radix 8 (fun c => '0' ≤ c && c ≤ '7') "octal integer" rest
  | '0' :: 'b' :: rest => radix 2 (fun c => c == '0' || c == '1') "binary integer" rest
  | _ =>
    match decimal cs with
    | .ok ((negative, ds), rest) =>
      let v : Int := digitsValue 10 ds
      let i := if negative then -v else v
      if -(Int.pow 2 63) ≤ i && i < Int.pow 2 63 then .ok (i, rest)
      else .error { span := here cs, cause := some (outOfRange negative) }
    | .error e => .error e
where
  /-- Digits in a base after their prefix. -/
  radix (base : Nat) (ok : Char → Bool) (what : String) (rest : List Char) :
      Except Fault (Int × List Char) :=
    match rest with
    | c :: r =>
      if ok c then
        match digitTail ok [c] r with
        | .ok (ds, r') =>
          let v := digitsValue base ds
          if v < Nat.pow 2 63 then .ok (v, r')
          else .error { span := here cs, cause := some (outOfRange false) }
        | .error e => .error (e.labelled what)
      else invalid rest what
    | [] => invalid [] what

/-- Exactly `n` decimal digits, with their value. -/
def fixedDigits? (n : Nat) (cs : List Char) : Option (Nat × List Char) :=
  let ds := cs.take n
  if ds.length == n && ds.all Char.isDigit then some (digitsValue 10 ds, cs.drop n) else none

/-- The days of a month of the Gregorian calendar. -/
def daysIn (year month : Nat) : Nat :=
  if month == 2 then
    if year % 4 == 0 && (year % 100 != 0 || year % 400 == 0) then 29 else 28
  else if month == 4 || month == 6 || month == 9 || month == 11 then 30
  else 31

/-- Two digits of a date or time at `cs`, at most `top` (and at least `bottom`); a final fault
about `what` otherwise. -/
def field (what : String) (bottom top : Nat) (cs : List Char) : Except Fault (Nat × List Char) :=
  match fixedDigits? 2 cs with
  | some (v, rest) =>
    if bottom ≤ v && v ≤ top then .ok (v, rest)
    else .error { span := here cs, label := some what, cause := some "value is out of range" }
  | none => invalid cs what

/-- A separator character of a date or time; a final fault about `what` otherwise. -/
def separator (what : String) (sep : Char) (cs : List Char) : Except Fault (List Char) :=
  match cs with
  | c :: rest => if c == sep then .ok rest else invalid cs what
  | [] => invalid [] what

/-- The rest of a time after its hour and colon: minutes, seconds and an optional fraction. -/
def timeRest (what : String) (cs : List Char) : Except Fault (List Char) := do
  let (_, r) ← field what 0 59 cs
  let r ← separator what ':' r
  let (_, r) ← field what 0 60 r
  match r with
  | '.' :: d :: more => if d.isDigit then pure (more.dropWhile Char.isDigit) else pure r
  | _ => pure r

/-- An hour below 24 and a colon: what follows, or none. -/
def hourColon? (cs : List Char) : Option (List Char) :=
  match fixedDigits? 2 cs with
  | some (hour, ':' :: rest) => if hour ≤ 23 then some rest else none
  | _ => none

/-- A time offset after a date-time: `Z`, or a sign with `HH:MM`; none when neither starts
here. -/
def offset? (cs : List Char) : Option (Except Fault (List Char)) :=
  let signed (rest : List Char) : Except Fault (List Char) := do
    let (_, r) ← field "time offset" 0 23 rest
    let r ← separator "time offset" ':' r
    let (_, r) ← field "time offset" 0 59 r
    pure r
  match cs with
  | 'Z' :: rest => some (.ok rest)
  | 'z' :: rest => some (.ok rest)
  | '+' :: rest => some (signed rest)
  | '-' :: rest => some (signed rest)
  | _ => none

/-- A date-time, a date or a time, and its text; a soft fault when none starts here. -/
def dateTime (cs : List Char) : Except Fault (String × List Char) :=
  let text (rest : List Char) : String × List Char :=
    (String.ofList (cs.take (cs.length - rest.length)), rest)
  match fixedDigits? 4 cs with
  | some (year, '-' :: rest) => do
    let (month, r) ← field "date-time" 1 12 rest
    let r ← separator "date-time" '-' r
    let (day, r2) ← field "date-time" 1 31 r
    if daysIn year month < day then
      throw { span := here r, label := some "date-time", cause := some "value is out of range" }
    match r2 with
    | c :: more =>
      if c == 'T' || c == 't' || c == ' ' then
        match hourColon? more with
        | some afterHour =>
          let r3 ← timeRest "date-time" afterHour
          match offset? r3 with
          | some off => do
            let r4 ← off
            pure (text r4)
          | none => pure (text r3)
        | none => pure (text r2)
      else pure (text r2)
    | [] => pure (text r2)
  | _ =>
    match hourColon? cs with
    | some afterHour => (timeRest "time" afterHour).map text
    | none => .error { span := here cs, soft := true }

/-- A value that starts with a sign or a digit: a date-time, a float or an integer.  When none
applies, the fault is the integer's. -/
def numeric (cs : List Char) : Except Fault (Value × List Char) :=
  match dateTime cs with
  | .ok (t, rest) => .ok (.datetime t (spanOf cs rest), rest)
  | .error e =>
    if !e.soft then .error e
    else
      match float cs with
      | .ok (t, rest) => .ok (.float t (spanOf cs rest), rest)
      | .error e =>
        if !e.soft then .error e
        else (integer cs).map (fun (i, rest) => (.integer i (spanOf cs rest), rest))

/-! ### Keys, values and statements -/

/-- A simple key, quoted or bare, and where it was written; a bare key of no characters is a
soft fault. -/
def simpleKey (cs : List Char) : Except Fault (Key × List Char) :=
  match cs with
  | '"' :: rest => (basicBody [] rest).map (fun (s, r) => (⟨s, spanOf cs r⟩, r))
  | '\'' :: rest => (literalBody [] rest).map (fun (s, r) => (⟨s, spanOf cs r⟩, r))
  | _ =>
    let k := cs.takeWhile isBareKeyChar
    if k.isEmpty then .error { span := here cs, label := some "key", soft := true }
    else
      let rest := cs.drop k.length
      .ok (⟨String.ofList k, spanOf cs rest⟩, rest)

/-- The parts of a dotted key with blanks around them (at least one) and the rest after its
blanks.  A part after a dot that cannot start leaves the dot unread. -/
def keyParts : Nat → List Char → Except Fault (List Key × List Char)
  | 0, cs => .error { span := here cs, label := some "key", soft := true }
  | fuel + 1, cs => do
    let (k, rest) ← simpleKey (skipBlank cs)
    let rest := skipBlank rest
    match rest with
    | '.' :: more =>
      match keyParts fuel more with
      | .ok (ks, r) => pure (k :: ks, r)
      | .error e => if e.soft then pure ([k], rest) else throw e
    | _ => pure ([k], rest)

/-- The deepest nesting of arrays and inline tables, and the most parts of a key, that are
refused. -/
def nestingLimit : Nat := 80

/-- A key: its parts, which must be fewer than the nesting limit. -/
def key (cs : List Char) : Except Fault (List Key × List Char) := do
  let (ks, rest) ← keyParts (cs.length + 1) cs
  if nestingLimit ≤ ks.length then
    throw { span := here cs, cause := some "recursion limit exceeded", soft := true }
  pure (ks, rest)

/-- The parts of a key before its last, and its last. -/
def splitLast (path : List Key) : List Key × Key :=
  (path.dropLast, path.getLastD default)

mutual

/-- A value, within `depth` arrays and inline tables. -/
def value : Nat → Nat → Step Value
  | 0, _, cs => .error { span := here cs, cause := some "recursion limit exceeded" }
  | fuel + 1, depth, cs =>
    let nested : Fault := { span := here cs, cause := some "recursion limit exceeded" }
    let notString (soft : Bool) : Fault :=
      { span := here cs, label := some "string", expected := quoteNames, soft }
    match string? cs with
    | some r => r.map (fun (s, rest) => (.string s (spanOf cs rest), rest))
    | none =>
      match cs with
      | '[' :: rest =>
        if nestingLimit ≤ depth + 1 then .error nested
        else arrayItems fuel (depth + 1) [] cs rest
      | '{' :: rest =>
        if nestingLimit ≤ depth + 1 then .error nested
        else inlineItems fuel (depth + 1) [] cs rest rest
      | 't' :: rest =>
        match rest with
        | 'r' :: 'u' :: 'e' :: more => .ok (.boolean true (spanOf cs more), more)
        | _ => .error (notString false)
      | 'f' :: rest =>
        match rest with
        | 'a' :: 'l' :: 's' :: 'e' :: more => .ok (.boolean false (spanOf cs more), more)
        | _ => .error (notString false)
      | 'i' :: 'n' :: 'f' :: more => .ok (.float "inf" (spanOf cs more), more)
      | 'n' :: 'a' :: 'n' :: more => .ok (.float "nan" (spanOf cs more), more)
      | '_' :: _ =>
        .error { span := here cs, label := some "integer", expected := ["leading digit"],
                 soft := true }
      | '.' :: _ =>
        .error { span := here cs, label := some "floating-point number",
                 expected := ["leading digit"], soft := true }
      | c :: _ =>
        if c.isDigit || c == '+' || c == '-' then numeric cs else .error (notString true)
      | [] => .error { span := here [], soft := true }

/-- The items of an array from its opening bracket `start`, after that bracket or a comma
(items kept reversed in `acc`).  An item that does not start ends the list, and the closing
bracket must then follow. -/
def arrayItems : Nat → Nat → List Value → List Char → List Char → Except Fault (Value × List Char)
  | 0, _, _, _, cs => .error { span := here cs, cause := some "recursion limit exceeded" }
  | fuel + 1, depth, acc, start, cs =>
    let close (acc : List Value) (cs : List Char) : Except Fault (Value × List Char) :=
      match filler cs with
      | .error e => .error e.hard
      | .ok (']' :: more) => .ok (.array acc.reverse (spanOf start more), more)
      | .ok r => .error { span := here r, label := some "array", expected := ["`]`"] }
    let item : Except Fault (Value × List Char) := do
      let r ← filler cs
      let (v, r2) ← value fuel depth r
      let r3 ← filler r2
      pure (v, r3)
    match item with
    | .error e => if e.soft then close acc cs else .error e
    | .ok (v, ',' :: more) => arrayItems fuel depth (v :: acc) start more
    | .ok (v, rest) => close (v :: acc) rest

/-- A key/value pair inside braces, with the blanks after it.  A key that cannot start is a
soft fault; past it every fault is final. -/
def inlinePair : Nat → Nat → List Char → Except Fault ((List Key × Key × Value) × List Char)
  | 0, _, cs => .error { span := here cs, cause := some "recursion limit exceeded" }
  | fuel + 1, depth, cs => do
    let (path, rest) ← key cs
    match rest with
    | '=' :: more =>
      let (v, r) ← (value fuel depth (skipBlank more)).mapError Fault.hard
      let (init, k) := splitLast path
      pure ((init, k, v), skipBlank r)
    | _ => throw { span := here rest, expected := ["`.`", "`=`"] }

/-- The pairs of an inline table from its opening brace `start`, read from `cs`, after that
brace or a comma (pairs kept reversed in `acc`).  A pair that does not start ends the list
where it began, before its comma (`back`); the table is then built and the closing brace must
follow. -/
def inlineItems : Nat → Nat → List (List Key × Key × Value) → List Char → List Char →
    List Char → Except Fault (Value × List Char)
  | 0, _, _, _, _, cs => .error { span := here cs, cause := some "recursion limit exceeded" }
  | fuel + 1, depth, acc, start, back, cs =>
    let finish (acc : List (List Key × Key × Value)) (cs : List Char) :
        Except Fault (Value × List Char) :=
      match inlineEntries acc.reverse with
      | .error m => .error { span := here start.tail, cause := some m }
      | .ok es =>
        match skipBlank cs with
        | '}' :: more => .ok (.table .inline es (some (spanOf start more)), more)
        | r => .error { span := here r, label := some "inline table", expected := ["`\x7d`"] }
    match inlinePair fuel depth cs with
    | .error e => if e.soft then finish acc back else .error e
    | .ok (p, rest) =>
      match rest with
      | ',' :: more => inlineItems fuel depth (p :: acc) start rest more
      | _ => finish (p :: acc) rest

end

/-- A header's fault, as the rule for headers names it. -/
def inHeader (f : Fault) : Fault := (f.labelled "table header").hard

/-- The statements of a document, taken into `b` one by one as they are read. -/
def statements : Nat → Builder → List Char → Except Fault Builder
  | 0, _, cs => .error { span := here cs, cause := some "document too long" }
  | fuel + 1, b, cs =>
    let cs := skipBlank cs
    let semantic (header : Bool) (m : String) : Fault :=
      { span := here cs, label := if header then some "table header" else none, cause := some m }
    match cs with
    | [] => .ok b
    | '\n' :: rest => statements fuel b rest
    | '\r' :: '\n' :: rest => statements fuel b rest
    | '\r' :: _ => .error { span := here cs }
    | '#' :: _ =>
      let after := skipComment cs
      match lineEnd? after with
      | some rest => statements fuel b rest
      | none => .error { span := here after }
    | '[' :: '[' :: rest => do
      let (path, r) ← (key rest).mapError inHeader
      match r with
      | ']' :: ']' :: r2 =>
        let r3 ← (trailing r2).mapError inHeader
        let (init, k) := splitLast path
        let b ← (b.arrayHeader init k (spanOf cs r2)).mapError (semantic true)
        statements fuel b r3
      | _ => throw { span := here r, label := some "table header", expected := ["`.`", "`]]`"] }
    | '[' :: rest => do
      let (path, r) ← (key rest).mapError inHeader
      match r with
      | ']' :: r2 =>
        let r3 ← (trailing r2).mapError inHeader
        let (init, k) := splitLast path
        let b ← (b.header init k (spanOf cs r2)).mapError (semantic true)
        statements fuel b r3
      | _ => throw { span := here r, label := some "table header", expected := ["`.`", "`]`"] }
    | _ => do
      let (path, r) ← (key cs).mapError Fault.hard
      match r with
      | '=' :: r2 =>
        let r2 := skipBlank r2
        let (v, r3) ← (value (2 * r2.length + 2) 0 r2).mapError Fault.hard
        let r4 ← trailing r3
        let (init, k) := splitLast path
        let b ← (b.pair init k v).mapError (semantic false)
        statements fuel b r4
      | _ => throw { span := here r, expected := ["`.`", "`=`"] }

end Reader

/-- Read a TOML document as its top table. -/
def read (text : String) : Except Fault Value := do
  let whole := text.toList
  let cs := match whole with
    | '\uFEFF' :: rest => rest
    | _ => whole
  let b ← Reader.statements (cs.length + 1) { span := some (Span.point whole.length) } cs
  pure b.value

end Toml

end ForgeSync
