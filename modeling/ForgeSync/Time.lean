import ForgeSync.Text.Blank

/-!
# Instants

An instant in UTC: whole seconds since 1970-01-01T00:00:00Z and nanoseconds within the
second.  A leap second is the 59th second of its minute with nanoseconds from 10^9 on.
Instants span the years -262144 to 262143 of the proleptic Gregorian calendar.

Dates and days are converted by the civil-calendar arithmetic on eras of 400 years, which is
exact for every year.

An instant is read from a relaxed RFC 3339 text: a date, `T`, `t` or a space, a time with an
optional fraction of up to nine digits (further digits are ignored), and an offset that is
`Z`, `UTC` or a signed `hh:mm` (the colon is optional, and spaces may stand around the
parts).  It is written as RFC 3339 in UTC with `Z`, with a fraction only when it is not zero,
in three, six or nine digits, whichever is the shortest exact one.
-/

namespace ForgeSync

/-! ### The civil calendar -/

namespace Calendar

/-- Whether a year is a leap year. -/
def isLeapYear (y : Int) : Bool :=
  (y % 4 == 0 && y % 100 != 0) || y % 400 == 0

/-- The number of days of a month. -/
def daysInMonth (y : Int) (m : Nat) : Nat :=
  if m == 2 then (if isLeapYear y then 29 else 28)
  else if m == 4 || m == 6 || m == 9 || m == 11 then 30
  else 31

/-- Whether a year, month and day name a date. -/
def validDate (y : Int) (m d : Nat) : Bool :=
  1 ≤ m && m ≤ 12 && 1 ≤ d && d ≤ daysInMonth y m

/-- The days from 1970-01-01 to a date. -/
def daysFromCivil (y : Int) (m d : Nat) : Int :=
  let y := if m ≤ 2 then y - 1 else y
  let era := y.fdiv 400
  let yoe := y - era * 400
  let mp : Int := if m > 2 then (m : Int) - 3 else (m : Int) + 9
  let doy := (153 * mp + 2) / 5 + (d : Int) - 1
  let doe := yoe * 365 + yoe / 4 - yoe / 100 + doy
  era * 146097 + doe - 719468

/-- The date of a day counted from 1970-01-01: year, month and day. -/
def civilFromDays (z : Int) : Int × Nat × Nat :=
  let z := z + 719468
  let era := z.fdiv 146097
  let doe := z - era * 146097
  let yoe := (doe - doe / 1460 + doe / 36524 - doe / 146096) / 365
  let y := yoe + era * 400
  let doy := doe - (365 * yoe + yoe / 4 - yoe / 100)
  let mp := (5 * doy + 2) / 153
  let d := doy - (153 * mp + 2) / 5 + 1
  let m := if mp < 10 then mp + 3 else mp - 9
  ((if m ≤ 2 then y + 1 else y), m.toNat, d.toNat)

end Calendar

/-- An instant in UTC. -/
structure Instant where
  seconds : Int
  nanos : Nat
  deriving Repr, DecidableEq, Inhabited

namespace Instant

/-- The first second of the range. -/
def minSeconds : Int := Calendar.daysFromCivil (-262144) 1 1 * 86400

/-- The last second of the range. -/
def maxSeconds : Int := Calendar.daysFromCivil 262143 12 31 * 86400 + 86399

/-- The instant a number of milliseconds after the epoch, when it is in range. -/
def ofMillis? (ms : Int) : Option Instant :=
  let s := ms.fdiv 1000
  let n := (ms.fmod 1000).toNat * 1000000
  if minSeconds ≤ s && s ≤ maxSeconds then some ⟨s, n⟩ else none

/-- Milliseconds since the epoch, rounded down. -/
def millis (t : Instant) : Int := t.seconds * 1000 + (t.nanos / 1000000 : Nat)

/-- A number in decimal, padded with zeros to a width. -/
def padded (width : Nat) (n : Nat) : String :=
  let s := toString n
  String.ofList (List.replicate (width - s.length) '0') ++ s

/-- The year as RFC 3339 writes it: four digits, or a sign and at least four digits outside
0 to 9999. -/
def yearText (y : Int) : String :=
  if 0 ≤ y && y ≤ 9999 then padded 4 y.toNat
  else (if y < 0 then "-" else "+") ++ padded 4 y.natAbs

/-- The fraction of a second: nothing when zero, else the shortest of three, six or nine
digits that is exact. -/
def fractionText (n : Nat) : String :=
  if n == 0 then ""
  else if n % 1000000 == 0 then "." ++ padded 3 (n / 1000000)
  else if n % 1000 == 0 then "." ++ padded 6 (n / 1000)
  else "." ++ padded 9 n

/-- The date of the instant in UTC, as `YYYY-MM-DD` with the year written as RFC 3339 writes
it. -/
def dateText (t : Instant) : String :=
  let (y, m, d) := Calendar.civilFromDays (t.seconds.fdiv 86400)
  yearText y ++ "-" ++ padded 2 m ++ "-" ++ padded 2 d

/-- The instant in RFC 3339, in UTC with `Z`. -/
def rfc3339 (t : Instant) : String :=
  let days := t.seconds.fdiv 86400
  let secs := (t.seconds.fmod 86400).toNat
  let (y, m, d) := Calendar.civilFromDays days
  let leap := t.nanos ≥ 1000000000
  let nanos := if leap then t.nanos - 1000000000 else t.nanos
  yearText y ++ "-" ++ padded 2 m ++ "-" ++ padded 2 d ++ "T" ++
    padded 2 (secs / 3600) ++ ":" ++ padded 2 (secs / 60 % 60) ++ ":" ++
    padded 2 (secs % 60 + if leap then 1 else 0) ++ fractionText nanos ++ "Z"

/-! ### Reading -/

/-- Drop leading white space. -/
def skipSpace (cs : List Char) : List Char := cs.dropWhile Text.isBlank

/-- The value of decimal digits. -/
def digitsValue (ds : List Char) : Nat :=
  ds.foldl (fun acc d => acc * 10 + (d.toNat - 48)) 0

/-- Between `least` and `most` decimal digits at the front, after white space. -/
def number (least most : Nat) (cs : List Char) : Option (Nat × List Char) :=
  let ds := (cs.takeWhile Char.isDigit).take most
  if ds.length < least then none else some (digitsValue ds, cs.drop ds.length)

/-- The year: up to four digits, or a sign and any number of digits. -/
def year (cs : List Char) : Option (Int × List Char) :=
  match skipSpace cs with
  | '-' :: rest => (number 1 rest.length rest).map (fun (v, r) => (-(v : Int), r))
  | '+' :: rest => (number 1 rest.length rest).map (fun (v, r) => ((v : Int), r))
  | rest => (number 1 4 rest).map (fun (v, r) => ((v : Int), r))

/-- A literal character after optional white space. -/
def literal (c : Char) (cs : List Char) : Option (List Char) :=
  match skipSpace cs with
  | x :: rest => if x == c then some rest else none
  | [] => none

/-- A two-digit field after optional white space, checked against a bound. -/
def field (most : Nat) (cs : List Char) : Option (Nat × List Char) := do
  let (v, rest) ← number 1 2 (skipSpace cs)
  if v ≤ most then some (v, rest) else none

/-- The optional fraction: a point and one to nine digits (more digits are read and
ignored), as nanoseconds. -/
def fraction (cs : List Char) : Option (Nat × List Char) :=
  match cs with
  | '.' :: rest =>
    let ds := rest.takeWhile Char.isDigit
    if ds.isEmpty then none
    else
      let kept := ds.take 9
      some (digitsValue kept * Nat.pow 10 (9 - kept.length), rest.drop ds.length)
  | _ => some (0, cs)

/-- The offset east of UTC in seconds: `Z`, `z`, `UTC` in any case, or a sign, two digits
of hours, optional colons or spaces and two digits of minutes below 60. -/
def offset (cs : List Char) : Option (Int × List Char) :=
  let cs := skipSpace cs
  match cs with
  | 'Z' :: rest => some (0, rest)
  | 'z' :: rest => some (0, rest)
  | u :: t :: c :: rest =>
    if u.toUpper == 'U' && t.toUpper == 'T' && c.toUpper == 'C' then some (0, rest)
    else signed cs
  | _ => signed cs
where
  /-- A signed offset. -/
  signed (cs : List Char) : Option (Int × List Char) := do
    let (negative, rest) ← match cs with
      | '+' :: rest => some (false, rest)
      | '-' :: rest => some (true, rest)
      | '−' :: rest => some (true, rest)
      | _ => none
    match rest with
    | h1 :: h2 :: rest =>
      if !(h1.isDigit && h2.isDigit) then none
      else
        let rest := rest.dropWhile (fun c => c == ':' || Text.isBlank c)
        match rest with
        | m1 :: m2 :: rest =>
          if m1.isDigit && m1 ≤ '5' && m2.isDigit then
            let secs : Int := (digitsValue [h1, h2] * 3600 + digitsValue [m1, m2] * 60 : Nat)
            some (if negative then -secs else secs, rest)
          else none
        | _ => none
    | _ => none

/-- Read a relaxed RFC 3339 text as an instant in UTC. -/
def parse? (s : String) : Option Instant := do
  let cs := s.toList
  let (y, cs) ← year cs
  let cs ← literal '-' cs
  let (mo, cs) ← field 12 cs
  let cs ← literal '-' cs
  let (d, cs) ← field 31 cs
  let cs ← match cs with
    | c :: rest => if c == 'T' || c == 't' || c == ' ' then some rest else none
    | [] => none
  let (h, cs) ← field 23 cs
  let cs ← literal ':' cs
  let (mi, cs) ← field 59 cs
  let cs ← literal ':' cs
  let (sec, cs) ← field 60 cs
  let (nanos, cs) ← fraction cs
  let (off, cs) ← offset cs
  if !(skipSpace cs).isEmpty then none
  if off.natAbs ≥ 86400 then none
  if !(-(Int.pow 2 31) ≤ y && y < Int.pow 2 31) then none
  if !(-262144 ≤ y && y ≤ 262143 && Calendar.validDate y mo d) then none
  let (sec, nanos) := if sec == 60 then (59, nanos + 1000000000) else (sec, nanos)
  let wall := Calendar.daysFromCivil y mo d * 86400 + ((h * 3600 + mi * 60 + sec : Nat) : Int)
  let utc := wall - off
  if minSeconds ≤ utc && utc ≤ maxSeconds then some ⟨utc, nanos⟩ else none

end Instant

end ForgeSync
