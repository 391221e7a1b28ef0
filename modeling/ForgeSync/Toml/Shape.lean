import ForgeSync.Toml.Value
import ForgeSync.Decimal

/-!
# The shape of a settings document

A settings document is read into records: tables with known keys, or arrays that give the
fields in order.  A `Shape` says what each value must be: text, a boolean, a whole number in a
range, a list, one word of a closed set, or a record.  `conform` checks a value against a
shape and gives the first fault in reading order:

* a record read from a table takes its entries in order: an unknown key is a fault at the key,
  a known one's value is checked at once; a required field that is absent is a fault after
  all entries, in the order the fields are declared, at the table;
* a record read from an array takes its fields in order from the items; a missing item is a
  fault unless the field has a default, and extra items are ignored;
* a word is a string, or a table whose first entry's key is the word and whose value is empty
  (an inline table must have exactly one entry);
* a fault inside a value that does not say where it is points at that value, or, for a table
  without a span of its own, at its key.

The messages name what was found and what was expected the way the record readers of the
settings files word them.
-/

namespace ForgeSync

namespace Toml

/-- Whether a record's field may be absent: a required one may not; an optional one may be
absent from a table but not from an array; a defaulted one may be absent from either. -/
inductive Presence where
  | required
  | optional
  | defaulted
  deriving DecidableEq, Repr

/-- What a value of a settings document must be. -/
inductive Shape where
  /-- Text. -/
  | text
  /-- A boolean. -/
  | flag
  /-- A whole number from zero up to below `bound`, which messages call `name`. -/
  | count (bound : Nat) (name : String)
  /-- An array of items of one shape. -/
  | list (item : Shape)
  /-- One word of a closed set. -/
  | word (words : List String)
  /-- A record called `name`, with its fields in order. -/
  | record (name : String) (fields : List (String × Presence × Shape))

/-! ### Messages -/

/-- Lower-case hexadecimal digits of a number. -/
def hexLower (n : Nat) : String :=
  String.ofList (Nat.toDigits 16 n)

/-- Whether a character is shown as it is when text is quoted in a message: printable ASCII and
the characters beyond ASCII that are neither controls, nor combining marks, nor invisible
format and separator characters. -/
def isShown (c : Char) : Bool :=
  let n := c.toNat
  if n < 0x20 || n == 0x7f then false
  else if n < 0x7f then true
  else if n ≤ 0x9f || n == 0xa0 || n == 0xad then false
  else if 0x300 ≤ n && n ≤ 0x36f then false
  else if n == 0x1680 || (0x2000 ≤ n && n ≤ 0x200f) || (0x2028 ≤ n && n ≤ 0x202f) then false
  else if (0x205f ≤ n && n ≤ 0x2064) || n == 0x3000 || n == 0xfeff then false
  else if 0xfff9 ≤ n && n ≤ 0xfffb then false
  else if 0xe000 ≤ n && n ≤ 0xf8ff then false
  else true

/-- Text in double quotes as messages show it: quotes and backslashes escaped, common controls
as `\t \r \n \0`, and other characters that are not shown as `\u{hex}`. -/
def quoted (s : String) : String :=
  let one (c : Char) : String :=
    if c == '\x00' then "\\0"
    else if c == '\t' then "\\t"
    else if c == '\r' then "\\r"
    else if c == '\n' then "\\n"
    else if c == '\\' then "\\\\"
    else if c == '"' then "\\\""
    else if isShown c then c.toString
    else "\\u\x7b" ++ hexLower c.toNat ++ "\x7d"
  "\"" ++ String.join (s.toList.map one) ++ "\""

/-- The text of a float as a value of the settings reader shows it. -/
def floatShown (text : String) : String :=
  let cs := text.toList.filter (· != '_')
  let (negative, body) : Bool × List Char :=
    match cs with
    | '-' :: r => (true, r)
    | '+' :: r => (false, r)
    | _ => (false, cs)
  match body with
  | ['n', 'a', 'n'] => "NaN"
  | ['i', 'n', 'f'] => if negative then "-inf" else "inf"
  | _ =>
    let mantissa := body.takeWhile (fun c => c != 'e' && c != 'E')
    let expPart := (body.dropWhile (fun c => c != 'e' && c != 'E')).drop 1
    let intDs := mantissa.takeWhile (· != '.')
    let fracDs := (mantissa.dropWhile (· != '.')).drop 1
    let (expNeg, expDs) : Bool × List Char :=
      match expPart with
      | '-' :: r => (true, r)
      | '+' :: r => (false, r)
      | r => (false, r)
    let digitsOf (ds : List Char) : Nat := ds.foldl (fun n c => n * 10 + (c.toNat - 48)) 0
    let e : Int := if expNeg then -(digitsOf expDs : Int) else digitsOf expDs
    Decimal.display negative (digitsOf (intDs ++ fracDs)) (e - fracDs.length)

namespace Value

/-- How a message names a value that has the wrong type. -/
def unexpected : Value → String
  | .string s _ => "string " ++ quoted s
  | .integer i _ => "integer `" ++ toString i ++ "`"
  | .float t _ => "floating point `" ++ floatShown t ++ "`"
  | .boolean b _ => "boolean `" ++ (if b then "true" else "false") ++ "`"
  | .datetime .. => "map"
  | .array .. => "sequence"
  | .tables _ => "sequence"
  | .table .. => "map"

end Value

/-- A list of names as messages offer them: one, two joined by `or`, or `one of` many. -/
def oneOf (names : List String) : String :=
  let tick (n : String) : String := "`" ++ n ++ "`"
  match names with
  | [a] => tick a
  | [a, b] => tick a ++ " or " ++ tick b
  | _ => "one of " ++ ", ".intercalate (names.map tick)

/-- The cause of a key that a record does not have. -/
def unknownField (k : String) (names : List String) : String :=
  if names.isEmpty then "unknown field `" ++ k ++ "`, there are no fields"
  else "unknown field `" ++ k ++ "`, expected " ++ oneOf names

/-- The cause of a word outside its set. -/
def unknownVariant (k : String) (words : List String) : String :=
  if words.isEmpty then "unknown variant `" ++ k ++ "`, there are no variants"
  else "unknown variant `" ++ k ++ "`, expected " ++ oneOf words

/-- The cause of a value of the wrong type. -/
def invalidType (v : Value) (expected : String) : String :=
  "invalid type: " ++ v.unexpected ++ ", expected " ++ expected

/-- The key under which a date-time shows itself to a record. -/
def datetimeKey : String := "$__toml_private_datetime"

/-! ### Checking -/

/-- A fault at a place, with a cause. -/
def faultAt {α : Type} (span : Option Span) (cause : String) : Except Fault α :=
  .error (Fault.at? span cause)

/-- The value a word's table entry holds must be empty. -/
def emptyVariant (v : Value) : Except Fault Unit :=
  match v with
  | .array [] _ => .ok ()
  | .array _ sp => faultAt (some sp) "expected empty array"
  | .tables [] => .ok ()
  | .tables _ => faultAt v.span? "expected empty array"
  | .table _ [] _ => .ok ()
  | .table _ _ sp => faultAt sp "expected empty table"
  | _ => faultAt v.span? ("expected table, found " ++ v.typeName)

/-- A word of `words`: a string, or a table entry naming it with an empty value. -/
def conformWord (words : List String) (v : Value) : Except Fault Unit :=
  let entry (k : Key) (inner : Value) : Except Fault Unit :=
    if words.contains k.name then emptyVariant inner
    else faultAt (some k.span) (unknownVariant k.name words)
  match v with
  | .string s sp => if words.contains s then .ok () else faultAt (some sp) (unknownVariant s words)
  | .table l entries sp =>
    if l.isInline then
      match entries with
      | [] => faultAt sp "wanted exactly 1 element, found 0 elements"
      | [(k, inner)] => entry k inner
      | _ => faultAt sp "wanted exactly 1 element, more than 1 element"
    else
      match entries with
      | [] => faultAt sp "expected table with exactly 1 entry, found empty table"
      | (k, inner) :: _ => entry k inner
  | _ => faultAt v.span? "wanted string or table"

/-- The cause of an array too short for a record. -/
def invalidLength (index : Nat) (name : String) (count : Nat) : String :=
  "invalid length " ++ toString index ++ ", expected struct " ++ name ++ " with " ++
    toString count ++ (if count == 1 then " element" else " elements")

/-- The names of a record's fields. -/
def fieldNames (fields : List (String × Presence × Shape)) : List String := fields.map (·.1)

/-- The names of a record shape's fields; other shapes have none. -/
def Shape.names : Shape → List String
  | .record _ fields => fieldNames fields
  | _ => []

/-- The first required field that a table's entries lack. -/
def missingField (fields : List (String × Presence × Shape)) (entries : List (Key × Value)) :
    Option String :=
  (fields.find? (fun f => f.2.1 == .required && !entries.any (·.1.name == f.1))).map (·.1)

/-- The fields that an array too short for a record leaves without an item, the `index`-th
first: each must have a default. -/
def lackingFields (name : String) (count index : Nat) :
    List (String × Presence × Shape) → Except Fault Unit
  | [] => .ok ()
  | (_, p, _) :: fields =>
    if p == .defaulted then lackingFields name count (index + 1) fields
    else faultAt none (invalidLength index name count)

mutual

/-- Check a value against a shape, leaving faults about the value itself without a place. -/
def conformHere : Shape → Value → Except Fault Unit
  | .text, .string .. => .ok ()
  | .text, v => faultAt none (invalidType v "a string")
  | .flag, .boolean .. => .ok ()
  | .flag, v => faultAt none (invalidType v "a boolean")
  | .count bound name, .integer i _ =>
    if 0 ≤ i && i < bound then .ok ()
    else faultAt none ("invalid value: integer `" ++ toString i ++ "`, expected " ++ name)
  | .count _ name, v => faultAt none (invalidType v name)
  | .list item, .array items _ => conformItems item items
  | .list item, .tables items => conformItems item items
  | .list _, v => faultAt none (invalidType v "a sequence")
  | .word words, v => conformWord words v
  | .record _ fields, .table _ entries _ => do
    conformEntries (fieldNames fields) fields entries
    match missingField fields entries with
    | some f => faultAt none ("missing field `" ++ f ++ "`")
    | none => .ok ()
  | .record name fields, .array items _ => conformFields name fields.length 0 fields items
  | .record name fields, .tables items => conformFields name fields.length 0 fields items
  | .record _ fields, .datetime .. => faultAt none (unknownField datetimeKey (fieldNames fields))
  | .record name _, v => faultAt none (invalidType v ("struct " ++ name))
termination_by structural _ v => v

/-- Check the items of an array, each against one shape; a fault points at its item. -/
def conformItems (s : Shape) : List Value → Except Fault Unit
  | [] => .ok ()
  | v :: rest => do
    (conformHere s v).mapError (Fault.orAt v.span?)
    conformItems s rest
termination_by structural vs => vs

/-- Check a table's entries in order against a record's fields; a fault points at its value,
or else at its key. -/
def conformEntries (names : List String) (fields : List (String × Presence × Shape)) :
    List (Key × Value) → Except Fault Unit
  | [] => .ok ()
  | (k, v) :: rest => do
    match fields.find? (·.1 == k.name) with
    | none => faultAt (some k.span) (unknownField k.name names)
    | some (_, _, s) =>
      (conformHere s v).mapError (fun f => (f.orAt v.span?).orAt (some k.span))
    conformEntries names fields rest
termination_by structural es => es

/-- Check an array's items in order against a record's fields, the `index`-th field next. -/
def conformFields (name : String) (count index : Nat) :
    List (String × Presence × Shape) → List Value → Except Fault Unit
  | [], _ => .ok ()
  | (_, _, s) :: fields, v :: rest => do
    (conformHere s v).mapError (Fault.orAt v.span?)
    conformFields name count (index + 1) fields rest
  | fields, [] => lackingFields name count index fields
termination_by structural _ vs => vs

end

/-- Check a value against a shape.  A fault that does not say where it is points at the
value. -/
def conform (s : Shape) (v : Value) : Except Fault Unit :=
  (conformHere s v).mapError (Fault.orAt v.span?)

/-! ### Reading a conforming value -/

namespace Value

/-- The field `name` of a record whose fields are `names`: a table's entry, or an array's item
at the field's place. -/
def field? (names : List String) (name : String) : Value → Option Value
  | .table _ entries _ => (entries.find? (·.1.name == name)).map (·.2)
  | .array items _ => (names.idxOf? name).bind (items[·]?)
  | .tables items => (names.idxOf? name).bind (items[·]?)
  | _ => none

/-- The text of a string. -/
def text? : Value → Option String
  | .string s _ => some s
  | _ => none

/-- A boolean. -/
def flag? : Value → Option Bool
  | .boolean b _ => some b
  | _ => none

/-- A whole number that is not negative. -/
def count? : Value → Option Nat
  | .integer i _ => if 0 ≤ i then some i.toNat else none
  | _ => none

/-- The items of an array or an array of tables. -/
def items : Value → List Value
  | .array items _ => items
  | .tables items => items
  | _ => []

/-- The word a value names: a string, or the key of a table's first entry. -/
def word? : Value → Option String
  | .string s _ => some s
  | .table _ ((k, _) :: _) _ => some k.name
  | _ => none

end Value

end Toml

end ForgeSync
