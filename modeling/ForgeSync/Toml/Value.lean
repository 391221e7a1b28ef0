/-!
# TOML values

A TOML document is a table of keys to values: strings, integers, floats, booleans, date-times,
arrays and tables.  Floats and date-times keep their text.  Every value remembers where it was
written, and so does every key, so that a message about a value can point at it:

* a string, number, boolean, date-time, array or inline table spans its own text;
* a table with a header spans from its header to the end of the last value written in it, and
  the top table from the start of the document to the end of its last value;
* an array of tables spans from its first table to the end of its last;
* a table that only a dotted key or a longer header made has no span of its own.

Places are counted from the end of the document, as the number of characters after them: the
reader works on what is left of the text and sees places this way.

A fault says why a document cannot be read or used.  It is built the way the reader's grammar
nests: the innermost rule that names what it reads gives the label (`invalid string`), rules
add what they expected, and a rule that checks a value gives the cause.
-/

namespace ForgeSync

namespace Toml

/-- A stretch of a document: how many characters follow its start, and how many follow its
end. -/
structure Span where
  first : Nat
  last : Nat
  deriving Repr, DecidableEq, Inhabited

/-- The empty stretch at a place. -/
def Span.point (p : Nat) : Span := ⟨p, p⟩

/-- A key as written, and where. -/
structure Key where
  name : String
  span : Span
  deriving Repr, Inhabited

/-- How a table came to be written.  A header table is one with its own header, an array of
tables' element, or the top table; an implicit table was only named on the way to a header's;
a dotted table was made by a dotted key; an inline table was written in braces, and an inline
dotted table by a dotted key inside braces. -/
inductive Layout where
  | header
  | implicit
  | dotted
  | inline
  | inlineDotted
  deriving Repr, DecidableEq, Inhabited

/-- Whether a table was written in braces. -/
def Layout.isInline : Layout → Bool
  | .inline => true
  | .inlineDotted => true
  | _ => false

/-- A TOML value, with where it was written. -/
inductive Value where
  | string (s : String) (span : Span)
  | integer (i : Int) (span : Span)
  | float (text : String) (span : Span)
  | boolean (b : Bool) (span : Span)
  | datetime (text : String) (span : Span)
  | array (items : List Value) (span : Span)
  | tables (items : List Value)
  | table (layout : Layout) (entries : List (Key × Value)) (span : Option Span)
  deriving Inhabited

namespace Value

/-- Where a value was written.  An array of tables spans its tables. -/
def span? : Value → Option Span
  | .string _ s => some s
  | .integer _ s => some s
  | .float _ s => some s
  | .boolean _ s => some s
  | .datetime _ s => some s
  | .array _ s => some s
  | .table _ _ s => s
  | .tables items =>
    match items.head?.bind tableSpan?, items.getLast?.bind tableSpan? with
    | some a, some b => some ⟨a.first, b.last⟩
    | _, _ => none
where
  /-- The span of a table. -/
  tableSpan? : Value → Option Span
    | .table _ _ s => s
    | _ => none

/-- The name of a value's type, as messages about the making of tables say it. -/
def typeName : Value → String
  | .string .. => "string"
  | .integer .. => "integer"
  | .float .. => "float"
  | .boolean .. => "boolean"
  | .datetime .. => "datetime"
  | .array .. => "array"
  | .tables _ => "array of tables"
  | .table l _ _ => if l.isInline then "inline table" else "table"

end Value

/-- Why a document cannot be read or used, and where, when that is known.  The message is the
label, then what was expected, then the cause, each on its own line.  A soft fault is one that
an enclosing list may still take back: the list then ends before the item. -/
structure Fault where
  span : Option Span := none
  label : Option String := none
  expected : List String := []
  cause : Option String := none
  soft : Bool := false
  deriving Repr, Inhabited

namespace Fault

/-- A fault at a place with a cause. -/
def at? (span : Option Span) (cause : String) : Fault := { span, cause := some cause }

/-- The text of a fault. -/
def message (f : Fault) : String :=
  "\n".intercalate ((f.label.map ("invalid " ++ ·)).toList ++
    (if f.expected.isEmpty then [] else ["expected " ++ ", ".intercalate f.expected]) ++
    f.cause.toList)

/-- The fault as an enclosing rule that names what it reads sees it: the innermost label is
kept. -/
def labelled (name : String) (f : Fault) : Fault :=
  { f with label := f.label.orElse (fun _ => some name) }

/-- The fault with more that was expected. -/
def expecting (what : List String) (f : Fault) : Fault :=
  { f with expected := f.expected ++ what }

/-- The fault made final. -/
def hard (f : Fault) : Fault := { f with soft := false }

/-- The fault placed where it is, or else at `span`. -/
def orAt (span : Option Span) (f : Fault) : Fault :=
  { f with span := f.span.orElse (fun _ => span) }

end Fault

end Toml

end ForgeSync
