import ForgeSync.Toml.Value

/-!
# Building the tables of a document

A document is written as a run of statements: key/value pairs, table headers `[a.b]` and
array-of-tables headers `[[a.b]]`.  Pairs go into the table of the last header, or into the top
table before any header.  How a table came to be decides how it may still grow:

* a table named only on the way to a header's table is implicit, and one later header may
  define it (it then moves to the end of its parent's entries);
* a table with its own header may get no second header, and no dotted key reaches into it;
* a dotted key `a.b = 1` makes dotted tables, which later dotted keys extend and no header
  defines;
* an inline table `{ ... }` is a finished value that nothing outside its braces extends, but
  inside its braces a dotted key may reach into the inline tables already written there.

A header walks through arrays of tables into their last element.  `descend` is the one walk
that every statement uses; a pair must end in a table of the matching kind (a plain key in a
table that is not dotted, a dotted key in a dotted one), and its last key must be new.
-/

namespace ForgeSync

namespace Toml

/-- The entries of a table being built. -/
abbrev Entries := List (Key × Value)

namespace Entries

/-- The value under a key. -/
def lookup (es : Entries) (k : String) : Option Value :=
  (List.find? (fun e => e.1.name == k) es).map (·.2)

/-- Put a value under a key that is already there, in its place. -/
def replace (es : Entries) (k : String) (v : Value) : Entries :=
  es.map (fun e => if e.1.name == k then (e.1, v) else e)

/-- Remove a key. -/
def erase (es : Entries) (k : String) : Entries :=
  es.filter (fun e => e.1.name != k)

end Entries

/-- Characters of a bare key. -/
def isBareKeyChar (c : Char) : Bool := c.isAlphanum || c == '-' || c == '_'

/-- Four hexadecimal digits in upper case. -/
def hex4 (n : Nat) : String :=
  let digit (d : Nat) : Char := if d < 10 then Char.ofNat (48 + d) else Char.ofNat (55 + d)
  String.ofList [digit (n / 4096 % 16), digit (n / 256 % 16), digit (n / 16 % 16), digit (n % 16)]

/-- A text as a basic string: quoted, with the escapes TOML has for the characters that need
one. -/
def quoteBasic (s : String) : String :=
  let escaped (c : Char) : String :=
    if c == '\x08' then "\\b"
    else if c == '\t' then "\\t"
    else if c == '\n' then "\\n"
    else if c == '\x0c' then "\\f"
    else if c == '\r' then "\\r"
    else if c == '"' then "\\\""
    else if c == '\\' then "\\\\"
    else if c.toNat ≤ 0x1f || c.toNat == 0x7f then "\\u" ++ hex4 c.toNat
    else c.toString
  "\"" ++ String.join (s.toList.map escaped) ++ "\""

namespace Key

/-- A key as messages about headers show it: bare when it can be, else quoted. -/
def shown (k : Key) : String :=
  if !k.name.isEmpty && k.name.all isBareKeyChar then k.name else quoteBasic k.name

/-- The names of a run of keys joined by dots. -/
def path (ks : List Key) : String := ".".intercalate (ks.map (·.name))

end Key

/-- The cause of a key that is defined twice, with the table it is in when that is told. -/
def duplicateKey (k : String) : Option (List Key) → String
  | none => "duplicate key `" ++ k ++ "`"
  | some [] => "duplicate key `" ++ k ++ "` in document root"
  | some t => "duplicate key `" ++ k ++ "` in table `" ++ Key.path t ++ "`"

/-- The cause of a dotted key or header that runs into a value. -/
def extendsValue (walked : List Key) (v : Value) : String :=
  "dotted key `" ++ Key.path walked ++ "` attempted to extend non-table type (" ++ v.typeName ++
    ")"

/-- How a walk down a key path treats the tables on its way: a header makes implicit tables and
enters every table outside braces; a dotted key makes dotted tables and enters all but those
with a header of their own; inside braces a dotted key makes and enters inline tables. -/
inductive Walk where
  | header
  | dotted
  | inline
  deriving DecidableEq

/-- The kind of table a walk makes where a key is missing. -/
def Walk.makes : Walk → Layout
  | .header => .implicit
  | .dotted => .dotted
  | .inline => .inlineDotted

/-- What is done to the table a walk arrives at, given its layout, entries and span: its new
entries and span, or why not. -/
abbrev Change := Layout → Entries → Option Span → Except String (Entries × Option Span)

/-- Walk down `path` from a table with layout `l`, entries `es` and span `sp` (`walked` holds
the keys already passed), making missing tables, and change the table at its end with `f`.
Arrays of tables are entered at their last element. -/
def descend (w : Walk) (f : Change) (walked : List Key) :
    List Key → Layout → Entries → Option Span → Except String (Entries × Option Span)
  | [], l, es, sp => f l es sp
  | k :: ks, _, es, sp =>
    match es.lookup k.name with
    | none => do
      let (child, csp) ← descend w f (walked ++ [k]) ks w.makes [] none
      pure (es ++ [(k, .table w.makes child csp)], sp)
    | some v =>
      match w, v with
      | .inline, .table l' child csp =>
        if l'.isInline then do
          let (child', csp') ← descend w f (walked ++ [k]) ks l' child csp
          pure (es.replace k.name (.table l' child' csp'), sp)
        else .error (extendsValue (walked ++ [k]) v)
      | .inline, _ => .error (extendsValue (walked ++ [k]) v)
      | _, .tables items =>
        match items.getLast? with
        | some (.table l' child csp) => do
          let (child', csp') ← descend w f (walked ++ [k]) ks l' child csp
          pure (es.replace k.name (.tables (items.dropLast ++ [.table l' child' csp'])), sp)
        | _ => .error (extendsValue (walked ++ [k]) v)
      | _, .table l' child csp =>
        if l'.isInline then .error (extendsValue (walked ++ [k]) v)
        else if w == .dotted && l' == .header then .error (duplicateKey k.name none)
        else do
          let (child', csp') ← descend w f (walked ++ [k]) ks l' child csp
          pure (es.replace k.name (.table l' child' csp'), sp)
      | _, _ => .error (extendsValue (walked ++ [k]) v)

/-- Put the pair `path.k = v` into a table with layout `l`: the dotted part walks, and the
table it ends in must be dotted exactly when the key is. -/
def putPair (w : Walk) (path : List Key) (k : Key) (v : Value) (table : Option (List Key)) :
    Change := fun l es sp =>
  descend w (fun l' es' sp' =>
    if (l' == .dotted || l' == .inlineDotted) == path.isEmpty then
      .error (duplicateKey k.name none)
    else match es'.lookup k.name with
      | some _ => .error (duplicateKey k.name table)
      | none => .ok (es' ++ [(k, v)], sp')) [] path l es sp

/-- A span stretched to the end of a value. -/
def widen (sp : Option Span) (v : Value) : Option Span :=
  match sp, v.span? with
  | some s, some vs => some ⟨s.first, vs.last⟩
  | _, _ => sp

/-- A document being built: its top table and that table's span, and the header keys of the
table that pairs now go to. -/
structure Builder where
  root : Entries := []
  span : Option Span
  current : List Key := []

namespace Builder

/-- Take a pair `path.k = v` into the current table, which then spans to the end of `v`. -/
def pair (b : Builder) (path : List Key) (k : Key) (v : Value) : Except String Builder := do
  let (root, span) ← descend .header (fun l es sp => do
      let (es', _) ← putPair .dotted path k v (some b.current) l es sp
      pure (es', widen sp v)) [] b.current .header b.root b.span
  pure { b with root, span }

/-- Take a header `[path.k]` spanning `hs`: a new table, or an implicit one that now has its
header. -/
def header (b : Builder) (path : List Key) (k : Key) (hs : Span) : Except String Builder := do
  let (root, span) ← descend .header (fun _ es sp =>
      match es.lookup k.name with
      | none => .ok (es ++ [(k, .table .header [] (some hs))], sp)
      | some (.table .implicit child _) =>
        .ok (es.erase k.name ++ [(k, .table .header child (some hs))], sp)
      | some _ => .error (duplicateKey k.shown (some path))) [] path .header b.root b.span
  pure { root, span, current := path ++ [k] }

/-- Take a header `[[path.k]]` spanning `hs`: a new table at the end of the array of tables
`k`, which is made if it is new. -/
def arrayHeader (b : Builder) (path : List Key) (k : Key) (hs : Span) : Except String Builder := do
  let (root, span) ← descend .header (fun _ es sp =>
      match es.lookup k.name with
      | none => .ok (es ++ [(k, .tables [.table .header [] (some hs)])], sp)
      | some (.tables items) =>
        .ok (es.replace k.name (.tables (items ++ [.table .header [] (some hs)])), sp)
      | some _ => .error (duplicateKey k.shown (some path))) [] path .header b.root b.span
  pure { root, span, current := path ++ [k] }

/-- The document's top table. -/
def value (b : Builder) : Value := .table .header b.root b.span

end Builder

/-- The entries of an inline table written as these pairs, each a dotted part, a last key and a
value. -/
def inlineEntries (pairs : List (List Key × Key × Value)) : Except String Entries :=
  pairs.foldlM (fun es (path, k, v) => do
    let (es', _) ← putPair .inline path k v none .inline es none
    pure es') []

end Toml

end ForgeSync
