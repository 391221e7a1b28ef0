import ForgeSync.Json.Value
import ForgeSync.Json.Write

/-!
# Reading records from JSON

A record is read from JSON in one of two shapes.  From an object, each field takes the member
of its name; other members are ignored, and a field named twice is an error.  From an array,
the fields take the items in order, and an array longer than the record is an error.

A field that is not given is filled by its rule: a required field makes reading fail; an
optional field is absent; a field with a default takes it.  An optional field without a
default may be left out of an object but not off the end of an array, which is the rule of
the derived readers whose wire formats this client reads.  Optional values are also absent
when given as `null`.

A failure says what was wrong in the words of those readers: a missing or repeated field, a
value of the wrong type or an unknown word, or an array of the wrong length.
-/

namespace ForgeSync

namespace Json

/-- The result of reading a value: the value, or what was wrong. -/
abbrev Decoded := Except String

/-- How a failure describes a value it did not expect. -/
def unexpected : Json → String
  | .null => "null"
  | .bool b => "boolean `" ++ toString b ++ "`"
  | .num (.int i) => "integer `" ++ toString i ++ "`"
  | .num (.real t) => "floating point `" ++ t ++ "`"
  | .str s => "string " ++ quote s
  | .arr _ => "sequence"
  | .obj _ => "map"

/-- The failure for a value of the wrong type. -/
def invalidType {α : Type} (j : Json) (expected : String) : Decoded α :=
  .error ("invalid type: " ++ unexpected j ++ ", expected " ++ expected)

/-- What a record field finds: a value, or no member of its name, or no item at its
position. -/
inductive Slot where
  | given (j : Json)
  | noMember (name : String)
  | noItem (index : Nat) (record : String) (size : Nat)
  deriving Inhabited

/-- The slots of a record's fields, by name from an object or by position from an array. -/
def slots (record : String) (names : List String) (j : Json) : Decoded (List Slot) :=
  match j with
  | .obj members =>
    match names.find? (fun n => (members.filter (fun m => m.1 == n)).length > 1) with
    | some n => .error ("duplicate field `" ++ n ++ "`")
    | none => .ok (names.map (fun n =>
        match members.find? (fun m => m.1 == n) with
        | some m => .given m.2
        | none => .noMember n))
  | .arr items =>
    if items.length > names.length then
      .error ("invalid length " ++ toString items.length ++ ", expected fewer elements in array")
    else .ok ((List.range names.length).map (fun i =>
      match items[i]? with
      | some v => .given v
      | none => .noItem i record names.length))
  | _ => invalidType j ("struct " ++ record)

namespace Slot

/-- The failure for a field that is not given. -/
def missing {α : Type} : Slot → Decoded α
  | .noMember n => .error ("missing field `" ++ n ++ "`")
  | .noItem i r n =>
    .error ("invalid length " ++ toString i ++ ", expected struct " ++ r ++ " with " ++ toString n ++
      (if n == 1 then " element" else " elements"))
  | .given _ => .error "missing field"

/-- A field that must be given. -/
def required {α : Type} (read : Json → Decoded α) : Slot → Decoded α
  | .given j => read j
  | s => s.missing

/-- A field that takes a default when not given. -/
def orDefault {α : Type} (d : α) (read : Json → Decoded α) : Slot → Decoded α
  | .given j => read j
  | _ => .ok d

/-- An optional field without a default: absent when `null` or not a member, but required
at its position in an array. -/
def optional {α : Type} (read : Json → Decoded α) : Slot → Decoded (Option α)
  | .given .null => .ok none
  | .given j => (read j).map some
  | .noMember _ => .ok none
  | s => s.missing

/-- An optional field with a default: absent when `null` or not given at all. -/
def optionalOrAbsent {α : Type} (read : Json → Decoded α) : Slot → Decoded (Option α)
  | .given .null => .ok none
  | .given j => (read j).map some
  | _ => .ok none

end Slot

/-! ### Values -/

/-- A string. -/
def readStr (j : Json) : Decoded String :=
  match j with
  | .str s => .ok s
  | _ => invalidType j "a string"

/-- A boolean. -/
def readBool (j : Json) : Decoded Bool :=
  match j with
  | .bool b => .ok b
  | _ => invalidType j "a boolean"

/-- An unsigned 64-bit integer. -/
def readU64 (j : Json) : Decoded Nat :=
  match j with
  | .num (.int i) =>
    if 0 ≤ i ∧ i < Int.pow 2 64 then .ok i.toNat
    else .error ("invalid value: integer `" ++ toString i ++ "`, expected u64")
  | _ => invalidType j "u64"

/-- A signed 64-bit integer. -/
def readI64 (j : Json) : Decoded Int :=
  match j with
  | .num (.int i) =>
    if -(Int.pow 2 63) ≤ i ∧ i < Int.pow 2 63 then .ok i
    else .error ("invalid value: integer `" ++ toString i ++ "`, expected i64")
  | _ => invalidType j "i64"

/-- Any value, kept as it is. -/
def readAny (j : Json) : Decoded Json := .ok j

/-- One of a fixed list of words. -/
def readWord {α : Type} (words : List (String × α)) (j : Json) : Decoded α :=
  match j with
  | .str s =>
    match words.find? (fun w => w.1 == s) with
    | some w => .ok w.2
    | none => .error ("unknown variant `" ++ s ++ "`, expected one of " ++
        ", ".intercalate (words.map (fun w => "`" ++ w.1 ++ "`")))
  | _ => invalidType j "a word"

/-- An array, each item read alike. -/
def readList {α : Type} (read : Json → Decoded α) (j : Json) : Decoded (List α) :=
  match j with
  | .arr items => items.mapM read
  | _ => invalidType j "a sequence"

/-- An object as a map from names to values, each value read alike; a name given twice keeps
its last value, and the entries are sorted by name. -/
def readMap {α : Type} (read : Json → Decoded α) (j : Json) : Decoded (List (String × α)) :=
  match j with
  | .obj members => do
    let entries ← members.mapM (fun m => (read m.2).map (fun v => (m.1, v)))
    let lastFirst := entries.reverse.foldl
      (fun acc e => if acc.any (fun a => a.1 == e.1) then acc else acc ++ [e]) []
    pure (lastFirst.mergeSort (fun a b => decide (a.1 ≤ b.1)))
  | _ => invalidType j "a map"

end Json

end ForgeSync
