/-!
# JSON values

The hosting services speak JSON, and the client keeps a JSON tree for request bodies, for
decoded response bodies and for the values it passes through unchanged (the items of a page
envelope).

A number keeps the distinction a reader of JSON text makes: an integer literal that fits in
a signed or unsigned 64-bit word is held exactly; every other number literal (a fraction, an
exponent, negative zero, an integer outside those words) is a `real`, kept as written.  Only
integers decode into the client's counters and identifiers; a `real` never does.

Objects keep their members in the order given.  Lookup takes the last member of a name, as
a reader that stores members in a map does.
-/

namespace ForgeSync

/-- A JSON number: an integer that fits a 64-bit word, or any other literal as written. -/
inductive Number where
  | int (value : Int)
  | real (literal : String)
  deriving Repr, DecidableEq, Inhabited

/-- A JSON value with objects as ordered member lists. -/
inductive Json where
  | null
  | bool (b : Bool)
  | num (n : Number)
  | str (s : String)
  | arr (items : List Json)
  | obj (members : List (String × Json))
  deriving Repr, Inhabited

namespace Json

/-- The non-negative integer `n` as a JSON number. -/
def nat (n : Nat) : Json := .num (.int n)

/-- An optional string, with `null` for none. -/
def optStr : Option String → Json
  | some s => .str s
  | none => .null

/-- An optional natural number, with `null` for none. -/
def optNat : Option Nat → Json
  | some n => .nat n
  | none => .null

/-- The value of the last member named `key`, when the value is an object. -/
def get? (j : Json) (key : String) : Option Json :=
  match j with
  | .obj members => (members.reverse.find? (fun m => m.1 == key)).map (·.2)
  | _ => none

/-- The string held by a JSON string. -/
def asStr? : Json → Option String
  | .str s => some s
  | _ => none

/-- The items of a JSON array. -/
def asArr? : Json → Option (List Json)
  | .arr items => some items
  | _ => none

/-- The members of a JSON object. -/
def asObj? : Json → Option (List (String × Json))
  | .obj members => some members
  | _ => none

/-- The boolean held by a JSON boolean. -/
def asBool? : Json → Option Bool
  | .bool b => some b
  | _ => none

/-- The integer held by a JSON number that is an exact integer. -/
def asInt? : Json → Option Int
  | .num (.int i) => some i
  | _ => none

/-- The natural number held by a non-negative integer JSON number. -/
def asNat? (j : Json) : Option Nat :=
  match j.asInt? with
  | some i => if 0 ≤ i then some i.toNat else none
  | none => none

/-- Whether the value is `null`. -/
def isNull : Json → Bool
  | .null => true
  | _ => false

/-- Members of an object with each name kept once, at the value of its last occurrence and
in the position of its first, as a reader that stores members in a map sees them. -/
def dedupMembers (members : List (String × Json)) : List (String × Json) :=
  members.foldl
    (fun acc m =>
      if acc.any (fun a => a.1 == m.1) then
        acc.map (fun a => if a.1 == m.1 then m else a)
      else acc ++ [m])
    []

end Json

end ForgeSync
