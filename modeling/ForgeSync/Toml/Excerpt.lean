import ForgeSync.Toml.Value

/-!
# Showing where a document is at fault

A fault with a place is shown as a title naming its line and column, the line of the document
under a gutter that holds the line's number, a row of carets under the stretch the fault
concerns, and the message:

```text
TOML parse error at line 1, column 12
  |
1 | provider =
  |            ^
invalid string
```

* Lines and columns count from one.  A column counts the characters before the place on its
  line, but when the place is at a character beyond ASCII it counts their bytes instead.
* A place at the end of the document stands on the document's last character, one column past
  it: it is on that character's line.
* The carets cover the stretch's bytes, no further than the line's bytes after the column, and
  there is always at least one.

A fault without a place is shown as its message alone.  Either way the text ends with a line
break.
-/

namespace ForgeSync

namespace Toml

/-- The number of bytes that characters take in UTF-8. -/
def byteCount (cs : List Char) : Nat := (cs.map Char.utf8Size).foldr (· + ·) 0

/-- Where a character index of a document lies: the index at which its line starts, and the
line's number from zero. -/
def lineOf (cs : List Char) (i : Nat) : Nat × Nat :=
  let before := cs.take i
  let start := i - (before.reverse.takeWhile (· != '\n')).length
  (start, ((cs.take start).filter (· == '\n')).length)

/-- The column, from zero, of a character index `i` on the line that starts at `start`, for a
document of `cs`. -/
def columnOf (cs : List Char) (start i : Nat) : Nat :=
  match cs[i]? with
  | some c => if c.toNat < 0x80 then i - start else byteCount ((cs.drop start).take (i - start))
  | none => i - start

/-- A fault shown against the document `text` it was found in. -/
def Fault.render (text : String) (f : Fault) : String :=
  match f.span with
  | none => f.message ++ "\n"
  | some sp =>
    let cs := text.toList
    let n := cs.length
    let i := n - sp.first
    let stop := n - sp.last
    -- A place at the end stands on the last character.
    let standing := if i < n then i else n - 1
    let (start, line) := lineOf cs standing
    let column := if n == 0 then 0 else columnOf cs start i
    let content := (cs.drop start).takeWhile (· != '\n')
    let width := min (byteCount ((cs.drop i).take (stop - i))) (byteCount content - column)
    let number := toString (line + 1)
    let gutter := String.ofList (List.replicate (number.length + 1) ' ')
    "TOML parse error at line " ++ number ++ ", column " ++ toString (column + 1) ++ "\n" ++
      gutter ++ "|\n" ++
      number ++ " | " ++ String.ofList content ++ "\n" ++
      gutter ++ "|" ++ String.ofList (List.replicate (column + 1) ' ') ++
        String.ofList (List.replicate (max width 1) '^') ++ "\n" ++
      f.message ++ "\n"

end Toml

end ForgeSync
