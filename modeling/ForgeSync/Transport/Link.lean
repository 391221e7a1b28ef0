import ForgeSync.Text.Blank

/-!
# Link headers

GitHub names the next page of a listing in the link header of a response: a comma-separated
list of links, each a target in angle brackets followed by parameters after semicolons.  The
next page is read from the first link whose parameters include `rel="next"` and whose target
has a `page` query parameter holding a number; a link that names no such number is passed
over.  A number is decimal digits with an optional leading plus sign, below 2^64.
-/

namespace ForgeSync

namespace Link

/-- A page number: digits with an optional plus sign, below 2^64. -/
def pageNumber? (cs : List Char) : Option Nat :=
  let ds := match cs with
    | '+' :: rest => rest
    | _ => cs
  if !ds.isEmpty && ds.all Char.isDigit then
    let n := ds.foldl (fun acc c => acc * 10 + (c.toNat - '0'.toNat)) 0
    if n < Nat.pow 2 64 then some n else none
  else none

/-- The value of the first `page` parameter of a query that is a number. -/
def pageParam? (query : List Char) : Option Nat :=
  (query.splitOn '&').findSome? (fun pair =>
    match pair.splitOn '=' with
    | key :: rest@(_ :: _) =>
      if key == "page".toList then pageNumber? ("=".toList.intercalate rest) else none
    | _ => none)

/-- The query part of a link target: what follows its first question mark. -/
def queryOf? (target : List Char) : Option (List Char) :=
  match target.splitOn '?' with
  | _ :: rest@(_ :: _) => some ("?".toList.intercalate rest)
  | _ => none

/-- The next page one link names, if it is a `rel="next"` link with a numeric page. -/
def nextOfLink? (link : List Char) : Option Nat :=
  match link.splitOn ';' with
  | target :: params =>
    if params.any (fun p => Text.trimChars p == "rel=\"next\"".toList) then
      let url := ((Text.trimChars target).dropWhile (· == '<')).reverse.dropWhile (· == '>') |>.reverse
      (queryOf? url).bind pageParam?
    else none
  | [] => none

/-- The next page named by a link header. -/
def nextPage? (header : String) : Option Nat :=
  (header.toList.splitOn ',').findSome? nextOfLink?

end Link

end ForgeSync
