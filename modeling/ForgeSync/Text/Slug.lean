import ForgeSync.Text.Case

/-!
# Slugs

A repository's slug is the form of its name that hosting services use in paths: lowercase
ASCII letters and digits, dot and underscore, with every other run of characters written as
one hyphen and no hyphen at either end.

The name is lowercased with the full Unicode mapping first, so a character whose lowercase
form holds an ASCII letter contributes that letter.  The characters are then read one by one:
a slug character is kept, any other becomes a hyphen unless the slug so far is empty or
already ends in one; a hyphen left at the end is dropped.  Blanks around the name need no
trimming first: they leave the slug as it is.
-/

namespace ForgeSync

namespace Text

/-- The characters a slug keeps as they are. -/
def isSlugChar (c : Char) : Bool :=
  ('a' ≤ c && c ≤ 'z') || ('0' ≤ c && c ≤ '9') || c == '.' || c == '_'

/-- Add one lowercased character to a slug written so far, in reverse order. -/
def slugStep (acc : List Char) (c : Char) : List Char :=
  if isSlugChar c then c :: acc
  else
    match acc with
    | [] => []
    | '-' :: _ => acc
    | _ => '-' :: acc

/-- The slug of a list of characters, before any trailing hyphen is dropped, in reverse. -/
def slugRev (cs : List Char) : List Char :=
  (cs.flatMap lowercase).foldl slugStep []

/-- The slug of a name. -/
def slugify (name : String) : String :=
  match slugRev name.toList with
  | '-' :: rest => String.ofList rest.reverse
  | acc => String.ofList acc.reverse

end Text

end ForgeSync
