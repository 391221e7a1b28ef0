/-!
# Finding text in text

Whether one text occurs inside another, as a run of consecutive characters.
-/

namespace ForgeSync

namespace Text

/-- Whether `part` occurs in `cs` as consecutive characters. -/
def hasInfix (part : List Char) : List Char → Bool
  | [] => part.isEmpty
  | c :: rest => part.isPrefixOf (c :: rest) || hasInfix part rest

/-- Whether `part` occurs in `s`. -/
def containsText (s part : String) : Bool := hasInfix part.toList s.toList

end Text

end ForgeSync
