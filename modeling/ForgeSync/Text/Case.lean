/-!
# Letter case

Case mapping as the client uses it.  Names of hosting services and visibility words are
compared after ASCII case folding; service names are also accepted after full Unicode
lowercasing, and repository slugs are built from the full Unicode lowercase form.

Every caller of the full mapping asks only which ASCII characters the lowercase form holds.
Exactly three kinds of character have ASCII in their lowercase form: the ASCII capitals, the
capital I with dot above (U+0130, whose lowercase is `i` followed by the combining dot above
U+0307) and the Kelvin sign (U+212A, whose lowercase is `k`).  Every other character
lowercases to itself when it is ASCII, and to non-ASCII characters when it is not; so
`lowercase` maps those three kinds exactly and leaves every other character as it is, which
has the same ASCII content as its true lowercase form.
-/

namespace ForgeSync

namespace Text

/-- The full lowercase form of a character, exact wherever it holds ASCII characters; any
character whose lowercase form holds none is kept as it is. -/
def lowercase (c : Char) : List Char :=
  if c.toNat = 0x130 then ['i', Char.ofNat 0x307]
  else if c.toNat = 0x212A then ['k']
  else [c.toLower]

/-- The lowercase form of a text, character by character. -/
def lowercaseText (s : String) : String :=
  String.ofList (s.toList.flatMap lowercase)

/-- A text with its ASCII capitals made small and every other character kept. -/
def asciiLower (s : String) : String :=
  s.map Char.toLower

/-- A text with its ASCII small letters made capital and every other character kept. -/
def asciiUpper (s : String) : String :=
  s.map Char.toUpper

/-- Whether two texts agree once their ASCII letters are folded to one case. -/
def eqIgnoreAsciiCase (a b : String) : Bool :=
  asciiLower a == asciiLower b

end Text

end ForgeSync
