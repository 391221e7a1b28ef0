/-!
# Blank characters

The characters with the Unicode property White_Space, and the text operations that treat
them as blanks: trimming, testing for an all-blank text, and splitting into words.  Hosting
services hand back names, descriptions and keys that may be padded with any of them, and the
client compares and normalises such text by this one class.

Main statement: every ASCII blank of core (`Char.isWhitespace`) is a blank here.
-/

namespace ForgeSync

namespace Text

/-- The Unicode White_Space characters: the ASCII tab to carriage return and space, next
line, no-break space, ogham space mark, the spaces from en quad to hair space, line and
paragraph separators, narrow no-break space, medium mathematical space and ideographic space. -/
def isBlank (c : Char) : Bool :=
  let n := c.toNat
  (0x09 ≤ n && n ≤ 0x0D) || n == 0x20 || n == 0x85 || n == 0xA0 || n == 0x1680 ||
  (0x2000 ≤ n && n ≤ 0x200A) || n == 0x2028 || n == 0x2029 || n == 0x202F ||
  n == 0x205F || n == 0x3000

/-- Whether a text is empty once its blanks are trimmed, that is, holds blanks only. -/
def isBlankText (s : String) : Bool :=
  s.toList.all isBlank

/-- Drop the blanks at both ends of a list of characters. -/
def trimChars (cs : List Char) : List Char :=
  ((cs.dropWhile isBlank).reverse.dropWhile isBlank).reverse

/-- A text without the blanks at both of its ends. -/
def trim (s : String) : String :=
  String.ofList (trimChars s.toList)

/-- Split a list of characters at runs of blanks, dropping empty pieces. -/
def wordsOf (cs : List Char) : List (List Char) :=
  (cs.splitOnP isBlank).filter (fun w => !w.isEmpty)

/-- The words of a text: its maximal runs of non-blank characters, in order. -/
def words (s : String) : List String :=
  (wordsOf s.toList).map String.ofList

theorem isBlank_of_isWhitespace {c : Char} (h : c.isWhitespace = true) : isBlank c = true := by
  simp only [Char.isWhitespace, Bool.or_eq_true, decide_eq_true_eq] at h
  simp only [isBlank, Bool.or_eq_true, Bool.and_eq_true, decide_eq_true_eq, beq_iff_eq]
  rcases h with ((h | h) | h) | h <;> subst h <;> decide

end Text

end ForgeSync
