/-!
# Lossy UTF-8

Bytes read as UTF-8 text where every ill-formed part is replaced by U+FFFD: each maximal
prefix of a well-formed sequence that breaks off, and each byte that cannot start a
sequence, becomes one replacement character.
-/

namespace ForgeSync

namespace Text

/-- The continuation bytes a well-formed sequence allows after a leading byte, range by
range, or none when the byte cannot lead. -/
def continuationRanges (b : UInt8) : Option (List (UInt8 × UInt8)) :=
  if b < 0x80 then some []
  else if 0xC2 ≤ b && b ≤ 0xDF then some [(0x80, 0xBF)]
  else if b == 0xE0 then some [(0xA0, 0xBF), (0x80, 0xBF)]
  else if b == 0xED then some [(0x80, 0x9F), (0x80, 0xBF)]
  else if 0xE1 ≤ b && b ≤ 0xEF then some [(0x80, 0xBF), (0x80, 0xBF)]
  else if b == 0xF0 then some [(0x90, 0xBF), (0x80, 0xBF), (0x80, 0xBF)]
  else if 0xF1 ≤ b && b ≤ 0xF3 then some [(0x80, 0xBF), (0x80, 0xBF), (0x80, 0xBF)]
  else if b == 0xF4 then some [(0x80, 0x8F), (0x80, 0xBF), (0x80, 0xBF)]
  else none

/-- How many of the bytes match the ranges in order, from the front. -/
def matchingPrefix : List (UInt8 × UInt8) → List UInt8 → Nat
  | (lo, hi) :: rs, b :: bs => if lo ≤ b && b ≤ hi then matchingPrefix rs bs + 1 else 0
  | _, _ => 0

/-- The code point of a well-formed sequence. -/
def codePoint (lead : UInt8) (conts : List UInt8) : Nat :=
  let first :=
    if lead < 0x80 then lead.toNat
    else if lead < 0xE0 then lead.toNat % 0x20
    else if lead < 0xF0 then lead.toNat % 0x10
    else lead.toNat % 0x08
  conts.foldl (fun acc c => acc * 64 + c.toNat % 64) first

/-- Decode bytes, in reverse onto `acc`, replacing ill-formed parts; the recursion is on the
number of bytes left. -/
def decodeLossyAux (acc : List Char) (bs : List UInt8) : List Char :=
  match bs with
  | [] => acc.reverse
  | b :: rest =>
    match continuationRanges b with
    | none => decodeLossyAux ('�' :: acc) rest
    | some ranges =>
      let n := matchingPrefix ranges rest
      if n = ranges.length then
        decodeLossyAux (Char.ofNat (codePoint b (rest.take n)) :: acc) (rest.drop n)
      else decodeLossyAux ('�' :: acc) (rest.drop n)
termination_by bs.length
decreasing_by all_goals (simp only [List.length_cons, List.length_drop]; omega)

/-- Bytes as text, with U+FFFD for every ill-formed part. -/
def decodeLossy (bs : List UInt8) : String :=
  String.ofList (decodeLossyAux [] bs)

end Text

end ForgeSync
