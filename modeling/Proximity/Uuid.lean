import Proximity.Text.Ascii

/-!
# UUID texts

A UUID is written as 32 hexadecimal digits, either all together or in the groups
8-4-4-4-12 joined by hyphens; the grouped form may stand in braces or after `urn:uuid:`.
Digits of either case are accepted.
-/

namespace Proximity

namespace Uuid

/-- Whether the characters are hexadecimal digits in groups of 8, 4, 4, 4 and 12 joined
by hyphens. -/
def isGrouped (cs : List Char) : Bool :=
  cs.length == 36 &&
    (cs.zipIdx.all fun (c, i) =>
      if i == 8 || i == 13 || i == 18 || i == 23 then c == '-' else Text.isHexDigit c)

/-- Whether a text is a UUID in one of its accepted forms. -/
def isValidText (s : String) : Bool :=
  let cs := s.toList
  if s.utf8ByteSize == 32 then cs.length == 32 && cs.all Text.isHexDigit
  else if s.utf8ByteSize == 36 then isGrouped cs
  else if s.utf8ByteSize == 38 then
    cs.head? == some '{' && cs.getLast? == some '}' && isGrouped ((cs.drop 1).dropLast)
  else if s.utf8ByteSize == 45 then
    cs.take 9 == "urn:uuid:".toList && isGrouped (cs.drop 9)
  else false

end Uuid

end Proximity
