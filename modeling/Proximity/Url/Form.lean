import Proximity.Url.Basic
import Proximity.Text.Utf8

/-!
# Form-encoded text

The pairs of form-encoded text, such as the query of a URL: the pieces between `&`, each
split at its first `=` into a name and a value (a piece without `=` has an empty value);
empty pieces are skipped. In names and values `+` stands for a blank and `%XX` escapes are
decoded; bytes that do not read as UTF-8 become `U+FFFD`.
-/

namespace Proximity

namespace Url

/-- A form-encoded name or value, decoded. -/
def formDecode (s : String) : String :=
  Text.decodeLossy (percentDecode (s.toList.map fun c => if c == '+' then ' ' else c))

/-- The decoded name and value of one piece of form-encoded text. -/
def formPair (piece : String) : String × String :=
  match piece.toList.splitOn '=' with
  | name :: rest =>
    (formDecode (String.ofList name), formDecode (String.ofList (['='].intercalate rest)))
  | [] => ("", "")

/-- The pairs of form-encoded text, in order. -/
def formPairs (text : String) : List (String × String) :=
  (((text.toList.splitOn '&').map String.ofList).filter (!·.isEmpty)).map formPair

end Url

end Proximity
