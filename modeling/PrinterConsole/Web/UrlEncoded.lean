/-
  The encoding of forms and queries: names and texts joined by `=`, and pairs joined by `&`.

  A blank is written as `+`.  A piece without `=` is a name with an empty text, and an empty piece
  is nothing.

  `decode` never fails: whatever is sent has some pairs, possibly none.  The order of the pairs is
  the order they were sent in, and a name may occur several times.
-/
import PrinterConsole.Text.Part
import PrinterConsole.Web.PercentCode

namespace PrinterConsole.Web.UrlEncoded

open PrinterConsole.Text

/-- A name or a text of a pair; `+` is read before the percent codes, so a coded plus stays one. -/
def decodePart (cs : List Char) : String :=
  String.ofList (percentDecode (cs.map fun c => if c = '+' then ' ' else c))

/-- A piece as a pair: it is parted at its first `=`. -/
def decodePair (cs : List Char) : String × String :=
  (decodePart (cs.takeWhile (· ≠ '=')), decodePart ((cs.dropWhile (· ≠ '=')).drop 1))

/-- The pairs of the encoded `text`, in their order. -/
def decode (text : String) : List (String × String) :=
  ((splitOn '&' text.toList).filter fun piece => !piece.isEmpty).map decodePair

/-- The marks that need no code in a query. -/
def isQueryMark (c : Char) : Bool := "!$'()*,/:;?@".toList.contains c

/-- The name or the text `s` of a pair, encoded. -/
def encodePart (s : String) : List Char :=
  s.toList.flatMap fun c => if c = ' ' then ['+'] else percentChar isQueryMark c

/-- The pair `p`, encoded. -/
def encodePair (p : String × String) : List Char := encodePart p.1 ++ '=' :: encodePart p.2

/-- The encoded text of the `pairs`. -/
def encode (pairs : List (String × String)) : String :=
  String.ofList (['&'].intercalate (pairs.map encodePair))

end PrinterConsole.Web.UrlEncoded
