/-
  Percent codes: characters of an address written as `%` and two hexadecimal digits for each of
  their bytes.

  Decoding goes over the ASCII stretches of a text (`decodeStretch`).  Bytes that are no text stay
  as they are written, with upper case digits.

  Encoding leaves the characters that are plain everywhere (`isPlain`) and those that are safe
  where the text stands; paths and queries have marks of their own.
-/
import PrinterConsole.Json.Reader

namespace PrinterConsole.Web

/-! ## Encoding -/

/-- The hexadecimal digit of `n` in upper case. -/
def hexDigit (n : Nat) : Char := if n < 10 then Char.ofNat (0x30 + n) else Char.ofNat (0x37 + n)

/-- The byte `b` as a percent code. -/
def byteCode (b : Nat) : List Char := ['%', hexDigit (b / 16), hexDigit (b % 16)]

/-- The bytes of the character `c`. -/
def bytesOf (c : Char) : List Nat := (String.utf8EncodeChar c).map UInt8.toNat

/-- The character `c` is a letter, a digit, or one of the marks that never need a code. -/
def isPlain (c : Char) : Bool := c.isAlphanum || "_.-~".toList.contains c

/-- A character as it stands where `safe` characters need no code. -/
def percentChar (safe : Char → Bool) (c : Char) : List Char :=
  if isPlain c || safe c then [c] else (bytesOf c).flatMap byteCode

/-- The marks that need no code in a path. -/
def isPathMark (c : Char) : Bool := "!$&'()*+,/:;=@".toList.contains c

/-- The `path` with codes where they are needed. -/
def encodePath (path : String) : String :=
  String.ofList (path.toList.flatMap (percentChar isPathMark))

/-! ## Decoding -/

/-- The bytes of an ASCII stretch, its percent codes read; a `%` without two digits after it is a
    byte like any other. -/
def stretchBytes : List Char → List Nat
  | [] => []
  | '%' :: a :: b :: rest =>
    match Json.hexValue? a, Json.hexValue? b with
    | some x, some y => (16 * x + y) :: stretchBytes rest
    | _, _ => '%'.toNat :: stretchBytes (a :: b :: rest)
  | c :: rest => c.toNat :: stretchBytes rest

/-- How many bytes follow a leading byte `b`, if it is one, and the least second byte and the
    greatest one. -/
def followers? (b : Nat) : Option (Nat × Nat × Nat) :=
  if 0xC2 ≤ b ∧ b ≤ 0xDF then some (1, 0x80, 0xBF)
  else if b = 0xE0 then some (2, 0xA0, 0xBF)
  else if b = 0xED then some (2, 0x80, 0x9F)
  else if 0xE1 ≤ b ∧ b ≤ 0xEF then some (2, 0x80, 0xBF)
  else if b = 0xF0 then some (3, 0x90, 0xBF)
  else if b = 0xF4 then some (3, 0x80, 0x8F)
  else if 0xF1 ≤ b ∧ b ≤ 0xF3 then some (3, 0x80, 0xBF)
  else none

/-- The byte `b` continues a character. -/
def isFollower (b : Nat) : Bool := 0x80 ≤ b && b ≤ 0xBF

/-- The character that begins with a leading byte, and how many bytes of `rest` it takes;
    `followers?` excludes longer forms than needed and surrogates. -/
def multiByte? (b : Nat) (rest : List Nat) : Option (Char × Nat) := do
  let (count, low, high) ← followers? b
  let tail := rest.take count
  let second ← tail.head?
  guard (tail.length == count && tail.all isFollower && low ≤ second && second ≤ high)
  let lead := b % Nat.pow 2 (6 - count)
  return (Char.ofNat (tail.foldl (fun n x => 64 * n + x % 64) lead), count)

/-- The text of the `bytes`; a byte that is no part of a text is written as its code. -/
def textOfBytes (bytes : List Nat) : List Char :=
  match bytes with
  | [] => []
  | b :: rest =>
    if b < 0x80 then Char.ofNat b :: textOfBytes rest
    else match multiByte? b rest with
      | some (c, count) => c :: textOfBytes (rest.drop count)
      | none => byteCode b ++ textOfBytes rest
termination_by bytes.length
decreasing_by all_goals simp; try omega

/-- The character `c` has one byte. -/
def isAscii (c : Char) : Bool := c.toNat < 0x80

/-- A stretch `cs` of characters that are all ASCII or all not, its percent codes read. -/
def decodeStretch (cs : List Char) : List Char :=
  if cs.all isAscii then textOfBytes (stretchBytes cs) else cs

/-- The text `cs` with its percent codes read, stretch by stretch. -/
def percentDecode (cs : List Char) : List Char :=
  (cs.splitBy fun a b => isAscii a == isAscii b).flatMap decodeStretch

end PrinterConsole.Web
