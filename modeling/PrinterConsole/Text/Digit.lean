/-
  Decimal digits of every script.

  A number typed into a form may be written in the digits of any script.  Each script's ten digits
  stand one after another, so a digit is known by the place of its zero: `digitValue? c` is the
  distance of `c` from the zero at or below it.  Formats of this console's own (sizes, files,
  references) know ASCII digits alone, for which there is `isAsciiDigit`.

  Main statements: a digit's value is below ten (`digitValue?_lt`), and on ASCII it is the core
  library's notion of a digit (`digitValue?_ascii`).
-/

namespace PrinterConsole.Text

/-- The code points of digit zero, ASCII zero left out. -/
def zeroCodes : List Nat :=
  [
    0x660, 0x6F0, 0x7C0, 0x966, 0x9E6, 0xA66, 0xAE6, 0xB66, 0xBE6, 0xC66, 0xCE6, 0xD66, 0xDE6,
    0xE50, 0xED0, 0xF20, 0x1040, 0x1090, 0x17E0, 0x1810, 0x1946, 0x19D0, 0x1A80, 0x1A90, 0x1B50,
    0x1BB0, 0x1C40, 0x1C50, 0xA620, 0xA8D0, 0xA900, 0xA9D0, 0xA9F0, 0xAA50, 0xABF0, 0xFF10,
    0x104A0, 0x10D30, 0x11066, 0x110F0, 0x11136, 0x111D0, 0x112F0, 0x11450, 0x114D0, 0x11650,
    0x116C0, 0x11730, 0x118E0, 0x11950, 0x11C50, 0x11D50, 0x11DA0, 0x16A60, 0x16AC0, 0x16B50,
    0x1D7CE, 0x1D7D8, 0x1D7E2, 0x1D7EC, 0x1D7F6, 0x1E140, 0x1E2F0, 0x1E950, 0x1FBF0]

/-- The value of the decimal digit `c`: its distance from the zero of its script. -/
def digitValue? (c : Char) : Option Nat :=
  if 0x30 ≤ c.toNat ∧ c.toNat ≤ 0x39 then
    some (c.toNat - 0x30)
  else if c.toNat < 0x660 then
    none
  else
    (zeroCodes.find? fun z => z ≤ c.toNat && c.toNat < z + 10).map (c.toNat - ·)

/-- The character `c` is a decimal digit of some script. -/
def isDigit (c : Char) : Bool := (digitValue? c).isSome

/-- The character `c` is an ASCII decimal digit. -/
def isAsciiDigit (c : Char) : Bool := 0x30 ≤ c.toNat && c.toNat ≤ 0x39

/-- A digit's value (`digitValue?`) is below ten, whatever its script: the ten characters from a
    zero on are its digits. -/
theorem digitValue?_lt {c : Char} {d : Nat} (h : digitValue? c = some d) : d < 10 := by
  unfold digitValue? at h
  split at h
  · cases h; omega
  · split at h
    · cases h
    · obtain ⟨z, hz, rfl⟩ := Option.map_eq_some_iff.1 h
      have := List.find?_some hz
      simp only [Bool.and_eq_true, decide_eq_true_eq] at this
      omega

/-- The value of an ASCII digit is its distance from `0`, decided without the table of zeros. -/
theorem digitValue?_ascii {c : Char} (h : isAsciiDigit c) :
    digitValue? c = some (c.toNat - 0x30) := by
  simp only [isAsciiDigit, Bool.and_eq_true, decide_eq_true_eq] at h
  rw [digitValue?, if_pos h]

end PrinterConsole.Text
