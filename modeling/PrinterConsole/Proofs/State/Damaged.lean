/-
  A printer that starts on a damaged file.

  Reading a file has three layers: its bytes are decoded, the text is parsed, and the numerals in
  it are converted (`decode_cases`).  Only a text of the wrong form is a problem of the state
  file, which a printer passes over when it starts (`Printer.isFileFailure`).  Bytes that are no
  text, and a whole number with too many digits, are refused by the layers around the parser; such
  a refusal is no problem of the state file, and the printer does not start.

  Bytes are those of one text at most (`toUTF8_inj`), so which layer refuses a file is settled by
  its bytes (`HasReadableText`).

  Main statement: a file gives exactly the value it holds, and a printer starts with its own
  options on a file that gives none exactly if the bytes are a text that is not refused for a
  numeral (`load_contained_iff`).
-/
import PrinterConsole.Proofs.Json.Refused
import PrinterConsole.Proofs.State.Restart

namespace PrinterConsole

namespace StateFile

/-! ## Decoding

  Four things can become of the bytes of a file, and two of them are no file failures: bytes that
  are no text, and a numeral that is refused. -/

theorem toUTF8_of_fromUTF8? {bytes : ByteArray} {text : String}
    (h : String.fromUTF8? bytes = some text) : text.toUTF8 = bytes := by
  unfold String.fromUTF8? at h
  split at h
  · cases h
    rfl
  · cases h

/-- What comes of `decode`: a value, or a refusal by one of the three layers. -/
theorem decode_cases (bytes : ByteArray) :
    (∃ text v, text.toUTF8 = bytes ∧ Json.read text = .ok v ∧ decode bytes = .ok v) ∨
      (∃ text, text.toUTF8 = bytes ∧ Json.read text = .error .malformed ∧
        decode bytes = .error (failure "not a JSON text")) ∨
      (∃ text, text.toUTF8 = bytes ∧ Json.read text = .error .longNumeral ∧
        decode bytes = .error .badNumeral) ∨
      ((∀ text : String, text.toUTF8 ≠ bytes) ∧ decode bytes = .error .undecodable) := by
  unfold decode
  cases htext : String.fromUTF8? bytes with
  | none =>
    right; right; right
    refine ⟨?_, rfl⟩
    rintro text rfl
    rw [fromUTF8?_toUTF8] at htext
    cases htext
  | some text =>
    have hbytes := toUTF8_of_fromUTF8? htext
    rcases hread : Json.read text with ⟨- | -⟩ | v
    · right; left
      exact ⟨text, hbytes, hread, by simp only [hread]⟩
    · right; right; left
      exact ⟨text, hbytes, hread, by simp only [hread]⟩
    · left
      exact ⟨text, v, hbytes, hread, by simp only [hread]⟩

theorem toUTF8_inj {text other : String} (h : text.toUTF8 = other.toUTF8) : text = other := by
  have hsome := fromUTF8?_toUTF8 text
  rw [h, fromUTF8?_toUTF8] at hsome
  exact (Option.some.inj hsome).symm

/-- The `bytes` are a text that is not refused for a numeral. -/
def HasReadableText (bytes : ByteArray) : Prop :=
  ∃ text : String, text.toUTF8 = bytes ∧ Json.read text ≠ .error .longNumeral

theorem hasReadableText_iff {text : String} :
    HasReadableText text.toUTF8 ↔ Json.read text ≠ .error .longNumeral := by
  constructor
  · rintro ⟨other, hbytes, hread⟩
    rwa [toUTF8_inj hbytes] at hread
  · intro hread
    exact ⟨text, rfl, hread⟩

/-- **A file gives the value that its `bytes` hold**, and nothing else. -/
theorem decode_eq_ok_iff {bytes : ByteArray} {v : Json} :
    decode bytes = .ok v ↔ ∃ text : String, text.toUTF8 = bytes ∧ Json.read text = .ok v := by
  constructor
  · intro h
    rcases decode_cases bytes with ⟨text, w, hbytes, hread, hdecode⟩ | ⟨_, _, _, hdecode⟩ |
      ⟨_, _, _, hdecode⟩ | ⟨_, hdecode⟩
    · rw [hdecode] at h
      cases h
      exact ⟨text, hbytes, hread⟩
    all_goals
      rw [hdecode] at h
      cases h
  · rintro ⟨text, rfl, hread⟩
    unfold decode
    rw [fromUTF8?_toUTF8]
    simp only [hread]

/-- **Decoding ends with a value or a problem of the state file exactly if the bytes are a text that
    is not refused for a numeral** (`HasReadableText`). -/
theorem decode_contained_iff {bytes : ByteArray} :
    ((∃ v, decode bytes = .ok v) ∨ ∃ e, decode bytes = .error e ∧ Printer.isFileFailure e = true) ↔
      HasReadableText bytes := by
  rcases decode_cases bytes with ⟨text, w, rfl, hread, hdecode⟩ | ⟨text, rfl, hread, hdecode⟩ |
    ⟨text, rfl, hread, hdecode⟩ | ⟨hno, hdecode⟩
  · refine iff_of_true (.inl ⟨w, hdecode⟩) (hasReadableText_iff.2 ?_)
    rw [hread]
    nofun
  · refine iff_of_true (.inr ⟨_, hdecode, rfl⟩) (hasReadableText_iff.2 ?_)
    rw [hread]
    nofun
  · refine iff_of_false ?_ fun h => hasReadableText_iff.1 h hread
    rw [hdecode]
    rintro (⟨v, hv⟩ | ⟨e, he, hfile⟩)
    · cases hv
    · cases he
      cases hfile
  · refine iff_of_false ?_ ?_
    · rw [hdecode]
      rintro (⟨v, hv⟩ | ⟨e, he, hfile⟩)
      · cases hv
      · cases he
        cases hfile
    · rintro ⟨text, hbytes, -⟩
      exact hno text hbytes

end StateFile

/-! ## Starting

  A printer that starts on the file passes over file failures and takes what it was given; with any
  other it does not start. -/

namespace Printer

/-- A printer passes over a problem of the state file when it starts (`isFileFailure`), and over
    nothing else. -/
theorem restore_of_load_error {file : StateFile} {e : Fault} (h : file.load = .error e)
    (fresh : Printer) :
    fresh.restore file =
      if isFileFailure e then .ok { fresh with file := some file } else .error e := by
  unfold restore savedValue
  rw [h]
  by_cases hf : isFileFailure e = true
  · simp only [hf, if_true]
    rfl
  · simp only [hf]
    rfl

end Printer

namespace StateFile

open Printer (isFileFailure)

/-- A whole number of more than `maxDigits` digits is no problem of the state file, by
    `Json.read_longNumeral`. -/
theorem load_longNumeral {c : Char} {more : List Char}
    (hdigits : ∀ d ∈ c :: more, Text.isAsciiDigit d = true) (hc : c ≠ '0')
    (hlong : Number.maxDigits < (c :: more).length) (draft : Bool) :
    (inFolder (some (.file (String.ofList (c :: more)).toUTF8)) draft).load = .error .badNumeral := by
  show (decode _).map some = _
  unfold decode
  rw [fromUTF8?_toUTF8]
  simp only [Json.read_longNumeral hdigits hc hlong]
  rfl

/-- **What comes of any `bytes` under the file's name.** Loading gives exactly the value that they
    hold.  It ends with a value or a problem of the state file exactly if the bytes are a text that
    is not refused for a numeral (`HasReadableText`), such as every text without a long run of
    digits; and exactly then a printer that gets no value starts with the options and the identity
    it has.  It always does if a folder stands in the file's place.  A whole number of more than
    `maxDigits` digits is a text that is refused for a numeral, and `load` lets that out as
    `.badNumeral`. -/
theorem load_contained_iff (bytes : ByteArray) (draft : Bool) (fresh : Printer) :
    let file := inFolder (some (.file bytes)) draft
    let taken := inFolder (some .folder) draft
    (∀ v, file.load = .ok (some v) ↔
        ∃ text : String, text.toUTF8 = bytes ∧ Json.read text = .ok v) ∧
      file.load ≠ .ok none ∧
      (((∃ v, file.load = .ok (some v)) ∨ ∃ e, file.load = .error e ∧ isFileFailure e = true) ↔
        HasReadableText bytes) ∧
      ((∀ v, file.load ≠ .ok (some v)) →
        (fresh.restore file = .ok { fresh with file := some file } ↔ HasReadableText bytes)) ∧
      (∀ text : String, text.toUTF8 = bytes → ¬ Json.HasLongRun text.toList →
        HasReadableText bytes) ∧
      (∀ c more, (∀ d ∈ c :: more, Text.isAsciiDigit d = true) → c ≠ '0' →
        Number.maxDigits < (c :: more).length → (String.ofList (c :: more)).toUTF8 = bytes →
          file.load = .error .badNumeral) ∧
      fresh.restore taken = .ok { fresh with file := some taken } := by
  intro file taken
  have hload : file.load = (decode bytes).map some := rfl
  have hvalue : ∀ v, file.load = .ok (some v) ↔ decode bytes = .ok v := by
    intro v
    rw [hload, map_eq_ok]
    simp
  have herror : ∀ e, file.load = .error e ↔ decode bytes = .error e := by
    intro e
    rw [hload, map_eq_error]
  refine ⟨?value, ?some, ?contained, ?starts, ?short, ?long, rfl⟩
  case value =>
    intro v
    rw [hvalue, decode_eq_ok_iff]
  case some =>
    rw [hload]
    intro h
    obtain ⟨v, -, hv⟩ := map_eq_ok.1 h
    cases hv
  case contained =>
    simp only [hvalue, herror]
    exact decode_contained_iff
  case starts =>
    intro hnone
    have hno : ∀ v, decode bytes ≠ .ok v := fun v hv => hnone v ((hvalue v).2 hv)
    obtain ⟨e, he⟩ : ∃ e, decode bytes = .error e := by
      cases hd : decode bytes with
      | error e => exact ⟨e, rfl⟩
      | ok v => exact absurd hd (hno v)
    -- the printer keeps what it was given on a file failure only
    rw [Printer.restore_of_load_error ((herror e).2 he), ← decode_contained_iff, he]
    cases hf : isFileFailure e
    · simp [hf]
    · simp [hf]
  case short =>
    rintro text rfl hshort
    exact hasReadableText_iff.2 fun h => hshort (Json.hasLongRun_of_read h)
  case long =>
    rintro c more hdigits hc hlong rfl
    exact load_longNumeral hdigits hc hlong draft

/-- A byte that is in no text is no problem of the state file, and the printer does not start. -/
theorem not_forall_load_contained :
    ¬ ∀ (bytes : ByteArray) (draft : Bool) (fresh : Printer),
      let file := inFolder (some (.file bytes)) draft
      ((∃ v, file.load = .ok v) ∨ ∃ e, file.load = .error e ∧ isFileFailure e = true) ∧
        ((∀ v, file.load ≠ .ok v) → fresh.restore file = .ok { fresh with file := some file }) := by
  intro h
  have hload : (inFolder (some (.file ⟨#[0xff]⟩)) false).load = .error .undecodable := by rfl
  rcases (h ⟨#[0xff]⟩ false Printer.sampleLabelPrinter).1 with ⟨v, hv⟩ | ⟨e, he, hfile⟩
  · rw [hload] at hv
    cases hv
  · rw [hload] at he
    cases he
    cases hfile

end StateFile

end PrinterConsole
