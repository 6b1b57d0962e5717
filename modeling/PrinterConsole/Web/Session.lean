/-
  Sessions: the token that tells a form of this console from a forged one.

  Every form of a session carries its token, and a submission counts only if it sends the token
  back.  Tokens are compared in constant time, which is possible for ASCII texts alone
  (`isComparable`); any other text is a fault of its own, and not a bad token.

  Main statement: a submission passes exactly when it sends the token of the session
  (`check_eq_ok_iff`).
-/
import PrinterConsole.Fault
import PrinterConsole.Form.Basic
import PrinterConsole.Web.PercentCode

namespace PrinterConsole.Web

/-- What the console remembers of one visitor: at most a token, and nothing of what was
    submitted. -/
structure Session where
  token : Option String := none
  deriving DecidableEq, Repr

namespace Session

/-- The field of a form that carries the token. -/
def tokenName : String := "session"

/-- The `token`, if there is one that is not empty. -/
def token? (s : Session) : Option String := s.token.filter fun t => !t.isEmpty

/-- The token for a form, and the session that has it: a `fresh` one if there is none yet.  So a
    session keeps its token for good. -/
def issue (s : Session) (fresh : String) : String × Session :=
  match s.token? with
  | some t => (t, s)
  | none => (fresh, ⟨some fresh⟩)

/-- The text `s` can be compared in constant time. -/
def isComparable (s : String) : Bool := s.toList.all isAscii

/-- Checks the token of the submission `f`.  A session without a token takes no submission; one that
    sends no token is treated as if it sent the empty text. -/
def check (s : Session) (f : Form) : Except Fault Unit :=
  let bad : Fault := .problem (.badToken Problem.badTokenMessage)
  let sent := (f.value? tokenName).getD ""
  match s.token? with
  | none => .error bad
  | some t =>
    if !(isComparable t && isComparable sent) then .error .incomparable
    else if t = sent then .ok ()
    else .error bad

/-- A submission passes `check` exactly when the session has a token, the token can be compared, and
    the form sends it. -/
theorem check_eq_ok_iff {s : Session} {f : Form} :
    s.check f = .ok () ↔
      ∃ t, s.token? = some t ∧ isComparable t ∧ (f.value? tokenName).getD "" = t := by
  unfold check
  cases s.token? with
  | none => simp
  | some t =>
    by_cases hc : isComparable t && isComparable ((f.value? tokenName).getD "")
    · simp only [hc, Bool.not_true, Bool.false_eq_true, if_false]
      rw [Bool.and_eq_true] at hc
      by_cases ht : t = (f.value? tokenName).getD ""
      · simp [← ht, hc.1]
      · simp only [ht, if_false, reduceCtorEq, false_iff]
        rintro ⟨u, hu, _, he⟩
        cases hu
        exact ht he.symm
    · simp only [hc, Bool.not_false, if_true, reduceCtorEq, false_iff]
      rintro ⟨u, hu, hua, he⟩
      cases hu
      simp [he, hua] at hc

end Session

end PrinterConsole.Web
