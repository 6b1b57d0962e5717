/-
  How a submission without the right token is answered.

  A token is checked in one of three ways (`check_cases`): it passes, it is a problem, or it
  cannot be compared.  The third is a fault that is no problem, so the submission is answered by
  the page of a failure instead of the page it came from.  It arises exactly if the session has a
  token and one of the two texts has a character beyond ASCII, and a visitor may send any text.

  Each of the three outcomes is an equivalence in terms of `IsCarriedBy` and `Compares`, which
  speak of the fields as they were sent and not of the form made of them.  The answers follow from
  the outcomes by `submit_of_refused`, and what is told on the page by `view_tells_iff`.

  Main statement: `wrong_token_told_iff`.  `not_forall_wrong_token_told` is a submission with a
  letter that cannot be compared.
-/
import PrinterConsole.Proofs.Console.Answers

namespace PrinterConsole

open PrinterConsole.Web PrinterConsole.Page

namespace Web.Session

/-- The token of the session `s`, if it has one, can be compared with what the `fields` of a
    submission carry in its place; no such field counts as an empty text. -/
def Compares (s : Session) (fields : List (String × String)) : Prop :=
  ∀ t, s.token? = some t →
    isComparable t = true ∧ isComparable ((fields.reverse.lookup tokenName).getD "") = true

/-- The fields carry the token of a session that has one: `IsCarriedBy` without its quantifier. -/
theorem isCarriedBy_iff {s : Session} {t : String} (h : s.token = some t)
    {fields : List (String × String)} :
    s.IsCarriedBy fields ↔ t ≠ "" ∧ fields.reverse.lookup tokenName = some t := by
  simp [IsCarriedBy, h]

/-- `check` has three outcomes; which one it is, the equivalences after this one say. -/
theorem check_cases (s : Session) (f : Form) :
    s.check f = .ok () ∨ s.check f = .error (.problem (.badToken Problem.badTokenMessage)) ∨
      s.check f = .error .incomparable := by
  unfold check
  dsimp only
  split
  · exact .inr (.inl rfl)
  · split
    · exact .inr (.inr rfl)
    · split
      · exact .inl rfl
      · exact .inr (.inl rfl)

/-- **A token cannot be compared** if one of the two texts is no ASCII text (`Compares`), and only
    then; a session without a token is never compared. -/
theorem check_eq_incomparable_iff {s : Session} {fields : List (String × String)} :
    s.check (Form.ofPairs fields) = .error .incomparable ↔ ¬ s.Compares fields := by
  unfold check Compares
  rw [Form.value?_ofPairs]
  generalize (fields.reverse.lookup tokenName).getD "" = sent
  cases s.token? with
  | none => simp
  | some t =>
    simp only [Option.some.injEq, forall_eq', ← Bool.and_eq_true]
    cases isComparable t && isComparable sent with
    | false => simp
    | true =>
      simp only [Bool.not_true, Bool.false_eq_true, if_false]
      split <;> simp

/-- A token passes exactly if it is carried and can be compared (`check_ofPairs_eq_ok_iff`). -/
theorem check_passes_iff {s : Session} {fields : List (String × String)} :
    s.check (Form.ofPairs fields) = .ok () ↔ s.IsCarriedBy fields ∧ s.Compares fields := by
  rw [Console.check_ofPairs_eq_ok_iff]
  refine and_congr_right fun hcarried => ?_
  obtain ⟨t, htoken, hne, hsent⟩ := hcarried
  have ht : s.token? = some t := Option.filter_eq_some_iff.2 ⟨htoken, by simpa using hne⟩
  simp [Compares, ht, htoken, hsent]

/-- A token is a problem exactly if it is not carried and could be compared: what is left of
    `check_cases` by the other two. -/
theorem check_eq_badToken_iff {s : Session} {fields : List (String × String)} :
    s.check (Form.ofPairs fields) = .error (.problem (.badToken Problem.badTokenMessage)) ↔
      ¬ s.IsCarriedBy fields ∧ s.Compares fields := by
  rcases check_cases s (Form.ofPairs fields) with h | h | h
  · have hpasses := check_passes_iff.1 h
    exact iff_of_false (by rw [h]; nofun) fun hbad => hbad.1 hpasses.1
  · have hcompares : s.Compares fields := by
      by_contra hnot
      rw [check_eq_incomparable_iff.2 hnot] at h
      cases h
    have hcarried : ¬ s.IsCarriedBy fields := by
      intro hcarried
      rw [check_passes_iff.2 ⟨hcarried, hcompares⟩] at h
      cases h
    exact iff_of_true h ⟨hcarried, hcompares⟩
  · exact iff_of_false (by rw [h]; nofun) fun hbad => check_eq_incomparable_iff.1 h hbad.2

end Web.Session

namespace Console

/-- A submission with fields has a form that is not empty, since `Form.set` never takes a field
    away. -/
theorem isEmpty_ofPairs {fields : List (String × String)} (h : fields ≠ []) :
    (Form.ofPairs fields).isEmpty = false := by
  obtain ⟨first, rest, rfl⟩ := List.exists_cons_of_ne_nil h
  -- the form has a value under the name of the first field
  have hfound : ((first :: rest).reverse.lookup first.1).isSome := by
    rw [List.lookup_isSome_iff]
    exact ⟨first, by simp, by simp⟩
  rw [← Form.value?_ofPairs] at hfound
  cases hempty : (Form.ofPairs (first :: rest)).isEmpty with
  | false => rfl
  | true =>
    rw [Form.value?, Form.field?, List.isEmpty_iff.1 hempty] at hfound
    cases hfound

/-- A submission with fields is refused for its token as the token is: `acceptedForm` asks for
    nothing between the two. -/
theorem acceptedForm_of_check_error {s : Session} {fields : List (String × String)} {why : Fault}
    (hfields : fields ≠ []) (h : s.check (Form.ofPairs fields) = .error why) :
    acceptedForm s fields = .error why := by
  simp [acceptedForm, isEmpty_ofPairs hfields, h, bind, Except.bind]

section

variable {c : Console} {now : Instant} {fresh : String} {r : Request} {place : Place}

/-- A token that could be compared and is wrong is told on the page of the place, by a `view` with
    the message. -/
theorem answer_of_badToken (hpost : r.method = .post) (hpath : r.target.path = c.site.pathOf place)
    (hplace : place.takesForms = true) (hfields : r.fields ≠ [])
    (hcarried : ¬ c.session.IsCarriedBy r.fields) (hcompares : c.session.Compares r.fields) :
    c.answer now fresh r = c.view fresh place (some ⟨Problem.badTokenMessage, true⟩)
      (Form.jobNumber (r.fields.lookup jobField)) := by
  have hcheck := Session.check_eq_badToken_iff.2 ⟨hcarried, hcompares⟩
  rw [answer_of_post hpost hpath hplace,
    submit_of_refused (acceptedForm_of_check_error hfields hcheck)]
  rfl

/-- A token that cannot be compared is a `failure`, right or wrong. -/
theorem answer_of_incomparable (hpost : r.method = .post)
    (hpath : r.target.path = c.site.pathOf place) (hplace : place.takesForms = true)
    (hfields : r.fields ≠ []) (hcompares : ¬ c.session.Compares r.fields) :
    c.answer now fresh r = c.failure fresh := by
  have hcheck := Session.check_eq_incomparable_iff.2 hcompares
  rw [answer_of_post hpost hpath hplace,
    submit_of_refused (acceptedForm_of_check_error hfields hcheck)]

/-- The page of the place tells that a token is wrong, exactly if the token can be compared and the
    page can be shown.  If it cannot be compared, the answer has the status of a failure
    (`failure_fst_ne`). -/
theorem answer_tells_iff (hpost : r.method = .post) (hpath : r.target.path = c.site.pathOf place)
    (hplace : place.takesForms = true) (hfields : r.fields ≠ [])
    (hcarried : ¬ c.session.IsCarriedBy r.fields) :
    (∃ body, (c.answer now fresh r).1 = .page 200 body ∧
      TellsError Problem.badTokenMessage body) ↔ c.session.Compares r.fields ∧ c.CanShow place := by
  by_cases hcompares : c.session.Compares r.fields
  · rw [answer_of_badToken hpost hpath hplace hfields hcarried hcompares, view_tells_iff,
      and_iff_right hcompares]
  · rw [answer_of_incomparable hpost hpath hplace hfields hcompares]
    refine iff_of_false ?_ fun h => hcompares h.1
    rintro ⟨body, hbody, -⟩
    exact failure_fst_ne c fresh body hbody

/-- Whatever such a submission is answered, the printer stays as it was; no form is looked at before
    its token. -/
theorem printer_answer_of_wrong_token (hpost : r.method = .post)
    (hpath : r.target.path = c.site.pathOf place) (hplace : place.takesForms = true)
    (hfields : r.fields ≠ []) (hcarried : ¬ c.session.IsCarriedBy r.fields) :
    (c.answer now fresh r).2.printer = c.printer := by
  by_cases hcompares : c.session.Compares r.fields
  · rw [answer_of_badToken hpost hpath hplace hfields hcarried hcompares]
    exact printer_view _ _ _ _ _
  · rw [answer_of_incomparable hpost hpath hplace hfields hcompares]
    exact printer_failure c fresh

end

/-- **What becomes of a wrong token.** For every session and all fields of a submission: `check`
    passes if the fields carry the token, is a problem if they do not, and in both cases only if the
    two can be compared (`Compares`); if they cannot, it is a fault that is no problem.  So a
    submission with fields but without the right token changes nothing of the printer, and it is
    answered by the page of its place that tells the problem, exactly if the token can be compared
    and the page can be shown; if the token cannot be compared, it is answered by the page of a
    failure. -/
theorem wrong_token_told_iff (s : Session) (fields : List (String × String)) :
    (s.check (Form.ofPairs fields) = .ok () ↔ s.IsCarriedBy fields ∧ s.Compares fields) ∧
      (s.check (Form.ofPairs fields) = .error (.problem (.badToken Problem.badTokenMessage)) ↔
        ¬ s.IsCarriedBy fields ∧ s.Compares fields) ∧
      (s.check (Form.ofPairs fields) = .error .incomparable ↔ ¬ s.Compares fields) ∧
      (fields ≠ [] → ¬ s.IsCarriedBy fields →
        ∀ (c : Console) (now : Instant) (fresh : String) (r : Request) (place : Place),
          c.session = s → r.fields = fields → r.method = .post →
          r.target.path = c.site.pathOf place → place.takesForms = true →
            let answered := c.answer now fresh r
            answered.2.printer = c.printer ∧
              ((∃ body, answered.1 = .page 200 body ∧ TellsError Problem.badTokenMessage body) ↔
                s.Compares fields ∧ c.CanShow place) ∧
              (¬ s.Compares fields → answered = c.failure fresh)) := by
  refine ⟨Session.check_passes_iff, Session.check_eq_badToken_iff,
    Session.check_eq_incomparable_iff, ?_⟩
  rintro hfields hcarried c now fresh r place rfl rfl hpost hpath hplace
  exact ⟨printer_answer_of_wrong_token hpost hpath hplace hfields hcarried,
    answer_tells_iff hpost hpath hplace hfields hcarried,
    answer_of_incomparable hpost hpath hplace hfields⟩

/-- A forged submission to the configuration, with a token of plain letters. -/
theorem wrong_token_told_iff_plain_letters :
    let c : Console := ⟨{}, defaultPrinter "Labels" 100, ⟨some "ab"⟩⟩
    let r : Request := ⟨.post, { path := "/config" }, [("session", "abc"), ("location", "Hall")]⟩
    (r.method = .post ∧ r.target.path = c.site.pathOf .config ∧ Place.config.takesForms = true ∧
      r.fields ≠ [] ∧ ¬ c.session.IsCarriedBy r.fields) ∧
      ∃ body, (c.answer ⟨0⟩ "new" r).1 = .page 200 body ∧
        TellsError Problem.badTokenMessage body := by
  intro c r
  have hpath : r.target.path = c.site.pathOf .config := by decide
  have hcarried : ¬ c.session.IsCarriedBy r.fields := by
    intro h
    exact absurd ((Session.isCarriedBy_iff rfl).1 h).2 (by decide)
  have hcompares : c.session.Compares r.fields := by
    intro t ht
    obtain rfl : "ab" = t := Option.some.inj ht
    exact ⟨by decide, by decide⟩
  have hshow : c.CanShow .config := ⟨_, rfl⟩
  obtain ⟨-, -, -, hanswer⟩ := wrong_token_told_iff c.session r.fields
  have htold := (hanswer nofun hcarried c ⟨0⟩ "new" r .config rfl rfl rfl hpath rfl).2.1
  exact ⟨⟨rfl, hpath, rfl, nofun, hcarried⟩, htold.2 ⟨hcompares, hshow⟩⟩

/-- A text that is not ASCII, under `session`, is neither right nor told to be wrong:
    `Session.check` cannot compare it, and the answer is the page of a failure. -/
theorem not_forall_wrong_token_told :
    (¬ ∀ (s : Session) (fields : List (String × String)), fields ≠ [] →
      s.check (Form.ofPairs fields) = .ok () ∨
        s.check (Form.ofPairs fields) = .error (.problem (.badToken Problem.badTokenMessage))) ∧
    ¬ ∀ (c : Console) (now : Instant) (fresh : String) (r : Request) (place : Place),
      r.method = .post → r.target.path = c.site.pathOf place → place.takesForms = true →
      r.fields ≠ [] → ¬ c.session.IsCarriedBy r.fields → c.CanShow place →
        ∃ body, (c.answer now fresh r).1 = .page 200 body ∧
          TellsError Problem.badTokenMessage body := by
  have hcompares : ¬ (⟨some "ab"⟩ : Session).Compares [("session", "é")] := by
    intro h
    exact absurd (h "ab" rfl).2 (by decide)
  constructor
  · intro h
    have hcheck := Session.check_eq_incomparable_iff.2 hcompares
    rcases h ⟨some "ab"⟩ [("session", "é")] nofun with hok | hbad
    · rw [hcheck] at hok
      cases hok
    · rw [hcheck] at hbad
      cases hbad
  · intro h
    let c : Console := ⟨{}, defaultPrinter "Labels" 100, ⟨some "ab"⟩⟩
    let r : Request := ⟨.post, { path := "/config" }, [("session", "é")]⟩
    have hpath : r.target.path = c.site.pathOf .config := by decide
    have hcarried : ¬ c.session.IsCarriedBy r.fields := by
      intro hsent
      exact absurd ((Session.isCarriedBy_iff rfl).1 hsent).2 (by decide)
    obtain ⟨body, hbody, -⟩ := h c ⟨0⟩ "new" r .config rfl hpath rfl nofun hcarried ⟨_, rfl⟩
    rw [answer_of_incomparable rfl hpath rfl nofun hcompares] at hbody
    exact failure_fst_ne c "new" body hbody

end Console

end PrinterConsole
