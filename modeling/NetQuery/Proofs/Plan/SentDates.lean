import NetQuery.Library
import NetQuery.Proofs.Calendar.Texts
import NetQuery.Proofs.Plan.Merge

namespace NetQuery

namespace Filter

variable {setting : Setting} {q : Query} {p : Plan}

/-- The plan of a window for alarms has the texts of its ends for parameters. -/
theorem get?_windowPlan_alarms (name : String) (w : Window) :
    (windowPlan .alarms name w).params.get? "start_time" =
        (w.first.bind Instant.iso?).map .str ∧
      (windowPlan .alarms name w).params.get? "end_time" =
        (w.last.bind Instant.iso?).map .str := by
  obtain ⟨first, last⟩ := w
  cases first <;> cases last <;> simp [windowPlan, get?_setOptional, Plan.empty]

/-- A date is sent just when the calendar has the second, and it is read back where its year has
four digits and no sign. -/
theorem sent_date_reads_back {bound : Option Int} {sent : Option Json}
    (h : sent = (bound.bind Instant.iso?).map .str) :
    ((∃ value, sent = some value) ↔ ∃ t, bound = some t ∧ Instant.first ≤ t ∧ t ≤ Instant.last) ∧
      ∀ t value, bound = some t → sent = some value →
        ∃ text, value = .str text ∧ ∀ now, Literal.timeOfText now text =
          if Instant.yearZero ≤ t ∧ t ≤ Epoch.maxSeconds then .ok t
          else .error (.unreadable text .unknownForm) := by
  subst h
  constructor
  · simp only [Option.map_eq_some_iff, Option.bind_eq_some_iff, ← Instant.exists_iso_iff]
    constructor
    · rintro ⟨_, text, ⟨t, ht, htext⟩, rfl⟩
      exact ⟨t, ht, text, htext⟩
    · rintro ⟨t, ht, text, htext⟩
      exact ⟨_, text, ⟨t, ht, htext⟩, rfl⟩
  · rintro t value rfl hsent
    obtain ⟨text, htext, rfl⟩ := Option.map_eq_some_iff.mp hsent
    exact ⟨text, rfl, Instant.timeOfText_iso htext⟩

/-- Each end of the window of an alarms query is sent just when the calendar has its second. What is
sent is read as that second, whenever it is read, if the year of the second has four digits and no
sign, and is refused otherwise. -/
theorem alarm_dates_read_back [Regex.Library] (hentity : setting.entity = .alarms)
    (hp : timeRange.plan setting q = .ok p) :
    ∃ w, window setting q = .ok w ∧
      ∀ key bound, (key, bound) ∈ [("start_time", w.first), ("end_time", w.last)] →
        ((∃ value, p.params.get? key = some value) ↔
          ∃ t, bound = some t ∧ Instant.first ≤ t ∧ t ≤ Instant.last) ∧
        ∀ t value, bound = some t → p.params.get? key = some value →
          ∃ text, value = .str text ∧ ∀ now, Literal.timeOfText now text =
            if Instant.yearZero ≤ t ∧ t ≤ Epoch.maxSeconds then .ok t
            else .error (.unreadable text .unknownForm) := by
  cases hw : window setting q with
  | error e => simp [plan, hw, Except.map] at hp
  | ok w =>
    simp only [plan, hw, Except.map, hentity, Except.ok.injEq] at hp
    obtain ⟨hstart, hend⟩ := get?_windowPlan_alarms (q.fieldName?.getD "") w
    rw [hp] at hstart hend
    refine ⟨w, rfl, ?_⟩
    intro key bound hkey
    simp only [List.mem_cons, Prod.mk.injEq, List.not_mem_nil, or_false] at hkey
    rcases hkey with ⟨rfl, rfl⟩ | ⟨rfl, rfl⟩
    · exact sent_date_reads_back hstart
    · exact sent_date_reads_back hend

/-- The date of a day ago is sent and read back. -/
theorem alarm_dates_read_back_of_day :
    let setting : Setting := ⟨.alarms, 1705329342, none⟩
    ∃ p text, timeRange.plan setting (.comparison "timestamp" .ge (.text "1d")) = .ok p ∧
      p.params.get? "start_time" = some (.str text) ∧
      p.params.get? "end_time" = none ∧
      ∀ now, Literal.timeOfText now text = .ok 1705242942 := by
  intro setting
  have hp : timeRange.plan setting (.comparison "timestamp" .ge (.text "1d")) = .ok _ := rfl
  obtain ⟨w, hw, hends⟩ := alarm_dates_read_back rfl hp
  have hwindow : window setting (.comparison "timestamp" .ge (.text "1d")) =
      .ok ⟨some 1705242942, none⟩ := by
    decide +kernel
  rw [hwindow] at hw
  cases hw
  obtain ⟨hsent, hread⟩ := hends "start_time" (some 1705242942) List.mem_cons_self
  obtain ⟨hnone, -⟩ := hends "end_time" none (List.mem_cons_of_mem _ List.mem_cons_self)
  obtain ⟨value, hvalue⟩ := hsent.mpr ⟨1705242942, rfl, by decide, by decide⟩
  obtain ⟨text, rfl, htime⟩ := hread 1705242942 value rfl hvalue
  refine ⟨_, text, hp, hvalue, ?_, htime⟩
  apply Option.eq_none_iff_forall_ne_some.mpr
  intro value' hvalue'
  obtain ⟨t, ht, -⟩ := hnone.mp ⟨value', hvalue'⟩
  cases ht

/-- A million weeks ago the year has a sign, so the date that is sent cannot be read. Behind the
last second of the calendar nothing is sent, although the window begins there. -/
theorem alarm_dates_beyond_four_digits :
    let setting : Setting := ⟨.alarms, 1705329342, none⟩
    let old : Query := .comparison "timestamp" .ge (.text "1000000w")
    let late : Query := .comparison "timestamp" .gt (.text "+262142-12-31T23:59:59")
    (window setting old = .ok ⟨some (-603094670658), none⟩ ∧
      ∃ p, timeRange.plan setting old = .ok p ∧
        p.params.get? "start_time" = some (.str "-17142-09-09T14:35:42Z") ∧
        Literal.timeOfText setting.now "-17142-09-09T14:35:42Z" =
          .error (.unreadable "-17142-09-09T14:35:42Z" .unknownForm)) ∧
    window setting late = .ok ⟨some 8210266876800, none⟩ ∧
      ∃ p, timeRange.plan setting late = .ok p ∧ p.params.get? "start_time" = none := by
  intro setting old late
  have hold : window setting old = .ok ⟨some (-603094670658), none⟩ := by decide +kernel
  have hlate : window setting late = .ok ⟨some 8210266876800, none⟩ := by decide
  have hsent (w : Window) := (get?_windowPlan_alarms "timestamp" w).1
  refine ⟨⟨hold, windowPlan .alarms "timestamp" _, by rw [plan, hold]; rfl, ?_, ?_⟩,
    hlate, windowPlan .alarms "timestamp" _, by rw [plan, hlate]; rfl, ?_⟩
  · have htext : Instant.iso? (-603094670658) = some "-17142-09-09T14:35:42Z" := by
      decide
    rw [hsent, Option.bind_some, htext, Option.map_some]
  · decide
  · have hnone : Instant.iso? 8210266876800 = none := by decide
    rw [hsent, Option.bind_some, hnone, Option.map_none]

end Filter

end NetQuery
