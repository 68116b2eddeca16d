import NetQuery.Library
import NetQuery.Proofs.Plan.Effect
import NetQuery.Proofs.Plan.Failure

namespace NetQuery

namespace Window

variable {setting : Setting} {w : Window}

/-- The window of an equality has its margin on both sides, within the supported seconds. -/
theorem contains_around_iff (setting : Setting) (s t : Int) :
    (around setting s).contains t = true ↔
      ((t - s).natAbs : Int) ≤ margin setting ∧ 0 ≤ t ∧ t ≤ Epoch.maxSeconds := by
  simp only [contains, around, Option.all_some, Bool.and_eq_true, decide_eq_true_eq]
  omega

theorem margin_of_tolerance {m : Int} (htolerance : setting.tolerance.getD usualTolerance = m)
    (hmin : 0 ≤ m) (hmax : m ≤ Epoch.maxSeconds) : margin setting = m := by
  rw [margin, htolerance]
  omega

/-- The window of a comparison contains the seconds that compare so. -/
theorem contains_beyond_iff (s t : Int) (op : Comparison) :
    (beyond s op).contains t = true ↔ op.ints t s = true := by
  cases op <;> simp only [contains, beyond, Comparison.ints, Option.all_some, Option.all_none,
    Bool.and_true, Bool.true_and, decide_eq_true_eq]
  all_goals omega

/-- A window with two ends contains what both its halves contain. -/
theorem contains_iff_halves (first last : Option Int) (t : Int) :
    contains ⟨first, last⟩ t = true ↔
      contains ⟨first, none⟩ t = true ∧ contains ⟨none, last⟩ t = true := by
  simp [contains]

end Window

namespace Query

variable {setting : Setting} {q : Query} {w : Window} {name : String}

/-- Whether the clause bounds its field by literals. -/
def isBounding : Query → Bool
  | comparison .. | range .. => true
  | _ => false

/-- The second stands in the given relation to that of a bound; without a bound it may be any. -/
def Relates (now : Int) (op : Comparison) (bound : Option Literal) (t : Int) : Prop :=
  ∀ literal ∈ bound, ∃ s, literal.time now = .ok s ∧ op.ints t s = true

def RelatesTo (now t : Int) : Query → Prop
  | comparison _ op literal => Relates now op (some literal) t
  | range _ least greatest inclusive =>
    Relates now (if inclusive then .ge else .gt) least t ∧
      Relates now (if inclusive then .le else .lt) greatest t
  | _ => False

theorem relates_some_iff {now s t : Int} {op : Comparison} {literal : Literal}
    (h : literal.time now = .ok s) : Relates now op (some literal) t ↔ op.ints t s = true := by
  constructor
  · intro hall
    obtain ⟨s', hs', hop⟩ := hall literal rfl
    rw [h] at hs'
    cases hs'
    exact hop
  · rintro hop _ ⟨⟩
    exact ⟨s, h, hop⟩

/-- One end of a window stands for one bound of a range, read as a comparison with it. -/
theorem contains_iff_relates {now t : Int} {bound : Option Literal} {read : Option Int}
    {op : Comparison} {shift : Int → Int} (half : Option Int → Window)
    (hread : Window.boundTime now bound = .ok read) (hnone : (half none).contains t = true)
    (hsome : ∀ s, half (some (shift s)) = Window.beyond s op) :
    (half (read.map shift)).contains t = true ↔ Relates now op bound t := by
  cases bound with
  | none =>
    cases hread
    simpa [Relates] using hnone
  | some literal =>
    cases htime : literal.time now with
    | error e =>
      rw [Window.boundTime, htime] at hread
      cases hread
    | ok s =>
      rw [Window.boundTime, htime] at hread
      cases hread
      rw [relates_some_iff htime, ← Window.contains_beyond_iff, Option.map_some, hsome]

/-- The window of a comparison or a range contains the seconds in its relation to its literals. -/
theorem contains_window_iff (hq : q.isBounding = true) (hw : Filter.window setting q = .ok w)
    (t : Int) : w.contains t = true ↔ q.RelatesTo setting.now t := by
  cases q with
  | comparison name op literal =>
    cases htime : literal.time setting.now with
    | error e => simp [Filter.window, Window.ofClause?, htime, Except.map] at hw
    | ok s =>
      simp only [Filter.window, Window.ofClause?, htime, Except.map, Except.ok.injEq] at hw
      rw [← hw, Window.contains_beyond_iff]
      exact (relates_some_iff htime).symm
  | range name least greatest inclusive =>
    cases hleast : Window.boundTime setting.now least with
    | error e =>
      simp [Filter.window, Window.ofClause?, Window.ofRange, hleast, bind, Except.bind] at hw
    | ok first =>
      cases hgreatest : Window.boundTime setting.now greatest with
      | error e =>
        simp [Filter.window, Window.ofClause?, Window.ofRange, hleast, hgreatest, bind,
          Except.bind] at hw
      | ok last =>
        simp only [Filter.window, Window.ofClause?, Window.ofRange, hleast, hgreatest, bind,
          Except.bind, Except.ok.injEq] at hw
        rw [← hw, Window.contains_iff_halves, RelatesTo,
          contains_iff_relates (fun b => ⟨b, none⟩) hleast rfl fun s =>
            (Window.beyond_lower s inclusive).symm,
          contains_iff_relates (fun b => ⟨none, b⟩) hgreatest rfl fun s =>
            (Window.beyond_upper s inclusive).symm]
  | _ => cases hq

/-- An equality on a time field accepts a record whose time can be read just when that time is no
further from the literal's than the tolerance, and within the supported seconds. -/
theorem accepts_time_iff_near [Regex.Library] {m s : Int} {value : Literal}
    (hkind : setting.entity.kind? name = some .timestamp)
    (htolerance : setting.tolerance.getD Window.usualTolerance = m)
    (hmin : 0 ≤ m) (hmax : m ≤ Epoch.maxSeconds) (hvalue : value.time setting.now = .ok s) :
    ∃ P, (field name value none).predicate setting = .ok P ∧
      ∀ r v t, r.get? name = some v → Epoch.ofRecord? v = some t →
        (P r = true ↔ ((t - s).natAbs : Int) ≤ m ∧ 0 ≤ t ∧ t ≤ Epoch.maxSeconds) := by
  have hstar := ne_matchAllName_of_kind? hkind
  refine ⟨Predicate.inWindow name (Window.around setting s), ?_, ?_⟩
  · simp [predicate, fieldPredicate, hstar, hkind, hvalue, Except.mapError, Except.map,
      Predicate.signed]
  · intro r v t hget htime
    rw [Predicate.inWindow, hget, Option.bind_some, htime, Option.any_some,
      Window.contains_around_iff, Window.margin_of_tolerance htolerance hmin hmax]

/-- A device that was seen just at the edge of the tolerance, and one a second beyond it. -/
theorem accepts_time_iff_near_of_edge :
    let setting : Setting := ⟨.devices, 1705329342, some 300⟩
    let record (t : Int) : Record := ⟨.devices, .obj [("lastSeen", .int t)]⟩
    ∃ P, (field "last_seen" (.text "2024-01-15T14:35:42Z") none).predicate setting = .ok P ∧
      P (record 1705329642) = true ∧ P (record 1705329643) = false := by
  intro setting record
  have hkind : setting.entity.kind? "last_seen" = some .timestamp := rfl
  have htolerance : setting.tolerance.getD Window.usualTolerance = 300 := rfl
  have hvalue : (Literal.text "2024-01-15T14:35:42Z").time setting.now = .ok 1705329342 := rfl
  obtain ⟨P, hP, hiff⟩ :=
    accepts_time_iff_near hkind htolerance (by decide) (by decide) hvalue
  refine ⟨P, hP, ?_, ?_⟩
  · exact (hiff (record 1705329642) (.int 1705329642) 1705329642 rfl (by decide +kernel)).mpr
      (by decide)
  · rw [Bool.eq_false_iff]
    intro haccepted
    have hnear := (hiff (record 1705329643) (.int 1705329643) 1705329643 rfl
      (by decide +kernel)).mp haccepted
    omega

/-- Before 1970 an equality does not accept even the second that it asks for. -/
theorem accepts_no_time_before_epoch :
    let setting : Setting := ⟨.flows, 1705329342, some 60⟩
    let moment := "1969-12-31T23:59:59Z"
    let r : Record := ⟨.flows, .obj [("ts", .str moment)]⟩
    (Literal.text moment).time setting.now = .ok (-1) ∧ r.get? "ts" = some (.str moment) ∧
      Epoch.ofRecord? (.str moment) = some (-1) ∧
      ∃ P, (field "ts" (.text moment) none).predicate setting = .ok P ∧ P r = false := by
  refine ⟨rfl, rfl, by decide, _, rfl, by decide⟩

/-- The window of a comparison or a range contains just the seconds that stand in its relation to
its literals. Where the backend takes no times, the one stage of its plan accepts just the records
whose time can be read and stands in that relation. -/
theorem sifts_by_relation [Regex.Library] (hq : q.isBounding = true)
    (hw : Filter.window setting q = .ok w) :
    (∀ t, w.contains t = true ↔ q.RelatesTo setting.now t) ∧
      (setting.entity ≠ .flows → setting.entity ≠ .alarms →
        ∃ name p stage, q.fieldName? = some name ∧ Filter.timeRange.plan setting q = .ok p ∧
          p.stages = some [stage] ∧ ∀ r, stage.accepts r = true ↔
            ∃ v t, r.get? name = some v ∧ Epoch.ofRecord? v = some t ∧
              q.RelatesTo setting.now t) := by
  have hcontains := contains_window_iff hq hw
  refine ⟨hcontains, ?_⟩
  intro hflows halarms
  obtain ⟨name, hname⟩ : ∃ name, q.fieldName? = some name := by
    cases q <;> first | exact ⟨_, rfl⟩ | cases hq
  have hplan : Filter.timeRange.plan setting q =
      .ok (Filter.windowPlan setting.entity name w) := by
    simp [Filter.plan, hw, Except.map, hname]
  refine ⟨name, _, Filter.windowStage name w, hname, hplan, ?_, ?_⟩
  · cases hentity : setting.entity with
    | flows => exact absurd hentity hflows
    | alarms => exact absurd hentity halarms
    | rules | devices | targetLists => rfl
  · intro r
    have hread : (Filter.windowStage name w).accepts r = true ↔
        ∃ t, (∃ v, r.get? name = some v ∧ Epoch.ofRecord? v = some t) ∧ w.contains t = true := by
      simp only [Filter.windowStage, Predicate.inWindow, Option.any_eq_true,
        Option.bind_eq_some_iff]
    rw [hread]
    constructor
    · rintro ⟨t, ⟨v, hget, htime⟩, ht⟩
      exact ⟨v, t, hget, htime, (hcontains t).mp ht⟩
    · rintro ⟨v, t, hget, htime, ht⟩
      exact ⟨t, ⟨v, hget, htime⟩, (hcontains t).mpr ht⟩

/-- Devices seen after a day began and before an hour ago, both strictly. -/
theorem sifts_by_relation_of_strict_bounds :
    let setting : Setting := ⟨.devices, 1705329342, none⟩
    let q : Query := .range "last_seen" (some (.text "2024-01-15")) (some (.text "1h")) false
    let record (t : Int) : Record := ⟨.devices, .obj [("lastSeen", .int t)]⟩
    ∃ p stage, Filter.timeRange.plan setting q = .ok p ∧ p.stages = some [stage] ∧
      stage.accepts (record 1705325741) = true ∧ stage.accepts (record 1705325742) = false := by
  intro setting q record
  have hw : Filter.window setting q = .ok ⟨some 1705276801, some 1705325741⟩ := by
    decide +kernel
  obtain ⟨hcontains, hstage⟩ := sifts_by_relation (q := q) rfl hw
  obtain ⟨name, p, stage, hname, hplan, hstages, haccepts⟩ := hstage (by decide) (by decide)
  cases hname
  refine ⟨p, stage, hplan, hstages, ?_, ?_⟩
  · exact (haccepts (record 1705325741)).mpr ⟨.int 1705325741, 1705325741, rfl,
      by decide +kernel, (hcontains _).mp (by decide)⟩
  · rw [Bool.eq_false_iff]
    intro haccepted
    obtain ⟨v, t, hget, htime, ht⟩ := (haccepts (record 1705325742)).mp haccepted
    have htold : Epoch.ofRecord? (.int 1705325742) = some 1705325742 := by decide +kernel
    cases hget
    rw [htold] at htime
    cases htime
    have hin := (hcontains 1705325742).mpr ht
    revert hin
    decide

end Query

end NetQuery
