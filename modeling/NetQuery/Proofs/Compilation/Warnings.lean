import NetQuery.Library
import NetQuery.Proofs.Compilation
import NetQuery.Proofs.Plan.Failure
import NetQuery.Proofs.Query.Acceptance
import NetQuery.Proofs.Text.Delimited

namespace NetQuery

/-- The field and the text that a clause looks for, as it is written or with wildcards. -/
def Query.sought? : Query → Option (String × String)
  | field name value relation => if relation = some .approx then none else some (name, value.toText)
  | wildcard name pattern => some (name, pattern)
  | _ => none

/-- A clause that looks for an address with a text that is no pattern of any. -/
def Query.SeeksBadAddress [Regex.Library] (entity : Entity) (name text : String) (q : Query) :
    Prop :=
  q.sought? = some (name, text) ∧ entity.kind? name = some .ip ∧
    (AddressPattern.ofText text).isInvalid = true

instance [Regex.Library] (entity : Entity) (name text : String) (q : Query) :
    Decidable (q.SeeksBadAddress entity name text) :=
  inferInstanceAs (Decidable (_ ∧ _ ∧ _))

/-- A clause that looks for a bad address is no star. -/
theorem Query.isMatchAll_of_seeksBadAddress [Regex.Library] {entity : Entity} {name text : String}
    {q : Query} (h : q.SeeksBadAddress entity name text) : q.isMatchAll = false := by
  obtain ⟨hsought, hkind, -⟩ := h
  cases q with
  | field name' value relation =>
    simp only [Query.sought?] at hsought
    split at hsought <;> cases hsought
    have hname : (name == Query.matchAllName) = false := Query.ne_matchAllName_of_kind? hkind
    simp [Query.isMatchAll, hname]
  | _ => rfl

namespace Filter

variable {entity : Entity} {setting : Setting} {q : Query} {p : Plan}
  {name name' text text' w : String}

/-- Names of declared fields have no quotes. -/
theorem quote_notMem_of_kind? {kind : FieldKind} (h : entity.kind? name = some kind) :
    '\'' ∉ name.toList := by
  have hall : ∀ name ∈ entity.fieldNames, '\'' ∉ name.toList := by
    cases entity <;> decide
  apply hall
  rw [← Entity.hasField_iff]
  cases hfield : entity.field? name with
  | none => simp [Entity.kind?, hfield] at h
  | some spec => simp [Entity.hasField, hfield]

theorem toList_invalidAddressWarning (name text : String) :
    (invalidAddressWarning name text).toList =
      "Invalid IP address or pattern '".toList ++ text.toList ++ "' for field '".toList ++
        name.toList ++ "'".toList := by
  unfold invalidAddressWarning
  simp only [String.toList_append]

/-- A name without quotes and the text beside it are told from the warning of them. -/
theorem invalidAddressWarning_unique (hname : '\'' ∉ name.toList) (hname' : '\'' ∉ name'.toList)
    (h : invalidAddressWarning name text = invalidAddressWarning name' text') :
    name = name' ∧ text = text' := by
  have hmiddle : "' for field '".toList = "' for field ".toList ++ ['\''] := by decide
  have hlist := congrArg String.toList h
  rw [toList_invalidAddressWarning, toList_invalidAddressWarning, hmiddle] at hlist
  generalize "' for field ".toList = middle at hlist
  generalize "Invalid IP address or pattern '".toList = start at hlist
  have hends := congrArg List.reverse (List.append_cancel_right hlist)
  -- read from its end, the name goes up to the first quote
  simp only [List.reverse_append, List.reverse_cons, List.nil_append,
    List.append_assoc, List.cons_append] at hends
  have hrev : '\'' ∉ name.toList.reverse := by simpa using hname
  have hrev' : '\'' ∉ name'.toList.reverse := by simpa using hname'
  obtain ⟨hn, hrest⟩ := Text.piece_unique hrev hrev' hends
  have htext := List.append_cancel_right (List.append_cancel_left hrest)
  exact ⟨String.toList_inj.mp (List.reverse_inj.mp hn), String.toList_inj.mp
    (List.reverse_inj.mp htext)⟩

/-- The warning of a bad address is not the one of a star beside other clauses. -/
theorem invalidAddressWarning_ne (name text : String) :
    invalidAddressWarning name text ≠ Verdict.matchAllWarning := by
  intro h
  have hfirst := congrArg (fun w => w.toList.head?) h
  simp [toList_invalidAddressWarning, Verdict.matchAllWarning] at hfirst

/-- The filter for addresses is for clauses that look for a text in an address field. -/
theorem accepts_address_iff : address.accepts entity q = true ↔
    ∃ name text, q.sought? = some (name, text) ∧ entity.kind? name = some .ip := by
  cases q with
  | field name value relation => simp [accepts, Query.sought?, Entity.isOfKind]
  | wildcard name pattern => simp [accepts, Query.sought?, Entity.isOfKind]
  | _ => simp [accepts, Query.sought?]

variable [Regex.Library]

/-- Only the filter for addresses warns. -/
theorem warnings_of_ne_address {filter : Filter} (hne : filter ≠ .address)
    (hp : filter.plan setting q = .ok p) : p.warnings = [] := by
  have hpass {key : String} (hp : pass filter key q = .ok p) : p.warnings = [] := by
    cases q with
    | field name value relation =>
      rw [pass] at hp
      split at hp <;> cases hp
      rfl
    | _ => cases hp
  cases filter with
  | timeRange =>
    rw [plan] at hp
    cases hw : window setting q with
    | error e =>
      rw [hw] at hp
      cases hp
    | ok w =>
      rw [hw] at hp
      cases hp
      cases setting.entity <;> simp [windowPlan, Plan.addStage, Plan.empty]
  | address => exact absurd rfl hne
  | severity => exact hpass hp
  | protocol => exact hpass hp

theorem warnings_of_address (hsought : q.sought? = some (name, text))
    (hp : address.plan setting q = .ok p) : p.warnings =
      if (AddressPattern.ofText text).isInvalid then [invalidAddressWarning name text] else [] := by
  cases q with
  | field name' value relation =>
    cases hp
    simp only [Query.sought?] at hsought
    split at hsought <;> cases hsought
    rfl
  | wildcard name' pattern =>
    cases hp
    cases hsought
    rfl
  | _ => cases hsought

/-- A filter warns of nothing but a bad address, and only the one for addresses does. -/
theorem mem_warnings_of_plan {filter : Filter} (ha : filter.accepts setting.entity q = true)
    (hp : filter.plan setting q = .ok p) : w ∈ p.warnings ↔ filter = .address ∧ ∃ name text,
      q.SeeksBadAddress setting.entity name text ∧ w = invalidAddressWarning name text := by
  by_cases hfilter : filter = .address
  · subst hfilter
    obtain ⟨name, text, hsought, hkind⟩ := accepts_address_iff.mp ha
    rw [warnings_of_address hsought hp]
    constructor
    · intro hw
      split at hw
      · next hinvalid => exact ⟨rfl, name, text, ⟨hsought, hkind, hinvalid⟩, by simpa using hw⟩
      · cases hw
    · intro ⟨_, name', text', ⟨hsought', _, hinvalid⟩, hw⟩
      obtain ⟨rfl, rfl⟩ : name = name' ∧ text = text' := by
        rw [hsought] at hsought'
        cases hsought'
        exact ⟨rfl, rfl⟩
      simp [hinvalid, hw]
  · simp [warnings_of_ne_address hfilter hp, hfilter]

end Filter

namespace Plan

theorem mem_warnings_mergeAll {plans : List Plan} {w : String} :
    w ∈ (empty.mergeAll plans).warnings ↔ ∃ p ∈ plans, w ∈ p.warnings := by
  have hwarnings (total : Plan) :
      (total.mergeAll plans).warnings = total.warnings ++ plans.flatMap Plan.warnings := by
    induction plans generalizing total with
    | nil => simp
    | cons p rest ih => simp [ih, merge]
  rw [hwarnings, empty, List.nil_append, List.mem_flatMap]

end Plan

namespace Registry

variable {registry : Registry} {setting : Setting} {count : Nat} {q : Query} {w : String}
  {name text : String}

variable [Regex.Library]

theorem address_mem_handlers (h : q.SeeksBadAddress setting.entity name text) :
    .address ∈ registry.handlers setting.entity q ↔ .address ∈ registry := by
  have ha : Filter.address.accepts setting.entity q = true :=
    Filter.accepts_address_iff.mpr ⟨name, text, h.1, h.2.1⟩
  simp [handlers, List.mem_filter, ha]

/-- The filters that accept a condition warn of nothing but the bad address that it looks for. -/
theorem mem_warnings_of_apply {p : Plan} (h : registry.apply setting q = .ok p) :
    w ∈ p.warnings ↔ .address ∈ registry ∧ ∃ name text,
      q.SeeksBadAddress setting.entity name text ∧ w = Filter.invalidAddressWarning name text := by
  obtain ⟨plans, hplans, rfl⟩ := apply_ok h
  have hwarns {filter : Filter} {p : Plan} (hf : filter ∈ registry.handlers setting.entity q)
      (hp : filter.plan setting q = .ok p) := Filter.mem_warnings_of_plan (w := w)
    (List.mem_filter.mp hf).2 hp
  rw [Plan.mem_warnings_mergeAll]
  constructor
  · intro ⟨p, hp, hw⟩
    obtain ⟨filter, hf, hplan⟩ := exists_left_of_forall₂ hplans hp
    obtain ⟨rfl, hbad⟩ := (hwarns hf hplan).mp hw
    exact ⟨(List.mem_filter.mp hf).1, hbad⟩
  · intro ⟨haddress, name, text, hseeks, hw⟩
    have hf := (address_mem_handlers hseeks).mpr haddress
    obtain ⟨p, hp, hplan⟩ := exists_right_of_forall₂ hplans hf
    exact ⟨p, hp, (hwarns hf hplan).mpr ⟨rfl, name, text, hseeks, hw⟩⟩

/-- Planning a condition warns of nothing but the bad address that it looks for itself, and only
where the filter for addresses is asked. -/
theorem mem_warnings_of_step {s : Step} (hs : registry.step setting count q = .ok s) :
    w ∈ s.plan.warnings ↔ .address ∈ registry ∧ ∃ name text,
      q.SeeksBadAddress setting.entity name text ∧ w = Filter.invalidAddressWarning name text := by
  rcases step_cases hs with ⟨hstar, rfl⟩ | ⟨_, hnone, p, _, rfl⟩ | ⟨_, _, p, hp, rfl⟩
  · constructor
    · intro hw
      cases hw
    · rintro ⟨_, name, text, hseeks, _⟩
      rw [Query.isMatchAll_of_seeksBadAddress hseeks] at hstar
      cases hstar
  · constructor
    · intro hw
      cases hw
    · rintro ⟨haddress, name, text, hseeks, _⟩
      have hf := (address_mem_handlers hseeks).mpr haddress
      rw [hnone] at hf
      cases hf
  · exact mem_warnings_of_apply hp

/-- Compiling a query warns of just the bad addresses that its conditions look for. -/
theorem mem_warnings_of_compile {journal : Journal} {p : Plan}
    (h : (registry.compile setting journal q).2 = .ok p) :
    w ∈ p.warnings ↔ .address ∈ registry ∧ ∃ c ∈ q.conjuncts, ∃ name text,
      c.SeeksBadAddress setting.entity name text ∧ w = Filter.invalidAddressWarning name text := by
  obtain ⟨steps, hsteps, rfl⟩ := compile_ok h
  rw [Plan.mem_warnings_mergeAll]
  constructor
  · intro ⟨p, hp, hw⟩
    obtain ⟨s, hs, rfl⟩ := List.mem_map.mp hp
    obtain ⟨c, hc, hstep⟩ := exists_left_of_forall₂ hsteps hs
    obtain ⟨haddress, hbad⟩ := (mem_warnings_of_step hstep).mp hw
    exact ⟨haddress, c, hc, hbad⟩
  · intro ⟨haddress, c, hc, hbad⟩
    obtain ⟨s, hs, hstep⟩ := exists_right_of_forall₂ hsteps hc
    exact ⟨s.plan, List.mem_map_of_mem hs, (mem_warnings_of_step hstep).mpr ⟨haddress, hbad⟩⟩

end Registry

/-- Reading a query warns of nothing but a star beside other clauses. -/
theorem Verdict.warnings_of_query {text : String} {entity : Option Entity} {q : Query}
    (h : (ofText text entity).query = some q) : (ofText text entity).warnings =
      if !q.isMatchAll && q.mentionsMatchAll then [matchAllWarning] else [] := by
  obtain ⟨tokens, q', -, -, hverdict⟩ | ⟨-, hnone⟩ := ofText_cases text entity
  · rw [hverdict] at h ⊢
    obtain ⟨rfl, -⟩ := query_onQuery.mp h
    rfl
  · rw [hnone] at h
    cases h

namespace Compilation

variable {target : Target} {text : String}

/-- A valid compilation has read a query, planned it, and joined the warnings of both. -/
theorem exists_plan_of_valid [Regex.Library] (h : (ofText target text).isValid = true) :
    ∃ q p, (ofText target text).verdict.query = some q ∧
      (target.registry.compile target.setting .empty q).2 = .ok p ∧
      (ofText target text).verdict.warnings =
        (if !q.isMatchAll && q.mentionsMatchAll then [Verdict.matchAllWarning] else []) ++
          p.warnings := by
  cases hgate : (Score.admission text target.config.maxComplexity).isValid with
  | false => simp [ofText, hgate, isValid, Verdict.invalid] at h
  | true =>
    cases hq : (Verdict.ofText (encodedText target text) (some target.entity)).query with
    | none =>
      obtain ⟨q, hquery⟩ := (coherent_ofText target text).verdict.query.mp h
      simp [ofText, hgate, ofAdmitted, hq] at hquery
    | some q =>
      cases hplan : target.registry.compile target.setting .empty q with
      | mk journal result =>
        cases result with
        | error e => simp [ofText, hgate, ofAdmitted, hq, hplan, isValid, overturned] at h
        | ok p =>
          refine ⟨q, p, ?_, by rw [hplan], ?_⟩
          · simp [ofText, hgate, ofAdmitted, hq, hplan, withWarnings]
          · rw [← Verdict.warnings_of_query hq]
            simp [ofText, hgate, ofAdmitted, hq, hplan, withWarnings]

/-- The warnings of a valid compilation are that of a star beside other clauses and those of the bad
addresses that the conditions of the query look for, where the filter for addresses is asked. So of
the clauses of the query that look for a bad address just those are reported that look for the same
as a condition does; under a disjunction or a negation a clause is no condition. -/
theorem warnings_of_valid [Regex.Library] (h : (ofText target text).isValid = true) :
    let warnings := (ofText target text).verdict.warnings
    ∃ q, (ofText target text).verdict.query = some q ∧
      (∀ w, w ∈ warnings ↔
        (q.isMatchAll = false ∧ q.mentionsMatchAll = true ∧ w = Verdict.matchAllWarning) ∨
        (.address ∈ target.registry ∧ ∃ c ∈ q.conjuncts, ∃ name text,
          c.SeeksBadAddress target.entity name text ∧ w = Filter.invalidAddressWarning name text)) ∧
      ∀ leaf ∈ q.leaves, ∀ name text, leaf.SeeksBadAddress target.entity name text →
        (Filter.invalidAddressWarning name text ∈ warnings ↔
          .address ∈ target.registry ∧
            ∃ c ∈ q.conjuncts, c.SeeksBadAddress target.entity name text) := by
  intro warnings
  obtain ⟨q, p, hq, hp, hwarnings⟩ := exists_plan_of_valid h
  have hmem (w : String) : w ∈ warnings ↔
      (q.isMatchAll = false ∧ q.mentionsMatchAll = true ∧ w = Verdict.matchAllWarning) ∨
      (.address ∈ target.registry ∧ ∃ c ∈ q.conjuncts, ∃ name text,
        c.SeeksBadAddress target.entity name text ∧
          w = Filter.invalidAddressWarning name text) := by
    have hplan : w ∈ p.warnings ↔ _ := Registry.mem_warnings_of_compile hp
    rw [show warnings = _ from hwarnings, List.mem_append, hplan]
    simp [and_assoc, Target.setting]
  refine ⟨q, hq, hmem, ?_⟩
  intro leaf _ name text hseeks
  rw [hmem]
  constructor
  · intro hw
    rcases hw with ⟨_, _, hw⟩ | ⟨haddress, c, hc, name', text', hseeks', hw⟩
    · exact absurd hw (Filter.invalidAddressWarning_ne name text)
    · obtain ⟨rfl, rfl⟩ := Filter.invalidAddressWarning_unique
        (Filter.quote_notMem_of_kind? hseeks.2.1) (Filter.quote_notMem_of_kind? hseeks'.2.1) hw
      exact ⟨haddress, c, hc, hseeks'⟩
  · intro ⟨haddress, c, hc, hseeks'⟩
    exact .inr ⟨haddress, c, hc, name, text, hseeks', rfl⟩

/-- The bad address that the query demands is reported, the one in its disjunction is not. -/
theorem warnings_of_valid_of_demanded_address :
    let c := ofText ⟨.usual, .usual, .flows, 1705329342⟩
      "source_ip:999.1.1.1 AND (device_ip:host OR protocol:tcp)"
    c.isValid = true ∧
      (∃ q, c.verdict.query = some q ∧
        (∃ leaf ∈ q.leaves, leaf.SeeksBadAddress .flows "source_ip" "999.1.1.1") ∧
        ∃ leaf ∈ q.leaves, leaf.SeeksBadAddress .flows "device_ip" "host") ∧
      Filter.invalidAddressWarning "source_ip" "999.1.1.1" ∈ c.verdict.warnings ∧
      Filter.invalidAddressWarning "device_ip" "host" ∉ c.verdict.warnings := by
  have hvalid : (ofText ⟨.usual, .usual, .flows, 1705329342⟩
      "source_ip:999.1.1.1 AND (device_ip:host OR protocol:tcp)").isValid = true := by
    decide +kernel
  have hquery : (ofText ⟨.usual, .usual, .flows, 1705329342⟩
      "source_ip:999.1.1.1 AND (device_ip:host OR protocol:tcp)").verdict.query =
      some (.and (.field "source_ip" (.text "999.1.1.1") none)
        (.group (.or (.field "device_ip" (.text "host") none)
          (.field "protocol" (.text "tcp") none)))) := by
    decide +kernel
  have h := warnings_of_valid hvalid
  generalize ofText ⟨.usual, .usual, .flows, 1705329342⟩
    "source_ip:999.1.1.1 AND (device_ip:host OR protocol:tcp)" = c at hvalid hquery h ⊢
  obtain ⟨q, hq, -, hreported⟩ := h
  obtain rfl := Option.some.inj (hquery.symm.trans hq)
  have hsource := hreported (.field "source_ip" (.text "999.1.1.1") none) (by decide) "source_ip"
    "999.1.1.1" (by decide)
  have hdevice := hreported (.field "device_ip" (.text "host") none) (by decide) "device_ip"
    "host" (by decide)
  refine ⟨hvalid, ⟨_, hq, by decide, by decide⟩, hsource.mpr ?_, ?_⟩
  · decide
  · intro hw
    have hdemanded := hdevice.mp hw
    revert hdemanded
    decide

/-- A bad address in a disjunction is not reported. Under a negation it is not, either, though it is
where the same is written as an inequality. -/
theorem warnings_of_address_in_disjunction :
    let target : Target := ⟨.usual, .usual, .flows, 1705329342⟩
    let c := ofText target "source_ip:999.1.1.1 OR protocol:tcp"
    let warning := Filter.invalidAddressWarning "source_ip" "999.1.1.1"
    (c.isValid = true ∧
      (∃ q, c.verdict.query = some q ∧
        ∃ leaf ∈ q.leaves, leaf.SeeksBadAddress .flows "source_ip" "999.1.1.1") ∧
      warning ∉ c.verdict.warnings) ∧
    (ofText target "NOT source_ip:999.1.1.1").verdict.warnings = [] ∧
      (ofText target "source_ip:!=999.1.1.1").verdict.warnings = [warning] := by
  intro target c warning
  have hquery : c.verdict.query = some (.or (.field "source_ip" (.text "999.1.1.1") none)
      (.field "protocol" (.text "tcp") none)) := by
    decide +kernel
  refine ⟨⟨?_, ⟨_, hquery, ?_⟩, ?_⟩, ?_⟩
  · decide +kernel
  · decide
  · decide +kernel
  · decide +kernel

end Compilation

end NetQuery
