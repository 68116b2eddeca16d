import NetQuery.Library
import NetQuery.Proofs.Plan.Merge
import NetQuery.Proofs.Plan.Split
import NetQuery.Proofs.Query.Printing
import NetQuery.Proofs.Text.Delimited

namespace NetQuery

open Grammar NetQuery.Filter

/-- What a fragment of a cache key names. -/
inductive Fragment where
  | time (name : String) (window : Window)
  | address (name text : String)
  | passed (key : String) (value : Literal)
  | residual (q : Query)

namespace Fragment

def tag : Fragment → String
  | time .. => "time"
  | address .. => "ip"
  | passed key _ => key
  | residual _ => "query"

def body : Fragment → String
  | time name w => name ++ ":" ++ Window.endText w.first ++ "-" ++ Window.endText w.last
  | address name text => name ++ ":" ++ text
  | passed _ value => value.toText
  | residual q => q.toText

def text (f : Fragment) : String :=
  f.tag ++ ":" ++ f.body

/-- The fragment can be told from its text. -/
inductive Legible : Fragment → Prop where
  | time {name : String} {w : Window} : ':' ∉ name.toList → Legible (time name w)
  | address {name text : String} : ':' ∉ name.toList → Legible (address name text)
  | passed {key : String} {value : Literal} : key ∈ passedFields →
      Prints .expression (.field key value none) → Legible (passed key value)
  | residual {q : Query} : Prints .expression q → q.withoutEquals = q → Legible (residual q)

variable {setting : Setting} {f f' : Fragment} {n n' : Bool} {p p' : Plan}

theorem colon_notMem_tag (h : f.Legible) : ':' ∉ f.tag.toList := by
  cases h with
  | passed hk =>
    have : ∀ key ∈ passedFields, ':' ∉ key.toList := by decide
    exact this _ hk
  | _ => simp [tag]

theorem tag_unique (h : f.Legible) (h' : f'.Legible) (he : f.text = f'.text) :
    f.tag = f'.tag ∧ f.body = f'.body := by
  have hlist := congrArg String.toList he
  simp only [text, String.toList_append, List.append_assoc] at hlist
  obtain ⟨htag, hbody⟩ := Text.piece_unique (colon_notMem_tag h) (colon_notMem_tag h') hlist
  exact ⟨String.toList_inj.mp htag, String.toList_inj.mp hbody⟩

theorem time_unique {name name' : String} {w w' : Window} (hn : ':' ∉ name.toList)
    (hn' : ':' ∉ name'.toList) (he : (time name w).body = (time name' w').body) :
    time name w = time name' w' := by
  have hlist := congrArg String.toList he
  simp only [body, String.toList_append, List.append_assoc] at hlist
  obtain ⟨hname, hends⟩ := Text.piece_unique hn hn' hlist
  have hdash : ∀ x : List Char, ∀ c ∈ ('-' :: x).head?, c.isDigit = false := by
    rintro x c ⟨⟩
    decide
  obtain ⟨hfirst, hlast⟩ := Window.endText_unique (hdash _) (hdash _) hends
  have hnil : ∀ c ∈ ([] : List Char).head?, c.isDigit = false := by simp
  have hlast := congrArg (· ++ []) (List.cons.inj hlast).2
  obtain ⟨hlast, -⟩ := Window.endText_unique hnil hnil hlast
  obtain ⟨first, last⟩ := w
  obtain ⟨first', last'⟩ := w'
  rw [String.toList_inj.mp hname, show first = first' from hfirst, show last = last' from hlast]

theorem address_unique {name name' text text' : String} (hn : ':' ∉ name.toList)
    (hn' : ':' ∉ name'.toList) (he : (address name text).body = (address name' text').body) :
    address name text = address name' text' := by
  have hlist := congrArg String.toList he
  simp only [body, String.toList_append, List.append_assoc] at hlist
  obtain ⟨hname, htext⟩ := Text.piece_unique hn hn' hlist
  rw [String.toList_inj.mp hname, String.toList_inj.mp htext]

theorem toText_passed {key : String} (hk : key ∈ passedFields) (value : Literal) :
    (Query.field key value none).toText = key ++ ":" ++ value.toText := by
  have hne : key ≠ Query.matchAllName := by
    rintro rfl
    revert hk
    decide
  simp [Query.toText, hne]

/-- Legible fragments with one text are the same. -/
theorem eq_of_text_eq (h : f.Legible) (h' : f'.Legible) (he : f.text = f'.text) : f = f' := by
  obtain ⟨htag, hbody⟩ := tag_unique h h' he
  have hpassed : ∀ key ∈ passedFields, key ≠ "time" ∧ key ≠ "ip" ∧ key ≠ "query" := by decide
  cases h <;> cases h' <;> simp only [tag, String.reduceEq] at htag
  case time.time hn _ _ hn' => exact time_unique hn hn' hbody
  case address.address hn _ _ hn' => exact address_unique hn hn' hbody
  case passed.passed hk hp _ _ hk' hp' =>
    subst htag
    have htext := (toText_passed hk _).trans ((congrArg _ hbody).trans (toText_passed hk _).symm)
    cases hp.eq_of_toText hp' htext
    rfl
  case residual.residual hp hq _ hp' hq' =>
    have heq := hp.eq_of_toText hp' hbody
    rw [hq, hq'] at heq
    rw [heq]
  case passed.time hk _ _ _ _ => exact absurd htag (hpassed _ hk).1
  case passed.address hk _ _ _ _ => exact absurd htag (hpassed _ hk).2.1
  case passed.residual hk _ _ _ _ => exact absurd htag (hpassed _ hk).2.2
  case time.passed hk _ => exact absurd htag.symm (hpassed _ hk).1
  case address.passed hk _ => exact absurd htag.symm (hpassed _ hk).2.1
  case residual.passed hk _ => exact absurd htag.symm (hpassed _ hk).2.2

variable [Regex.Library]

/-- The plan is made for a condition with this fragment; `negated` tells whether an address pattern
is excluded. -/
inductive Makes (setting : Setting) : Fragment → Bool → Plan → Prop where
  | time {name : String} {w : Window} :
      Makes setting (time name w) false (windowPlan setting.entity name w)
  | address {name text : String} {negated : Bool} :
      Makes setting (address name text) negated (addressPlan name text negated)
  | passed {key : String} {value : Literal} :
      Makes setting (passed key value) false (passPlan key key value)
  | residual {q : Query} {p : Predicate} : q.predicate setting = .ok p →
      Makes setting (residual q) false (Registry.residualPlan q p)

theorem Makes.cacheKey (h : f.Makes setting n p) : p.cacheKey = some f.text := by
  cases h with
  | @time name w =>
    cases he : setting.entity <;>
      simp [windowPlan, Plan.addStage, text, tag, body, String.append_assoc]
  | address => simp [addressPlan, text, tag, body, String.append_assoc]
  | passed => rfl
  | residual => rfl

theorem Makes.unique (h : f.Makes setting n p) (h' : f.Makes setting n p') : p = p' := by
  cases h with
  | residual hq =>
    cases h' with
    | residual hq' =>
      rw [hq] at hq'
      cases hq'
      rfl
  | _ => cases h'; rfl

theorem Makes.params_eq (h : f.Makes setting n p) (h' : f.Makes setting n' p') :
    p.params = p'.params := by
  cases h <;> cases h' <;> rfl

/-- An address pattern and its exclusion accept no record in common. -/
theorem Makes.disjoint (h : f.Makes setting n p) (h' : f.Makes setting n' p') (hn : n ≠ n')
    (r : Record) : ¬ (p.accepts r = true ∧ p'.accepts r = true) := by
  cases h with
  | @address name text =>
    cases h' with
    | address =>
      rintro ⟨ha, ha'⟩
      simp only [addressPlan, Plan.accepts, Plan.stageList, Option.getD_some, List.all_cons,
        List.all_nil, Bool.and_true, bne_iff_ne, ne_eq] at ha ha'
      cases n <;> cases n' <;> simp_all
  | _ => cases h'; exact absurd rfl hn

end Fragment

def Query.excludesAddress (entity : Entity) : Query → Bool
  | field name _ relation => relation == some .ne && entity.isOfKind name .ip
  | _ => false

namespace Filter

variable {entity : Entity} {c : Query}

/-- The fields that a filter is for. -/
def Covers (entity : Entity) : Filter → String → Prop
  | timeRange, name => entity.kind? name = some .timestamp
  | address, name => entity.kind? name = some .ip
  | severity, name => name = "severity"
  | protocol, name => name = "protocol"

theorem covers_of_accepts {f : Filter} (hf : f.accepts entity c = true) :
    f.Covers entity (c.fieldName?.getD "") := by
  cases f with
  | timeRange => exact kind?_of_isOfKind (isOfKind_of_accepts hf)
  | address =>
    cases c with
    | field name value relation =>
      have : relation ≠ some .approx ∧ entity.isOfKind name .ip = true := by
        simpa [accepts] using hf
      exact kind?_of_isOfKind this.2
    | wildcard name pattern => exact kind?_of_isOfKind hf
    | _ => cases hf
  | severity | protocol =>
    cases c with
    | field name value relation =>
      simp only [accepts, isEqualityOn, Bool.and_eq_true, beq_iff_eq] at hf
      exact hf.1.2
    | _ => cases hf

/-- No field is covered by two filters. -/
theorem Covers.unique {f g : Filter} {name : String} (hf : f.Covers entity name)
    (hg : g.Covers entity name) : f = g := by
  have hpassed : name ∈ passedFields → entity.kind? name ≠ some .ip ∧
      entity.kind? name ≠ some .timestamp := fun hk => kind?_of_passed hk entity
  cases f <;> cases g <;> simp only [Covers] at hf hg <;>
    simp_all [passedFields]

/-- The usual filters hand a clause to one of them at most. -/
theorem handlers_usual {f : Filter} (hf : f ∈ Registry.usual.handlers entity c) :
    Registry.usual.handlers entity c = [f] := by
  have ha := (List.mem_filter.mp hf).2
  have honly : ∀ g ∈ Registry.usual, g.accepts entity c = (g == f) := by
    intro g _
    cases hg : g.accepts entity c with
    | true =>
      rw [(covers_of_accepts hg).unique (covers_of_accepts ha)]
      simp
    | false =>
      rw [eq_comm, beq_eq_false_iff_ne]
      rintro rfl
      rw [ha] at hg
      cases hg
  rw [Registry.handlers, List.filter_congr honly]
  cases f <;> rfl

/-- Names of declared fields have none of the characters that divide a cache key. -/
theorem notMem_of_kind? {name : String} {kind : FieldKind} (h : entity.kind? name = some kind) :
    ':' ∉ name.toList ∧ '|' ∉ name.toList := by
  have hall : ∀ spec ∈ entity.fields, ':' ∉ spec.name.toList ∧ '|' ∉ spec.name.toList := by
    cases entity <;> decide
  obtain ⟨spec, hspec, -⟩ : ∃ spec, entity.field? name = some spec ∧ spec.kind = kind := by
    simpa [Entity.kind?] using h
  have hname : spec.name = name := by simpa using List.find?_some hspec
  rw [← hname]
  exact hall spec (List.mem_of_find?_eq_some hspec)

end Filter

/-- The part that a condition has in a plan and in its cache key. -/
structure Part [Regex.Library] (setting : Setting) where
  fragment : Fragment
  negated : Bool
  plan : Plan
  legible : fragment.Legible
  makes : fragment.Makes setting negated plan
  undivided : '|' ∉ fragment.text.toList

namespace Part

variable {setting : Setting} {c : Query} {p : Plan}

theorem bar_notMem_endText (t : Option Int) : '|' ∉ (Window.endText t).toList := by
  rw [Window.toList_endText]
  have hdigits : ∀ n, '|' ∉ Number.natDigits n := fun n hmem => by
    have := Number.isDigit_of_mem_natDigits _ hmem
    revert this
    decide
  cases t with
  | none => decide
  | some n => by_cases hn : n < 0 <;> simp [hn, hdigits]

theorem bar_notMem_value {name : String} {value : Literal} {relation : Option Relation}
    (hm : (Query.field name value relation).isMatchAll = false)
    (hbar : '|' ∉ (Query.field name value relation).toText.toList) :
    '|' ∉ value.toText.toList := by
  have hn : (name == Query.matchAllName) = false := hm
  intro hmem
  refine hbar ?_
  cases relation with
  | none => simp [Query.toText, hn, hmem]
  | some r => cases r <;> simp [Query.toText, hn, hmem]

theorem excludesAddress_of_isEquality {name : String} {value : Literal}
    {relation : Option Relation} (h : isEquality relation = true) (entity : Entity) :
    (Query.field name value relation).excludesAddress entity = false := by
  have hne : relation ≠ some .ne := by
    rintro rfl
    cases h
  simp [Query.excludesAddress, hne]

theorem accepts_of_excludesAddress {entity : Entity} (h : c.excludesAddress entity = true) :
    address.accepts entity c = true := by
  cases c with
  | field name value relation =>
    obtain ⟨rfl, hk⟩ : relation = some .ne ∧ entity.isOfKind name .ip = true := by
      simpa [Query.excludesAddress] using h
    simp [accepts, hk]
  | _ => cases h

variable [Regex.Library]

theorem exists_of_window {w : Window} (ha : timeRange.accepts setting.entity c = true)
    (hp : Filter.window setting c = .ok w) : ∃ part : Part setting,
      part.plan = windowPlan setting.entity (c.fieldName?.getD "") w ∧
        part.negated = c.excludesAddress setting.entity := by
  have hk := kind?_of_isOfKind (isOfKind_of_accepts ha)
  obtain ⟨hcolon, hname⟩ := notMem_of_kind? hk
  refine ⟨⟨.time (c.fieldName?.getD "") w, false, _, .time hcolon, .time, ?_⟩, rfl, ?_⟩
  · simp [Fragment.text, Fragment.tag, Fragment.body, hname, bar_notMem_endText]
  · cases c with
    | field name value relation =>
      have : isEquality relation = true ∧ setting.entity.isOfKind name .timestamp = true := by
        simpa [accepts] using ha
      exact (excludesAddress_of_isEquality this.1 _).symm
    | _ => rfl

theorem exists_of_address (ha : address.accepts setting.entity c = true)
    (hm : c.isMatchAll = false) (hp : address.plan setting c = .ok p)
    (hbar : '|' ∉ c.toText.toList) :
    ∃ part : Part setting, part.plan = p ∧ part.negated = c.excludesAddress setting.entity := by
  cases c with
  | field name value relation =>
    obtain ⟨-, hk⟩ : relation ≠ some .approx ∧ setting.entity.isOfKind name .ip = true := by
      simpa [accepts] using ha
    obtain ⟨hcolon, hname⟩ := notMem_of_kind? (kind?_of_isOfKind hk)
    have hvalue := bar_notMem_value hm hbar
    cases hp
    refine ⟨⟨.address name value.toText, _, _, .address hcolon, .address, ?_⟩, rfl, ?_⟩
    · simp [Fragment.text, Fragment.tag, Fragment.body, hname, hvalue]
    · simp [Query.excludesAddress, hk]
  | wildcard name pattern =>
    obtain ⟨hcolon, hname⟩ := notMem_of_kind? (kind?_of_isOfKind ha)
    have hpattern : '|' ∉ pattern.toList := fun hmem => hbar (by simp [Query.toText, hmem])
    cases hp
    refine ⟨⟨.address name pattern, _, _, .address hcolon, .address, ?_⟩, rfl, rfl⟩
    simp [Fragment.text, Fragment.tag, Fragment.body, hname, hpattern]
  | _ => cases ha

theorem exists_of_pass {filter : Filter} {key : String} (hk : key ∈ passedFields)
    (ha : isEqualityOn key setting.entity c = true) (hp : pass filter key c = .ok p)
    (hprint : Prints .expression c) (hbar : '|' ∉ c.toText.toList) :
    ∃ part : Part setting, part.plan = p ∧ part.negated = c.excludesAddress setting.entity := by
  obtain ⟨value, relation, rfl, rfl, -⟩ := predicate_of_pass hk ha hp
  have he : isEquality relation = true := by
    simp only [isEqualityOn, Bool.and_eq_true] at ha
    exact ha.1.1
  have hequal : (Query.field key value relation).withoutEquals = .field key value none := by
    obtain rfl | rfl : relation = none ∨ relation = some .eq := by simpa [isEquality] using he
    all_goals rfl
  have hprint' := hprint.withoutEquals
  rw [hequal] at hprint'
  refine ⟨⟨.passed key value, false, _, .passed hk hprint', .passed, ?_⟩, rfl, ?_⟩
  · rw [← Query.toText_withoutEquals, hequal, Fragment.toText_passed hk] at hbar
    exact hbar
  · exact (excludesAddress_of_isEquality he _).symm

/-- Every condition but the match-all clause has a part. -/
theorem exists_of_step {count : Nat} {s : Registry.Step}
    (h : Registry.usual.step setting count c = .ok s) (hm : c.isMatchAll = false)
    (hprint : Prints .expression c) (hbar : '|' ∉ c.toText.toList) :
    ∃ part : Part setting,
      part.plan = s.plan ∧ part.negated = c.excludesAddress setting.entity := by
  rcases Registry.step_cases h with ⟨hm', -⟩ | ⟨-, hh, P, hP, rfl⟩ | ⟨-, hh, plan, hp, rfl⟩
  · rw [hm] at hm'
    cases hm'
  · have hlegible : Fragment.Legible (.residual c.withoutEquals) :=
      .residual hprint.withoutEquals (by simp)
    have hP' : c.withoutEquals.predicate setting = .ok P := by rwa [Query.predicate_withoutEquals]
    refine ⟨⟨_, false, _, hlegible, .residual hP', ?_⟩, ?_, ?_⟩
    · simpa [Fragment.text, Fragment.tag, Fragment.body] using hbar
    · simp [Registry.residualPlan]
    · rw [eq_comm, Bool.eq_false_iff]
      intro hex
      have hmem : address ∈ Registry.usual.handlers setting.entity c :=
        List.mem_filter.mpr ⟨by decide, accepts_of_excludesAddress hex⟩
      rw [hh] at hmem
      cases hmem
  · obtain ⟨plans, hplans, rfl⟩ := Registry.apply_ok hp
    obtain ⟨filter, hf⟩ := List.exists_mem_of_ne_nil _ hh
    have ha := (List.mem_filter.mp hf).2
    rw [handlers_usual hf] at hplans
    obtain ⟨fp, _, hfp, hnil, rfl⟩ := List.forall₂_cons_left_iff.mp hplans
    rw [List.forall₂_nil_left_iff.mp hnil]
    simp only [Plan.mergeAll_cons, Plan.mergeAll_nil, Plan.empty_merge]
    cases filter with
    | timeRange =>
      cases hw : Filter.window setting c with
      | error e => simp [Filter.plan, hw, Except.map] at hfp
      | ok w =>
        simp only [Filter.plan, hw, Except.map, Except.ok.injEq] at hfp
        subst hfp
        exact exists_of_window ha hw
    | address => exact exists_of_address ha hm hfp hbar
    | severity => exact exists_of_pass (by decide) ha hfp hprint hbar
    | protocol => exact exists_of_pass (by decide) ha hfp hprint hbar

theorem exists_of_steps {count : Nat} {cs : List Query} {steps : List Registry.Step}
    (h : Registry.StepsOf .usual setting count cs steps)
    (hcs : ∀ c ∈ cs, Prints .expression c ∧ '|' ∉ c.toText.toList) :
    ∃ parts : List (Part setting),
      parts.map negated = (cs.filter fun c => !c.isMatchAll).map
        (Query.excludesAddress setting.entity) ∧
      ∀ total : Plan, total.mergeAll (steps.map Registry.Step.plan) =
        total.mergeAll (parts.map Part.plan) := by
  induction h with
  | nil => exact ⟨[], rfl, fun _ => rfl⟩
  | @cons c s cs steps hstep _ ih =>
    obtain ⟨⟨hprint, hbar⟩, hcs'⟩ := List.forall_mem_cons.mp hcs
    obtain ⟨parts, hsigns, hmerge⟩ := ih hcs'
    cases hm : c.isMatchAll with
    | true =>
      have hplan : s.plan = .empty := by
        rcases Registry.step_cases hstep with ⟨-, rfl⟩ | ⟨hm', -⟩ | ⟨hm', -⟩
        · rfl
        · rw [hm] at hm'
          cases hm'
        · rw [hm] at hm'
          cases hm'
      refine ⟨parts, by simpa [hm] using hsigns, fun total => ?_⟩
      rw [List.map_cons, Plan.mergeAll_cons, hplan, Plan.merge_empty, hmerge]
    | false =>
      obtain ⟨part, hplan, hsign⟩ := exists_of_step hstep hm hprint hbar
      refine ⟨part :: parts, by simp [hm, hsigns, hsign], fun total => ?_⟩
      simp only [List.map_cons, Plan.mergeAll_cons, hplan, hmerge]

/-- The cache key of merged parts has their fragments with bars between them. -/
theorem cacheKey_mergeAll {total : Plan} {key : String} (hkey : total.cacheKey = some key)
    (parts : List (Part setting)) :
    ∃ joined, (total.mergeAll (parts.map Part.plan)).cacheKey = some joined ∧
      joined.toList = key.toList ++
        (parts.map fun part => part.fragment.text.toList).flatMap ('|' :: ·) := by
  induction parts generalizing total key with
  | nil => exact ⟨key, hkey, by simp⟩
  | cons part parts ih =>
    have hmerge : (total.merge part.plan).cacheKey =
        some (Plan.joinKeys key part.fragment.text) := by
      simp [Plan.merge, Plan.joinWith, hkey, part.makes.cacheKey]
    obtain ⟨joined, hjoined, hlist⟩ := ih hmerge
    refine ⟨joined, hjoined, ?_⟩
    rw [hlist]
    simp [Plan.joinKeys]

/-- Parts with one cache key have the same fragments. -/
theorem fragments_eq {parts parts' : List (Part setting)} {key : String}
    (h : (Plan.empty.mergeAll (parts.map Part.plan)).cacheKey = some key)
    (h' : (Plan.empty.mergeAll (parts'.map Part.plan)).cacheKey = some key) :
    parts.map fragment = parts'.map fragment := by
  have hpieces : ∀ {parts : List (Part setting)},
      (Plan.empty.mergeAll (parts.map Part.plan)).cacheKey = some key →
      '|' :: key.toList = (parts.map fun part => part.fragment.text.toList).flatMap ('|' :: ·) := by
    intro parts h
    cases parts with
    | nil => cases h
    | cons part parts =>
      rw [List.map_cons, Plan.mergeAll_cons, Plan.empty_merge] at h
      obtain ⟨joined, hjoined, hlist⟩ := cacheKey_mergeAll part.makes.cacheKey parts
      rw [h] at hjoined
      cases hjoined
      rw [hlist]
      rfl
  have hbars : ∀ (parts : List (Part setting)),
      ∀ a ∈ parts.map fun part => part.fragment.text.toList, '|' ∉ a := by
    intro parts a ha
    obtain ⟨part, -, rfl⟩ := List.mem_map.mp ha
    exact part.undivided
  have htexts := Text.pieces_unique (hbars parts) (hbars parts')
    ((hpieces h).symm.trans (hpieces h'))
  clear h h' hpieces hbars
  induction parts generalizing parts' with
  | nil =>
    cases parts' with
    | nil => rfl
    | cons => cases htexts
  | cons part parts ih =>
    cases parts' with
    | nil => cases htexts
    | cons part' parts' =>
      simp only [List.map_cons, List.cons.injEq] at htexts ⊢
      obtain ⟨htext, htexts⟩ := htexts
      exact ⟨Fragment.eq_of_text_eq part.legible part'.legible (String.toList_inj.mp htext),
        ih htexts⟩

/-- Parts with the same fragments ask for the same. They are the same if they exclude the same
address patterns, and accept no record in common if not. -/
theorem agree_of_fragments_eq {parts parts' : List (Part setting)}
    (h : parts.map fragment = parts'.map fragment) :
    parts.map (·.plan.params) = parts'.map (·.plan.params) ∧
    (parts.map negated = parts'.map negated → parts.map Part.plan = parts'.map Part.plan) ∧
    (parts.map negated ≠ parts'.map negated → ∀ r,
      ¬ ((∀ part ∈ parts, part.plan.accepts r = true) ∧
        ∀ part ∈ parts', part.plan.accepts r = true)) := by
  induction parts generalizing parts' with
  | nil =>
    cases parts' with
    | nil => exact ⟨rfl, fun _ => rfl, fun hne => absurd rfl hne⟩
    | cons => cases h
  | cons part parts ih =>
    cases parts' with
    | nil => cases h
    | cons part' parts' =>
      simp only [List.map_cons, List.cons.injEq, List.forall_mem_cons, ne_eq] at h ⊢
      obtain ⟨hfragment, h⟩ := h
      obtain ⟨hparams, hsame, hdisjoint⟩ := ih h
      have hmakes := part'.makes
      rw [← hfragment] at hmakes
      refine ⟨⟨part.makes.params_eq hmakes, hparams⟩, ?_, ?_⟩
      · rintro ⟨hsign, hsigns⟩
        rw [← hsign] at hmakes
        exact ⟨part.makes.unique hmakes, hsame hsigns⟩
      · rintro hne r ⟨⟨ha, has⟩, ha', has'⟩
        by_cases hsign : part.negated = part'.negated
        · exact hdisjoint (fun hsigns => hne ⟨hsign, hsigns⟩) r ⟨has, has'⟩
        · exact part.makes.disjoint hmakes hsign r ⟨ha, ha'⟩

end Part

namespace Query

/-- For each condition but the match-all clause, whether it excludes an address pattern. -/
def exclusions (entity : Entity) (q : Query) : List Bool :=
  (q.conjuncts.filter fun c => !c.isMatchAll).map (excludesAddress entity)

end Query

namespace Registry

variable {setting : Setting}

/-- The plan of a query whose clauses are all read back is merged from the parts of its
conditions. -/
theorem exists_parts [Regex.Library] {journal : Journal} {q : Query} {p : Plan} {text : String}
    (hq : (Verdict.ofText text (some setting.entity)).query = some q) (hplain : q.Plain)
    (h : (usual.compile setting journal q).2 = .ok p) :
    ∃ parts : List (Part setting), parts.map Part.negated = q.exclusions setting.entity ∧
      p = Plan.empty.mergeAll (parts.map Part.plan) := by
  obtain ⟨steps, hsteps, rfl⟩ := compile_ok h
  have hprints := Query.printsAll_of_ofText hq hplain
  obtain ⟨parts, hsigns, hmerge⟩ := Part.exists_of_steps hsteps fun c hc => by
    refine ⟨hprints.conditions c hc, fun hbar => ?_⟩
    have hc' : c.Plain := fun leaf hl => hplain leaf (Query.leaves_subset_of_conjunct hc hl)
    have := Query.isPlain_toText hc' _ hbar
    revert this
    decide
  exact ⟨parts, hsigns, hmerge _⟩

/-- Of two queries whose clauses are all read back from their texts and whose plans have one cache
key, the plans ask for the same records. They keep the same of every list just when the queries
exclude the same address patterns, or both keep none. -/
theorem kept_eq_iff_of_cacheKey_eq [Regex.Library] {journal journal' : Journal}
    {text text' key : String} {q q' : Query} {p p' : Plan}
    (hq : (Verdict.ofText text (some setting.entity)).query = some q)
    (hq' : (Verdict.ofText text' (some setting.entity)).query = some q')
    (hplain : q.Plain) (hplain' : q'.Plain)
    (h : (usual.compile setting journal q).2 = .ok p)
    (h' : (usual.compile setting journal' q').2 = .ok p')
    (hkey : p.cacheKey = some key) (hkey' : p'.cacheKey = some key) :
    p.params = p'.params ∧ ∀ records, (p.run records).1 = (p'.run records).1 ↔
      q.exclusions setting.entity = q'.exclusions setting.entity ∨
        ((p.run records).1 = [] ∧ (p'.run records).1 = []) := by
  obtain ⟨parts, hsigns, rfl⟩ := exists_parts hq hplain h
  obtain ⟨parts', hsigns', rfl⟩ := exists_parts hq' hplain' h'
  obtain ⟨hparams, hsame, hdisjoint⟩ :=
    Part.agree_of_fragments_eq (Part.fragments_eq hkey hkey')
  rw [hsigns, hsigns'] at hsame hdisjoint
  refine ⟨?_, fun records => ⟨fun hkept => ?_, ?_⟩⟩
  · rw [Plan.params_mergeAll, Plan.params_mergeAll, List.map_map, List.map_map]
    exact congrArg _ hparams
  · by_cases hne : q.exclusions setting.entity = q'.exclusions setting.entity
    · exact .inl hne
    · -- A record that both keep would pass a pattern and its exclusion.
      have hnil : ((Plan.empty.mergeAll (parts.map Part.plan)).run records).1 = [] := by
        rw [List.eq_nil_iff_forall_not_mem]
        intro r hr
        have hr' := hkept ▸ hr
        rw [Plan.run_kept] at hr hr'
        have ha := Plan.accepts_mergeAll.mp (List.mem_filter.mp hr).2
        have ha' := Plan.accepts_mergeAll.mp (List.mem_filter.mp hr').2
        exact hdisjoint hne r ⟨fun part hp => ha _ (List.mem_map_of_mem hp),
          fun part hp => ha' _ (List.mem_map_of_mem hp)⟩
      exact .inr ⟨hnil, hkept ▸ hnil⟩
  · rintro (hsigns | ⟨hnil, hnil'⟩)
    · rw [hsame hsigns]
    · rw [hnil, hnil']

/-- One key for a choice whose first clause is spelled in two ways. -/
theorem kept_eq_iff_of_cacheKey_eq_of_explicit_equals :
    let setting : Setting := ⟨.flows, 1705329342, none⟩
    let choice : Query := .group (.or (.wildcard "source_ip" "10.*")
      (.comparison "bytes" .gt (.int 1000)))
    let q : Query := .and (.field "protocol" (.text "tcp") none) choice
    let q' : Query := .and (.field "protocol" (.text "tcp") (some .eq)) choice
    ∃ p p', (usual.compile setting .empty q).2 = .ok p ∧
      (usual.compile setting .empty q').2 = .ok p' ∧
      p.params = p'.params ∧ ∀ records, (p.run records).1 = (p'.run records).1 ↔
        q.exclusions setting.entity = q'.exclusions setting.entity ∨
          ((p.run records).1 = [] ∧ (p'.run records).1 = []) := by
  intro setting choice q q'
  have hq : (Verdict.ofText "protocol:tcp AND (source_ip:10.* OR bytes:>1000)"
      (some setting.entity)).query = some q := by decide +kernel
  have hq' : (Verdict.ofText "protocol:=tcp (source_ip:10.* OR bytes:>1000)"
      (some setting.entity)).query = some q' := by decide +kernel
  have hquotes : ∀ {leaf : Query}, leaf.toText.toList.all (fun c => !Text.isQuote c) = true →
      ∀ c ∈ leaf.toText.toList, Text.isQuote c = false := by simp
  have hplain : q.Plain := by
    intro leaf hl
    simp only [q, choice, Query.leaves, List.cons_append, List.nil_append, List.mem_cons,
      List.not_mem_nil, or_false] at hl
    rcases hl with rfl | rfl | rfl <;> exact ⟨hquotes (by decide), by decide +kernel⟩
  have hplain' : q'.Plain := by
    intro leaf hl
    simp only [q', choice, Query.leaves, List.cons_append, List.nil_append, List.mem_cons,
      List.not_mem_nil, or_false] at hl
    rcases hl with rfl | rfl | rfl <;> exact ⟨hquotes (by decide), by decide +kernel⟩
  have h : (usual.compile setting .empty q).2 = .ok _ := rfl
  have h' : (usual.compile setting .empty q').2 = .ok _ := rfl
  exact ⟨_, _, h, h', kept_eq_iff_of_cacheKey_eq hq hq' hplain hplain' h h' rfl rfl⟩

/-- The usual filters make the plan for a text. -/
def PlanOf [Regex.Library] (setting : Setting) (text : String) (p : Plan) : Prop :=
  ∃ q, (Verdict.ofText text (some setting.entity)).query = some q ∧
    (usual.compile setting .empty q).2 = .ok p

/-- An address and its exclusion have one key and keep different records; a number and its quoted
digits have one key and ask for different ones. -/
theorem cacheKey_of_excluded_address_and_quoted_number :
    let flows : Setting := ⟨.flows, 1705329342, none⟩
    let alarms : Setting := ⟨.alarms, 1705329342, none⟩
    let r : Record := ⟨.flows, .obj [("source", .obj [("ip", .str "10.0.0.1")])]⟩
    (∃ p p', PlanOf flows "source_ip:10.0.0.1" p ∧ PlanOf flows "source_ip:!=10.0.0.1" p' ∧
      p.cacheKey = some "ip:source_ip:10.0.0.1" ∧ p'.cacheKey = some "ip:source_ip:10.0.0.1" ∧
      (p.run [r]).1 ≠ (p'.run [r]).1) ∧
    ∃ p p', PlanOf alarms "severity:5" p ∧ PlanOf alarms "severity:\"5\"" p' ∧
      p.cacheKey = some "severity:5" ∧ p'.cacheKey = some "severity:5" ∧ p.params ≠ p'.params := by
  intro flows alarms r
  refine ⟨⟨_, _, ⟨.field "source_ip" (.text "10.0.0.1") none, by decide +kernel, rfl⟩,
    ⟨.field "source_ip" (.text "10.0.0.1") (some .ne), by decide +kernel, rfl⟩, rfl, rfl, ?_⟩,
    _, _, ⟨.field "severity" (.int 5) none, by decide +kernel, rfl⟩,
    ⟨.field "severity" (.text "5") none, by decide +kernel, rfl⟩, rfl, rfl, ?_⟩
  · intro hkept
    have hlength := congrArg List.length hkept
    revert hlength
    decide
  · intro hparams
    have hvalue := congrArg (Params.get? · "severity") hparams
    cases hvalue

end Registry

end NetQuery
