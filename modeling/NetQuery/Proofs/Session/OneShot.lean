import NetQuery.CommandLine
import NetQuery.Proofs.Plan.Clock
import NetQuery.Proofs.Plan.Tagging

namespace NetQuery

namespace Compilation

/-- The query that a text spells for the target, after boolean conditions are respelled. -/
def query? (target : Target) (text : String) : Option Query :=
  (Verdict.ofText (encodedText target text) (some target.entity)).query

variable {target : Target} {text : String}

variable [Regex.Library]

/-- A query without relative times is compiled to the same at any moment. -/
theorem ofText_at (h : ∀ q ∈ query? target text, q.readsClock target.entity = false) (now : Int) :
    ofText { target with now } text = ofText target text := by
  have hadmitted (weighing : Score.Weighing) :
      ofAdmitted { target with now } weighing text = ofAdmitted target weighing text := by
    unfold ofAdmitted
    simp only [show encodedText { target with now } text = encodedText target text from rfl]
    cases hq : (Verdict.ofText (encodedText target text) (some target.entity)).query with
    | none => rfl
    | some q =>
      have hquery : q.readsClock target.setting.entity = false := h q hq
      have hcompile := target.registry.compile_at hquery .empty now
      simp only [show Target.setting { target with now } = target.setting.at now from rfl,
        hcompile]
  unfold ofText
  simp only [hadmitted]

theorem exists_of_plan {p : Plan} (h : (ofText target text).plan = some p) :
    ∃ q ∈ query? target text,
      (target.registry.compile target.setting .empty q).2 = .ok p := by
  unfold ofText at h
  simp only at h
  split at h
  · unfold ofAdmitted at h
    simp only at h
    split at h
    · cases h
    · next q hq =>
      refine ⟨q, hq, ?_⟩
      split at h
      · next journal plan hcompile =>
        cases h
        rw [hcompile]
      · cases h
  · cases h

theorem run_retag {entity : Entity} {records : List Record}
    (h : ∀ q ∈ query? target text, ∀ r ∈ records, q.ReadsAlike r (r.retag entity)) :
    (ofText target text).run (records.map (Record.retag entity)) =
      (((ofText target text).run records).1.map (Record.retag entity),
        ((ofText target text).run records).2) := by
  unfold run
  cases hp : (ofText target text).plan with
  | none => rfl
  | some p =>
    obtain ⟨q, hq, hcompile⟩ := exists_of_plan hp
    exact Registry.run_retag hcompile (h q hq)

end Compilation

namespace Desk

def retag (desk : Desk) (entity : Entity) : Desk :=
  { desk with records := desk.records.map (List.map (Record.retag entity)) }

variable {desk : Desk} {entity : Entity} {now : Int} {text : String}

theorem siftedText_retag {c : Compilation} {records : List Record}
    (h : c.run (records.map (Record.retag entity)) =
      ((c.run records).1.map (Record.retag entity), (c.run records).2)) :
    siftedText c (records.map (Record.retag entity)) = siftedText c records := by
  unfold siftedText
  simp [h, Function.comp_def]

/-- A query is answered the same at any moment and from the records of another entity, if it has no
relative times and the records read the same under that entity. -/
theorem answerQuery_retag [Regex.Library] {current : Entity} (now' : Int)
    (hclock : ∀ q ∈ Compilation.query? ⟨desk.config, .usual, current, now⟩ text,
      q.readsClock current = false)
    (hsame : ∀ q ∈ Compilation.query? ⟨desk.config, .usual, current, now⟩ text,
      ∀ records ∈ desk.records, ∀ r ∈ records, q.ReadsAlike r (r.retag entity)) :
    (desk.retag entity).answerQuery current now' text = desk.answerQuery current now text := by
  have hc := Compilation.ofText_at hclock now'
  unfold answerQuery retag
  simp only [hc]
  cases hr : desk.records with
  | none => rfl
  | some records =>
    have hsift := siftedText_retag (Compilation.run_retag fun q hq => hsame q hq records hr)
    simp only [Option.map_some, hsift]

theorem siftedText_eq_of_answerQuery [Regex.Library] (desk : Desk) {current : Entity}
    {records : List Record} (hrecords : desk.records = some records)
    (hvalid : (Compilation.ofText ⟨desk.config, .usual, current, now⟩ text).isValid)
    (h : (desk.answerQuery current now text).text =
      ((desk.retag entity).answerQuery current now text).text) :
    siftedText (Compilation.ofText ⟨desk.config, .usual, current, now⟩ text) records =
      siftedText (Compilation.ofText ⟨desk.config, .usual, current, now⟩ text)
        (records.map (Record.retag entity)) := by
  unfold answerQuery retag at h
  simpa only [hrecords, Option.map_some, hvalid, if_true, String.append_right_inj] using h

end Desk

theorem Entity.ofName?_name (entity : Entity) : ofName? entity.name = some entity := by
  cases entity <;> decide +kernel

namespace CommandLine

variable {inputs : Inputs} {desk : Desk} {entity : Entity}

/-- The records of a run for the entity: none if no file names them. -/
def recordsFor (inputs : Inputs) (entity : Entity) : Except StartError (Option (List Record)) :=
  match inputs.records with
  | some text => (readRecords entity text).map some
  | none => .ok none

def settings (inputs : Inputs) : Except StartError Config :=
  match inputs.config with
  | some text => (Config.ofText "" text).mapError .config
  | none => .ok .usual

/-- A run starts when its settings can be used, its entity is known and its records are a list. -/
theorem start_eq_ok : start inputs = .ok (desk, entity) ↔
    ∃ config records, settings inputs = .ok config ∧ Entity.ofName? inputs.entity = some entity ∧
      recordsFor inputs entity = .ok records ∧
      desk = ⟨{ config with debug := config.debug || inputs.debug }, records⟩ := by
  have hstart : start inputs = (settings inputs).bind fun config =>
      (Entity.ofName? inputs.entity).elim (.error (.entity ⟨inputs.entity⟩)) fun entity =>
        (recordsFor inputs entity).map fun records =>
          (⟨{ config with debug := config.debug || inputs.debug }, records⟩, entity) := by
    unfold start settings recordsFor
    simp only [bind, Except.bind]
    cases inputs.config <;> cases Entity.ofName? inputs.entity <;> cases inputs.records <;> rfl
  rw [hstart]
  cases settings inputs with
  | error e => simp [Except.bind]
  | ok config =>
    cases Entity.ofName? inputs.entity with
    | none => simp [Except.bind]
    | some named =>
      simp only [Except.bind, Option.elim_some]
      constructor
      · intro h
        cases hread : recordsFor inputs named with
        | error e =>
          rw [hread] at h
          cases h
        | ok records =>
          rw [hread] at h
          cases h
          exact ⟨config, records, rfl, rfl, hread, rfl⟩
      · rintro ⟨_, _, hconfig, hnamed, hread, rfl⟩
        cases hconfig
        cases hnamed
        rw [hread]
        rfl

theorem recordsFor_eq_ok {records : List Record}
    (h : (recordsFor inputs entity).toOption.join = some records) :
    recordsFor inputs entity = .ok (some records) := by
  cases hread : recordsFor inputs entity with
  | error e => simp [hread, Except.toOption] at h
  | ok found => simpa [hread, Except.toOption] using h

/-- The records that a run starts with are those of its entity. -/
theorem entity_of_start (h : start inputs = .ok (desk, entity)) :
    ∀ records ∈ desk.records, ∀ r ∈ records, r.entity = entity := by
  obtain ⟨_, records, -, -, hrecords, rfl⟩ := start_eq_ok.mp h
  unfold recordsFor readRecords at hrecords
  split at hrecords
  · split at hrecords
    · cases hrecords
      simp
    · cases hrecords
  · cases hrecords
    simp

/-- A run for another entity starts with the same settings and the same data. -/
theorem start_with_entity (h : start inputs = .ok (desk, entity)) (current : Entity) :
    start { inputs with entity := current.name } = .ok (desk.retag current, current) := by
  obtain ⟨config, records, hconfig, -, hrecords, rfl⟩ := start_eq_ok.mp h
  refine start_eq_ok.mpr ⟨config, records.map (List.map (Record.retag current)), hconfig,
    current.ofName?_name, ?_, rfl⟩
  unfold recordsFor readRecords at hrecords ⊢
  split at hrecords
  · next text htext =>
    simp only [htext]
    split at hrecords
    · cases hrecords
      simp [Except.map, Record.retag]
    · cases hrecords
  · next hnone =>
    cases hrecords
    simp only [hnone, Option.map_none]

theorem start_of_usual {records : Option (List Record)}
    (hconfig : inputs.config = none) (hdebug : inputs.debug = false)
    (hname : Entity.ofName? inputs.entity = some entity)
    (hrecords : recordsFor inputs entity = .ok records) :
    start inputs = .ok (⟨.usual, records⟩, entity) := by
  refine start_eq_ok.mpr ⟨.usual, records, ?_, hname, hrecords, ?_⟩
  · simp only [settings, hconfig]
  · simp only [hdebug, Bool.or_false]

end CommandLine

namespace Session

open Desk
open CommandLine (Inputs start runLines runQuery recordsFor recordsFor_eq_ok start_of_usual
  start_with_entity entity_of_start)

/-- The entity in force after some lines: the last one that was set, or the first. There is none
once the session has ended. -/
def entityAfter (entity : Entity) : List String → Option Entity
  | [] => some entity
  | text :: rest =>
    match Command.ofLine text with
    | .quit => none
    | .entity name => entityAfter ((Entity.ofName? name).getD entity) rest
    | _ => entityAfter entity rest

variable {desk : Desk} {now : Int} {entity current : Entity}

/-- One line changes the entity only as its command says. -/
theorem step_entity [Regex.Library] (desk : Desk) (now : Int) (entity : Entity) (text : String) :
    (step desk now entity text).2 = entityAfter entity [text] := by
  unfold step entityAfter
  cases Command.ofLine text with
  | entity name => cases h : Entity.ofName? name <;> simp [h, entityAfter]
  | _ => rfl

theorem entityAfter_cons (text : String) (rest : List String) :
    entityAfter entity (text :: rest) = (entityAfter entity [text]).bind (entityAfter · rest) := by
  simp only [entityAfter]
  cases Command.ofLine text <;> rfl

/-- The lines after some others are answered for the entity then in force. -/
theorem run_append [Regex.Library] (desk : Desk) (now : Int) {before : List String}
    (after : List String) (h : entityAfter entity before = some current) :
    run desk now entity (before ++ after) =
      run desk now entity before ++ run desk now current after := by
  induction before generalizing entity with
  | nil =>
    cases h
    simp [run]
  | cons text rest ih =>
    rw [entityAfter_cons] at h
    obtain ⟨next, hnext, hrest⟩ := Option.bind_eq_some_iff.mp h
    have hstep := step_entity desk now entity text
    rw [hnext] at hstep
    simp only [List.cons_append, run]
    generalize step desk now entity text = printed at hstep
    obtain ⟨printed, _⟩ := printed
    cases hstep
    simp only [ih hrest, String.append_assoc]

theorem run_query [Regex.Library] {line query : String} {after : List String}
    (h : Command.ofLine line = .query query) :
    run desk now current (line :: after) =
      (desk.answerQuery current now query).text ++ run desk now current after := by
  simp only [run, step, h]

theorem eq_trim_of_ofLine {line query : String} (h : Command.ofLine line = .query query) :
    query = Text.trim line := by
  unfold Command.ofLine at h
  simp only at h
  repeat' split at h
  all_goals cases h
  rfl

/-- A run over the given file of records that begins with alarms. -/
def overAlarms (records : String) : Inputs :=
  ⟨none, "alarms", some records, false⟩

/-- One record with a protocol, which flows and alarms declare in the same place. -/
def tcpRecord : String := "[\x7b\"protocol\": \"tcp\"\x7d]"

/-- One record with an address where alarms have it, and one where flows have it. -/
def addressRecords : String :=
  "[\x7b\"device\": \x7b\"ip\": \"10.0.0.1\"\x7d\x7d, " ++
    "\x7b\"source\": \x7b\"ip\": \"10.0.0.1\"\x7d\x7d]"

theorem start_overAlarms {file : String} {records : List Record}
    (h : recordsFor (overAlarms file) .alarms = .ok (some records)) :
    start (overAlarms file) = .ok (⟨.usual, some records⟩, .alarms) :=
  start_of_usual rfl rfl (Entity.ofName?_name .alarms) h

theorem entityAfter_flows : entityAfter .alarms [":entity flows"] = some .flows := by
  decide +kernel

theorem run_flows [Regex.Library] (desk : Desk) (now : Int) :
    run desk now .alarms [":entity flows"] = entityText .flows := by
  have h : Command.ofLine ":entity flows" = .entity "flows" := by decide +kernel
  have hflows : Entity.ofName? "flows" = some .flows := by decide +kernel
  simp only [run, step, h, hflows, String.append_empty]

/-- A query line without relative times prints what a run of its own for the entity in force
prints, where every record reads the same in the fields of the query whether it is taken as one of
the entity that the session began with or as one of the entity in force. -/
theorem answers_like_own_run [Regex.Library] {inputs : Inputs} {before after : List String}
    {line query : String} (now' : Int) (hstart : start inputs = .ok (desk, entity))
    (hbefore : entityAfter entity before = some current)
    (hline : Command.ofLine line = .query query)
    (hclock : ∀ q ∈ Compilation.query? ⟨desk.config, .usual, current, now⟩ query,
      q.readsClock current = false)
    (hsame : ∀ q ∈ Compilation.query? ⟨desk.config, .usual, current, now⟩ query,
      ∀ records ∈ desk.records, ∀ r ∈ records, q.ReadsAlike r (r.retag current)) :
    ∃ answer : Answer,
      runLines inputs now (before ++ line :: after) =
        ⟨banner ++ run desk now entity before ++ answer.text ++ run desk now current after, true⟩ ∧
      runQuery { inputs with entity := current.name } now' query =
        ⟨answer.text, answer.isValid⟩ ∧
      query = Text.trim line := by
  refine ⟨desk.answerQuery current now query, ?_, ?_, eq_trim_of_ofLine hline⟩
  · simp only [runLines, hstart, run_append _ _ _ hbefore, run_query hline,
      String.append_assoc]
  · simp only [runQuery, start_with_entity hstart,
      answerQuery_retag now' hclock hsame]

theorem answers_like_own_run_of_shared_field : ∃ answer : Answer,
    runLines (overAlarms tcpRecord) 0 [":entity flows", "protocol:tcp"] =
      ⟨banner ++ entityText .flows ++ answer.text, true⟩ ∧
    runQuery { overAlarms tcpRecord with entity := "flows" } 60 "protocol:tcp" =
      ⟨answer.text, answer.isValid⟩ := by
  have hread : (recordsFor (overAlarms tcpRecord) .alarms).toOption.join.isSome = true := by
    decide +kernel
  obtain ⟨records, hrecords⟩ := Option.isSome_iff_exists.mp hread
  have hstart := start_overAlarms (recordsFor_eq_ok hrecords)
  have hquery : Compilation.query? ⟨.usual, .usual, .flows, 0⟩ "protocol:tcp" =
      some (.field "protocol" (.text "tcp") none) := by decide +kernel
  have hline : Command.ofLine "protocol:tcp" = .query "protocol:tcp" := by decide +kernel
  obtain ⟨answer, hrun, hown, -⟩ := @answers_like_own_run _ 0 _ _ _ _ _ [] _ _ 60 hstart
    entityAfter_flows hline
    (fun q hq => by
      cases hquery.symm.trans hq
      decide +kernel)
    (fun q hq records' hrecords' r hr name hname => by
      cases hquery.symm.trans hq
      have hentity : r.entity = .alarms := entity_of_start hstart records' hrecords' r hr
      obtain rfl : name = "protocol" := by
        simpa [Query.fieldNames, Query.leaves, Query.fieldName?] using hname
      refine (Record.get?_retag ?_).symm
      rw [hentity]
      decide +kernel)
  refine ⟨answer, ?_, hown⟩
  rw [run_flows] at hrun
  simpa only [List.singleton_append, run, String.append_empty] using hrun

/-- Records of alarms keep the places that alarms have for their fields when a session turns to
flows, so it keeps other records than a run of its own. -/
theorem answers_unlike_own_run_of_addresses :
    (runLines (overAlarms addressRecords) 0 [":entity flows", "source_ip:10.0.0.1"]).text ≠
      banner ++ entityText .flows ++
        (runQuery { overAlarms addressRecords with entity := Entity.flows.name } 0
          "source_ip:10.0.0.1").text := by
  have hread : (recordsFor (overAlarms addressRecords) .alarms).toOption.join.any (fun records =>
      let c := Compilation.ofText ⟨.usual, .usual, .flows, 0⟩ "source_ip:10.0.0.1"
      c.isValid && siftedText c records != siftedText c (records.map (Record.retag .flows))) =
        true := by
    decide +kernel
  obtain ⟨records, hrecords, hsifted⟩ := (Option.any_eq_true ..).mp hread
  simp only [Bool.and_eq_true, bne_iff_ne] at hsifted
  have hstart := start_overAlarms (recordsFor_eq_ok hrecords)
  have hline : Command.ofLine "source_ip:10.0.0.1" = .query "source_ip:10.0.0.1" := by
    decide +kernel
  have hrun := run_append ⟨.usual, some records⟩ 0 ["source_ip:10.0.0.1"] entityAfter_flows
  have hown := start_with_entity hstart .flows
  rw [List.singleton_append, run_flows, run_query hline] at hrun
  intro heq
  refine hsifted.2 (siftedText_eq_of_answerQuery ⟨.usual, some records⟩ rfl hsifted.1 ?_)
  simp only [runLines, hstart, hrun] at heq
  simp only [runQuery, hown, run, String.append_empty, String.append_assoc,
    String.append_right_inj] at heq
  exact heq

end Session

end NetQuery
