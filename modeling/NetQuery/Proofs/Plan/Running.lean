import NetQuery.Proofs.Plan.Merge

namespace NetQuery

/-- The reports follow on each other: the first stage is given `input` records and every other one
what the stage before it kept, and the last one keeps `output`. -/
def FollowOn (input output : Nat) : List StageTrace → Prop
  | [] => input = output
  | report :: rest => report.input = input ∧ FollowOn report.output output rest

/-- More stages sift what the stages before them keep, and report behind them. -/
theorem runStages_append (stages more : List Stage) (records : List Record) :
    runStages (stages ++ more) records =
      ((runStages more (runStages stages records).1).1,
        (runStages stages records).2 ++ (runStages more (runStages stages records).1).2) := by
  induction stages generalizing records with
  | nil => rfl
  | cons stage rest ih =>
    rw [List.cons_append, runStages, runStages, ih]
    rfl

theorem followOn_runStages (stages : List Stage) (records : List Record) :
    FollowOn records.length (runStages stages records).1.length (runStages stages records).2 := by
  induction stages generalizing records with
  | nil => rfl
  | cons stage rest ih => exact ⟨rfl, ih (records.filter stage.accepts)⟩

theorem map_stage_runStages (stages : List Stage) (records : List Record) :
    (runStages stages records).2.map StageTrace.stage = stages.map Stage.name := by
  induction stages generalizing records with
  | nil => rfl
  | cons stage rest ih => exact congrArg (stage.name :: ·) (ih (records.filter stage.accepts))

namespace Plan

/-- To run a merge is to run its parts one after the other. -/
theorem run_merge (a b : Plan) (records : List Record) :
    (a.merge b).run records =
      ((b.run (a.run records).1).1, (a.run records).2 ++ (b.run (a.run records).1).2) := by
  unfold run
  rw [stageList_merge, runStages_append]

/-- Merging is associative with the plan that asks for everything as its unit, and it is running in
turn: the second part sifts what the first one keeps, and its reports come behind those of the
first. A run keeps the records that pass every stage, in their order, and every stage reports that
it was given what the stage before it kept. -/
theorem merge_monoid_runs_in_turn (a b c : Plan) :
    (a.merge b).merge c = a.merge (b.merge c) ∧ empty.merge a = a ∧ a.merge empty = a ∧
      ∀ records,
        (a.merge b).run records =
          ((b.run (a.run records).1).1, (a.run records).2 ++ (b.run (a.run records).1).2) ∧
        (a.run records).1 = records.filter (fun r => a.stageList.all (·.accepts r)) ∧
        (a.run records).2.map StageTrace.stage = a.stageList.map Stage.name ∧
        FollowOn records.length (a.run records).1.length (a.run records).2 := by
  refine ⟨merge_assoc a b c, empty_merge a, merge_empty a, ?_⟩
  intro records
  refine ⟨run_merge a b records, run_kept a records, ?_, ?_⟩
  · exact map_stage_runStages a.stageList records
  · exact followOn_runStages a.stageList records

end Plan

end NetQuery
