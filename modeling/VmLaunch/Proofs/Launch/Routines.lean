import VmLaunch.Proofs.Launch.Insertion
import VmLaunch.Proofs.Launch.Lookups
import VmLaunch.Proofs.Routine

/-!
# The routines of a run

What a run does before its firewall rules and after them, action by action.
-/

namespace VmLaunch

/-- End with an error when a signal has fired. -/
def Routine.heed (signal : Signal) (cause : LaunchError) : Routine Unit := do
  if ← Routine.look signal.fired then Routine.ofExcept (.error cause) else return ()

/-- To run the routine that heeds a signal is to end where it has fired. -/
@[simp]
theorem Routine.run_heed (env : Environment) (signal : Signal) (cause : LaunchError) :
    (Routine.heed signal cause).run env =
      do if ← Work.read signal.fired then Work.fail cause else return () := by
  unfold heed
  rw [run_bind, run_look]
  congr 1
  funext fired
  cases fired <;> rfl

/-- The routine of rounds of waiting. -/
def Polling.roundsRoutine (polling : Polling) (scope : Scope) (operation : String)
    (signal : Signal) (deadline : Nat) : Nat → Routine Operation
  | 0 => .ended .unfinished
  | rounds + 1 => do
    Routine.heed signal (.cancelled (.waiting operation))
    Routine.sleep polling.interval
    Routine.heed signal (.cancelled (.waiting operation))
    if deadline < (← Routine.look World.now) then
      Routine.ofExcept (.error (.operationTimeout operation))
    else
      let current ← Routine.ask (.get (Operation.path scope operation))
        (Operation.judge (.poll operation))
      match ← Routine.ofExcept current.check with
      | .done => return current
      | .pending => polling.roundsRoutine scope operation signal deadline rounds

/-- To run the routine of rounds is to do the rounds. -/
theorem Polling.run_roundsRoutine (env : Environment) (polling : Polling) (scope : Scope)
    (operation : String) (signal : Signal) (deadline rounds : Nat) :
    (polling.roundsRoutine scope operation signal deadline rounds).run env =
      Polling.rounds env polling scope operation signal deadline rounds := by
  induction rounds with
  | zero => rfl
  | succ rounds inductionHypothesis =>
    simp only [roundsRoutine, Polling.rounds, Polling.heed, Routine.run_bind, Routine.run_heed,
      Routine.run_sleep, Routine.run_look]
    refine bind_congr fun _ => bind_congr fun _ => bind_congr fun _ => bind_congr fun now => ?_
    split
    · rfl
    · simp only [Routine.run_bind, Routine.run_ask, Routine.run_ofExcept, Launch.poll_eq_ask]
      refine bind_congr fun current => bind_congr fun progress => ?_
      cases progress with
      | done => rfl
      | pending => exact inductionHypothesis

namespace Launch

/-- The routine of the lookups of a run. -/
def prepareRoutine (env : Environment) (spec : MachineSpec) : Routine Prepared := do
  Routine.ofExcept (spec.check.mapError LaunchError.invalid)
  let scope := spec.scope env.project
  let rules ← Routine.ofExcept (spec.rules.mapError LaunchError.invalid)
  let origin ← (originInquiry spec scope).routine
  let internal ← (internalInquiry spec scope).routine
  let external ← (externalInquiry spec scope).routine
  let network ← (ruleNetworkInquiry spec scope rules).routine
  return ⟨scope, rules, ⟨origin, ⟨internal, external⟩⟩, network⟩

/-- To run the routine of lookups is to prepare the run. -/
theorem run_prepareRoutine (env : Environment) (spec : MachineSpec) :
    (prepareRoutine env spec).run env = prepare env spec := by
  simp only [prepareRoutine, prepare, resolve, checkSpec, rulesOf, Routine.run_bind,
    Routine.run_ofExcept, Inquiry.run_routine, resolveOrigin_eq_perform,
    resolveInternal_eq_perform, resolveExternal_eq_perform, ruleNetwork_eq_perform,
    Work.bind_assoc]
  rfl

/-- The routine of a wait for an accepted insert. -/
def settleRoutine (env : Environment) (polling : Polling) (scope : Scope) (signal : Signal)
    (operation : Operation) : Routine Unit := do
  match ← Routine.ofExcept operation.check with
  | .done => return ()
  | .pending =>
    let deadline ← Routine.look fun world => polling.timeout.after world.now
    let _ ← polling.roundsRoutine scope operation.name signal deadline env.patience
    return ()

/-- To run the routine of a wait is to settle the insert. -/
theorem run_settleRoutine (env : Environment) (polling : Polling) (scope : Scope)
    (signal : Signal) (operation : Operation) :
    (settleRoutine env polling scope signal operation).run env =
      settle env polling scope signal operation := by
  unfold settleRoutine settle
  rw [Routine.run_bind, Routine.run_ofExcept]
  refine bind_congr fun progress => ?_
  cases progress with
  | done => rfl
  | pending =>
    simp only [Routine.run_bind, Routine.run_look, Routine.run_pure, Polling.run_roundsRoutine,
      Polling.wait, Work.bind_assoc]

/-- The routine of a run from its insert on. -/
def reportRoutine (env : Environment) (polling : Polling) (signal : Signal) (spec : MachineSpec)
    (scope : Scope) (request : InsertRequest) : Routine InstanceSummary := do
  Routine.heed signal (.cancelled (.beforeInsert spec.instanceName))
  let requestId ← Routine.look env.requestId
  let operation ← Routine.ask (.post (insertPath scope requestId) request.encode)
    (insertJudge request.name)
  settleRoutine env polling scope signal operation
  let body ← Routine.ask (.get (zoneParent scope.project scope.zone "instances" ++ "/" ++
    request.name)) fun answer => answer.mapError (LaunchError.unreadableInstance request.name)
  return InstanceSummary.project body scope.zone

/-- To run the routine from the insert on is to insert and report. -/
theorem run_reportRoutine (env : Environment) (polling : Polling) (signal : Signal)
    (spec : MachineSpec) (scope : Scope) (request : InsertRequest) :
    (reportRoutine env polling signal spec scope request).run env =
      insertAndReport env polling signal spec scope request := by
  simp only [reportRoutine, insertAndReport, heedBeforeInsert, insert_eq_ask, fetch_eq_ask,
    Routine.run_bind, Routine.run_heed, Routine.run_look, Routine.run_ask, Routine.run_pure,
    run_settleRoutine, Work.bind_assoc]

end Launch

end VmLaunch
