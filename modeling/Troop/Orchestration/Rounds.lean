import Troop.Orchestration.Batches
import Troop.Systems.Runs

namespace Troop.Orchestration

open Tools
open Systems (Reaches)

def place? (item : Item) : Option (String × Nat) :=
  if toolRequiresHitlExecutionGrant (toolNameOf item.2) then some (toolNameOf item.2, item.1 + 1) else none

structure Plan where
  run : TaskRun
  branches : List Branch
  same : ∀ branch ∈ branches, branch.setting.run = run

namespace Plan

variable (plan : Plan)

def branch? (number : Nat) : Option (Nat × Branch) := plan.branches[number]?.map fun branch => (number, branch)

def gated : List (String × Nat) := plan.branches.flatMap fun branch => (enumerated branch.calls).filterMap place?

end Plan

def isOwn (run : TaskRun) (row : ApprovalRequest) : Bool :=
  row.approvalType = "dangerous_tool_call" ∧ row.runId = some run.id

def Desk.own (w : Desk) (run : TaskRun) : List ApprovalRequest := w.approvals.filter (isOwn run)

def Desk.pending? (w : Desk) (run : TaskRun) : Option ApprovalRequest :=
  (w.own run).find? fun row => row.status = .pending

/-- The rounds of a plan: its desk, whether the results are stored, the calls that completed in an earlier round and
    those executed again after that, how many approvals were given, and whether a round asked for one more than the plan
    has calls that need one. -/
structure Rounds where
  desk : Desk
  stored : Bool
  earlier : List CallId
  again : List CallId
  approvals : Nat
  overdue : Bool
deriving DecidableEq

namespace Rounds

inductive Action where
  /-- A worker executes the branches in this order, and may be interrupted. -/
  | round (order : List Nat) (interrupted : Option Nat)
  | decide (approve : Bool) (user : String)
  /-- Other code writes approvals that are not those of the run's calls. -/
  | elsewhere (rows : List ApprovalRequest)

variable (svc : Services) (plan : Plan) (w : Rounds)

def execute (order : List Nat) (interrupted : Option Nat) : Except Stop PUnit × Ledger :=
  (executeBranches svc (order.filterMap plan.branch?)).exec ⟨w.desk, interrupted, [], []⟩

def afterRound (ran : Except Stop PUnit × Ledger) : Rounds where
  desk := ran.2.desk
  stored := ran.1.toBool
  earlier := ran.2.completed ++ w.earlier
  again := (ran.2.executed.filter fun call => call ∈ w.earlier) ++ w.again
  approvals := w.approvals
  overdue := w.overdue || ((ran.2.desk.pending? plan.run).isSome && plan.gated.length ≤ w.approvals)

def decided (approve : Bool) (user : String) (row : ApprovalRequest) : ApprovalRequest :=
  if isOwn plan.run row ∧ row.status = .pending then
    { row with status := if approve then .approved else .rejected, approvedByUserId := some user }
  else row

/-- A round starts when the run waits for no approval; once the results are stored, it calls no tools. -/
def step : Action → Option Rounds
  | .round order interrupted =>
    if (w.desk.pending? plan.run).isNone ∧ order.Nodup then
      some (if w.stored then w else w.afterRound plan (w.execute svc plan order interrupted))
    else none
  | .decide approve user =>
    if (w.desk.pending? plan.run).isSome then
      some { w with
        desk := { w.desk with
          approvals := w.desk.approvals.map (decided plan approve user)
          committed := w.desk.committed.map (decided plan approve user) }
        approvals := if approve then w.approvals + 1 else w.approvals }
    else none
  | .elsewhere rows =>
    if rows.filter (isOwn plan.run) = w.desk.own plan.run then some { w with desk := { w.desk with approvals := rows } } else none

/-- No call is executed again in a later round, and no more approvals are asked for than the plan has calls that need
    one. -/
def CalledOnce : Prop := w.again = [] ∧ w.overdue = false

def Fresh : Action → Prop
  | .round _ _ => w.stored = true ∨ (w.earlier = [] ∧ ∀ event ∈ w.desk.log, ∀ approval arguments, event ≠ .granted approval arguments)
  | _ => True

end Rounds

def Rounds.initial (rows : List ApprovalRequest) : Rounds where
  desk := { approvals := rows, committed := rows }
  stored := false
  earlier := []
  again := []
  approvals := 0
  overdue := false

structure Unasked (svc : Services) (toolName : String) : Prop where
  policy : ∀ owner context authorization, svc.authorizeTool owner toolName context = .ok authorization →
    authorization.decision ≠ .str "approval_required"
  tool : ∀ arguments context result, svc.runTool toolName arguments context = .ok result →
    (result.get "status").strOrEmpty ≠ "approval_required"

/-- At most one call of the plan needs an approval, and for no other reason than that its tool is dangerous. -/
structure Plan.Simple (svc : Services) (plan : Plan) : Prop where
  unasked : ∀ branch ∈ plan.branches, ∀ call ∈ branch.calls, Unasked svc (toolNameOf call)
  single : plan.gated.length ≤ 1

end Troop.Orchestration
