import Troop.Orchestration.ToolCalls

namespace Troop.Orchestration

open Tools

section Partition

def parallelGroupId (call : Dict Json) : Option String :=
  match if call.get "parallel_group_id" = .null then call.get "parallel_group" else call.get "parallel_group_id" with
  | .null => none
  | raw => if Text.strip raw.pyStr = "" then none else some (Text.strip raw.pyStr)

abbrev Item := Nat × Dict Json

inductive Batch where
  | serial (item : Item)
  | parallel (items : List Item)
deriving DecidableEq

def Batch.items : Batch → List Item
  | serial item => [item]
  | parallel items => items

def parallelGroupEligible (calls : List (Dict Json)) : Bool :=
  match calls.head?.bind parallelGroupId with
  | none => false
  | some group => 2 ≤ calls.length ∧ calls.all fun call =>
      parallelGroupId call = some group ∧ toolCallParallelEligible (toolNameOf call) ∧
        ((call.get "approval_granted").truthy ∨ ¬ (call.get "requires_approval").truthy)

def groupNeighbours : List Item → List (List Item)
  | [] => []
  | item :: rest =>
    match parallelGroupId item.2, groupNeighbours rest with
    | some group, (next :: more) :: groups =>
      if parallelGroupId next.2 = some group then (item :: next :: more) :: groups
      else [item] :: (next :: more) :: groups
    | _, groups => [item] :: groups

def batchesOf (grouped : List Item) : List Batch :=
  if 1 < grouped.length ∧ parallelGroupEligible (grouped.map Prod.snd) then [.parallel grouped]
  else grouped.map .serial

def enumerated (calls : List (Dict Json)) : List Item := calls.zipIdx.map Prod.swap

def partitionToolCalls (calls : List (Dict Json)) : List Batch :=
  (groupNeighbours (enumerated calls)).flatMap batchesOf

end Partition

section Reads

variable (svc : Services) (s : Setting)

def isolated {α : Type} (program : Work α) : Work α := fun w =>
  let ran := program.exec { w with approvals := w.committed }
  (ran.1, { w with log := ran.2.log })

def readResult (call : Dict Json) : Except Stop Json → Except Stop (Dict Json)
  | .ok result => .ok (completed (toolNameOf call) result)
  | .error (.toolError message) => .ok (failed (toolNameOf call) message)
  | .error stop => .error stop

def executeToolCallIsolatedRead (call : Dict Json) : Work (Dict Json) := do
  let result ← isolated (attempt (toolboxExecute svc s call))
  Prog.ofExcept (readResult call result)

/-- `_execute_parallel_call`, whose checks read the name as it is given -/
def executeParallelCall (call : Dict Json) : Work (Dict Json) := do
  let toolName := (call.get "tool").strOrEmpty
  refuse (agentPermissionError toolName s.agent)
  refuse (allowedToolsError s.allowed toolName)
  refuse (secretScopeError s.project.secretScope toolName)
  executeToolCallIsolatedRead svc s call

def recordParallelToolResult (failures : Nat) (payload : Dict Json) : Work Nat := do
  if payload.get "status" = .str "failed" then
    let (_, failures) ← countFailure svc s failures (payload.get "tool").strOrEmpty (payload.get "error").strOrEmpty
    return failures
  else return failures

def toolCallingAllowed (agent : Option AgentProfile) : Bool :=
  match agent with
  | none => true
  | some agent =>
    if (Dict.get? agent.modelPolicyJson "tool_calling").isSome then (agent.modelPolicyJson.get "tool_calling").truthy
    else if (Dict.get? agent.modelPolicyJson "tool_calling_enabled").isSome then
      (agent.modelPolicyJson.get "tool_calling_enabled").truthy
    else true

end Reads

abbrev CallId := Nat × Nat

structure Ledger where
  desk : Desk
  left : Option Nat
  executed : List CallId
  completed : List CallId
deriving DecidableEq

abbrev Rounding := Prog Ledger Stop

def Event.isDispatch : Event → Bool
  | dispatched _ _ _ => true
  | _ => false

def reaches (before after : Desk) : Bool := (after.log.take (after.log.length - before.log.length)).any Event.isDispatch

def recorded {α : Type} (id : CallId) (payload : α → Dict Json) (program : Work α) : Rounding α := fun ledger =>
  let ran := program.exec ledger.desk
  let executed := if reaches ledger.desk ran.2 then id :: ledger.executed else ledger.executed
  match ran.1 with
  | .ok value =>
    let done := (payload value).get "status" = .str "completed"
    (.ok value, { ledger with desk := ran.2, executed, completed := if done then id :: ledger.completed else ledger.completed })
  | .error stop => (.error stop, { ledger with desk := ran.2, executed })

def aside {α : Type} (program : Work α) : Rounding α := fun ledger =>
  let ran := program.exec ledger.desk
  (ran.1, { ledger with desk := ran.2 })

def goOn : Rounding PUnit := fun ledger =>
  match ledger.left with
  | some 0 => (.error (.raised "interrupted"), ledger)
  | left => (.ok ⟨⟩, { ledger with left := left.map Nat.pred })

/-- `return_exceptions=True` -/
def gathered {α : Type} (program : Rounding α) : Rounding (Except Stop α) :=
  Prog.catching (do return .ok (← program)) fun stop => return .error stop

section Calls

variable (svc : Services) (branch : Nat) (s : Setting)

def runParallelGroup : List Item → Rounding (List (Except Stop (Dict Json)))
  | [] => return []
  | item :: rest => do
    let result ← gathered (recorded (branch, item.1) id (executeParallelCall svc s item.2))
    let results ← runParallelGroup rest
    return result :: results

def raiseFirst : List (Except Stop (Dict Json)) → Rounding (List (Dict Json))
  | [] => return []
  | result :: rest => do
    let payload ← Prog.ofExcept result
    let payloads ← raiseFirst rest
    return payload :: payloads

def recordResults : Nat → List (Dict Json) → Rounding Nat
  | failures, [] => return failures
  | failures, payload :: rest => do
    let failures ← aside (recordParallelToolResult svc s failures payload)
    recordResults failures rest

def executeBatch (failures : Nat) : Batch → Rounding (List (Dict Json) × Nat)
  | .serial item => do
    let (payload, failures) ← recorded (branch, item.1) Prod.fst (executeOneToolCall svc s (item.1 + 1) item.2 failures)
    return ([payload], failures)
  | .parallel items => do
    let results ← runParallelGroup svc branch s items
    let payloads ← raiseFirst results
    let failures ← recordResults svc s failures payloads
    return (payloads, failures)

def executeBatches : Nat → List Batch → Rounding (List (Dict Json))
  | _, [] => return []
  | failures, batch :: rest => do
    goOn
    let (payloads, failures) ← executeBatch svc branch s failures batch
    let later ← executeBatches failures rest
    return payloads ++ later

def skipped (call : Dict Json) : Dict Json :=
  [("tool", .str (call.get "tool").strOrEmpty), ("status", .str "skipped"),
    ("error", .str "Tool calling disabled by agent model policy.")]

def executeToolCalls (calls : List (Dict Json)) : Rounding (List (Dict Json)) :=
  if toolCallingAllowed s.agent then executeBatches svc branch s 0 (partitionToolCalls calls)
  else return calls.map skipped

end Calls

structure Branch where
  setting : Setting
  calls : List (Dict Json)
deriving DecidableEq

def executeBranches (svc : Services) : List (Nat × Branch) → Rounding PUnit
  | [] => goOn
  | (number, branch) :: rest => do
    goOn
    let _ ← executeToolCalls svc number branch.setting branch.calls
    executeBranches svc rest

end Troop.Orchestration
