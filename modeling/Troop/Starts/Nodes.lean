import Troop.Starts.Selection
import Troop.Workflow.Children

namespace Troop.Starts

open Workflow (WorkflowRun Track)

def configuredInput (config : Dict Json) : Except PyError (Dict Json) :=
  ((config.get "input").pyOr (config.get "input_payload")).toDict

def namedInput (run : WorkflowRun) (track : Track) (vars given : Dict Json) : Dict Json :=
  given.update [("workflow_run_id", .str run.id), ("workflow_node_id", .str track.nodeId),
    ("workflow_context", .obj vars)]

def nodeInput (run : WorkflowRun) (track : Track) (vars given : Dict Json) : Dict Json :=
  match track.branchKey with
  | some key => (namedInput run track vars given).set "workflow_branch_key" (.str key)
  | none => namedInput run track vars given

def nodeRunMode (config : Dict Json) : String :=
  ((config.get "run_mode").pyOr (.str "single_agent")).pyStr

section Start

variable (services : Services) (db : Db) (project : OrchestratorProject) (task : OrchestratorTask)

/-- The TaskRun that `_execute_agent_node` starts for a node with this config. -/
def startNodeRun (run : WorkflowRun) (track : Track) (config vars : Dict Json) : Except PyError TaskRun := do
  let given ← configuredInput config
  taskRunStarterStart services db project task (.str (config.get "agent_id").pyStr)
    (config.get "orchestrator_agent_id") (nodeRunMode config) (nodeInput run track vars given)

end Start

structure PromptResult where
  outputText : String
  outputJson : Json

inductive ModeOutput where
  | singleAgent (plan toolResults : Json)
  | managerWorker (managerPlan branches reviewState : Json) (githubActionState : Option Json)
  | debate (statements : Json)

def summary (text : String) : Json := .str (String.ofList (text.toList.take 1200))

/-- `output_payload_json` of a completed run. -/
def outputPayload (result : PromptResult) : ModeOutput → Dict Json
  | .singleAgent plan toolResults =>
    [("plan", plan), ("tool_results", toolResults), ("summary", summary result.outputText),
      ("final_output", .str result.outputText), ("structured_output_json", result.outputJson)]
  | .managerWorker managerPlan branches reviewState githubActionState =>
    [("manager_plan", managerPlan), ("branches", branches), ("summary", summary result.outputText),
      ("final_output", .str result.outputText), ("review_state", reviewState)] ++
      (githubActionState.map fun state => ("github_action_state", state)).toList
  | .debate statements =>
    [("summary", summary result.outputText), ("final_output", .str result.outputText), ("debate_messages", statements)]

theorem outputPayload_unstructured (result : PromptResult) (mode : ModeOutput) :
    (outputPayload result mode).get "structured_output" = .null := by
  cases mode with
  | managerWorker managerPlan branches reviewState githubActionState => cases githubActionState <;> rfl
  | _ => rfl

end Troop.Starts
