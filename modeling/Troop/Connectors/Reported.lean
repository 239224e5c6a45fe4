import Troop.Connectors.Asking

namespace Troop.Connectors

open Tools
open Except (map ok)

inductive Executor where
  | toolbox (toolName : String)
  | adapter (installationId toolSlug : String)
  | client (installationId toolSlug : String)
deriving DecidableEq

structure Report where
  answer : Dict Json
  ran : Option Executor := none
deriving DecidableEq

inductive Raised where
  | own (message : String) (retryable : Bool) (statusCode : Json)
  | other (error : PyError)

structure EcosystemInstallation where
  id : String
  ownerId : String
  status : String
  providerType : String
deriving DecidableEq

structure Executors where
  /-- the methods of the toolbox, with the context they are built from -/
  handler : String → Dict Json → Dict Json → Except Raised Json
  projectExists : String → Bool
  /-- `adapter.execute` with what is recorded of its output, by connector -/
  adapter : String → String → ConnectorInstallation → Dict Json → Except Raised Json
  servers : List EcosystemInstallation
  /-- `_client_for` and `call_tool`, all of whose errors are caught -/
  callTool : EcosystemInstallation → String → Dict Json → Except String Json
  /-- `_client_config` -/
  clientConfig : EcosystemInstallation → Except PyError (Dict Json)
  sendTask : EcosystemInstallation → Dict Json → String → Dict Json → Except String Json

def providerName (toolSlug : String) : String :=
  if Text.startsWith "mcp." toolSlug then "mcp"
  else if Text.startsWith "a2a." toolSlug then "a2a"
  else if Text.startsWith "github_" toolSlug then "github"
  else if isConnector toolSlug then "connector"
  else "native"

/-- `str(raw.get("status") or "succeeded")` -/
def rawStatus (raw : Dict Json) : String := ((raw.get "status").pyOr (.str "succeeded")).pyStr

def normalizedStatus (raw : Dict Json) : String :=
  if rawStatus raw = "delegated" ∧ raw.get "output" = .null then
    (if (raw.get? "error").isNone then "succeeded" else "failed")
  else rawStatus raw

def normalize (toolSlug : String) (raw : Dict Json) : Dict Json :=
  let status := normalizedStatus raw
  let without (keys : List String) : Dict Json := raw.filter fun entry => entry.1 ∉ keys
  let output := if raw.get "output" = .null ∧ status = "succeeded" then
      .obj (without ["status", "tool_slug", "evidence"]) else raw.get "output"
  let evidence := if raw.get "evidence" = .null then output.get "evidence" else raw.get "evidence"
  [("status", .str status), ("tool_slug", .str toolSlug), ("output", output), ("evidence", evidence)] ++
    without ["status", "tool_slug", "output", "evidence"]

def refusedAnswer (toolSlug : String) (authorization : Authorization) (outcome : Outcome) : Dict Json :=
  (match outcome with
    | .denied reason => [("status", .str "denied"), ("reason", .str reason)]
    | _ => [("status", .str "approval_required")]) ++
    [("permitted", .bool authorization.permitted), ("decision", authorization.decision),
      ("provider", .str (providerName toolSlug))]

section Providers

variable (tables : PolicyTables) (installations : Dict ConnectorInstallation) (executors : Executors)

def nativePolicy (toolSlug : String) (context : Dict Json) : Json :=
  let allowed := iterated (context.get "allowed_tools")
  if ¬ (context.get "owner_id").truthy ∨ (allowed ≠ [] ∧ Json.str toolSlug ∉ allowed) then
    context.get "_policy_resolution"
  else .obj (Tools.resolve tables (context.get "owner_id").pyStr toolSlug context)

/-- `NativeToolProvider.execute`, which is GitHub's as well: a gate, behind which nothing is executed. -/
def nativeExecute (toolSlug : String) (context : Dict Json) : Report where
  answer := [("status", .str (if nativeValidatePermissions tables toolSlug context then "delegated" else "denied")),
    ("tool_slug", .str toolSlug), ("policy", nativePolicy tables toolSlug context)]

def adapterFailed (connector message : String) (retryable : Bool) (statusCode : Json) : Dict Json :=
  [("status", .str "failed"), ("error", .str message)] ++
    (if connector = "telegram" then [] else [("retryable", .bool retryable)]) ++
    (if connector ∈ ["telegram", "slack", "teams"] then [] else [("provider_status_code", statusCode)])

def runAdapter (toolSlug installationId : String) (installation : ConnectorInstallation) (arguments : Dict Json) :
    Except PyError Report :=
  let connector := ((adapters.find? fun adapter => toolSlug ∈ adapter.2).map Prod.fst).getD "telegram"
  match executors.adapter connector toolSlug installation arguments with
  | .ok output => .ok ⟨[("status", .str "succeeded"), ("output", output)], some (.adapter installationId toolSlug)⟩
  | .error (.own message retryable statusCode) => .ok ⟨adapterFailed connector message retryable statusCode, none⟩
  | .error (.other error) => .error error

/-- `NativeConnectorToolProvider.execute` -/
def connectorReport (toolSlug : String) (params context : Dict Json) : Except PyError Report :=
  match connectorExecute installations toolSlug params context with
  | .ok (.called installationId installation arguments) =>
    runAdapter executors toolSlug installationId installation arguments
  | .ok (.denied reason) => .ok ⟨[("status", .str "denied"), ("reason", .str reason)], none⟩
  | .ok .approvalRequired => .ok ⟨[("status", .str "approval_required")], none⟩
  | .ok .delegated => .ok ⟨[("status", .str "delegated")], none⟩
  | .error error => .error error

/-- `_installations` of an ecosystem provider -/
def ecosystemInstallations (providerType ownerId : String) : List EcosystemInstallation :=
  executors.servers.filter fun server =>
    server.ownerId = ownerId ∧ server.status = "active" ∧ server.providerType = providerType

def ecosystemDenied (providerType toolSlug : String) (context : Dict Json) : Report where
  answer := [("status", .str "denied"), ("provider", .str providerType), ("tool_slug", .str toolSlug),
    ("policy", nativePolicy tables toolSlug context)]

def ecosystemError (providerType message : String) : Report where
  answer := [("status", .str "error"), ("provider", .str providerType), ("error", .str message)]

def clientReport (providerType toolSlug : String) (server : EcosystemInstallation) : Except String Json → Report
  | .ok result =>
    { answer := [("status", .str "completed"), ("provider", .str providerType), ("tool_slug", .str toolSlug),
        ("connector_installation_id", .str server.id), ("result", result)],
      ran := some (.client server.id toolSlug) }
  | .error message =>
    { answer := [("status", .str "failed"), ("provider", .str providerType), ("tool_slug", .str toolSlug),
        ("error", .str message)] }

/-- `MCPToolProvider.execute` -/
def mcpExecute (toolSlug : String) (params context : Dict Json) : Report :=
  if ¬ nativeValidatePermissions tables toolSlug context then ecosystemDenied tables "mcp" toolSlug context
  else
    let installed := ecosystemInstallations executors "mcp" (context.get "owner_id").strOrEmpty
    let wanted := (context.get "connector_installation_id").pyOr (params.get "_installation_id")
    let named := if wanted.truthy then installed.find? fun server => wanted = .str server.id else none
    match named.or installed.head? with
    | none => ecosystemError "mcp" "no active MCP connector"
    | some server => clientReport "mcp" toolSlug server (executors.callTool server toolSlug params)

/-- `A2AToolProvider.execute` -/
def a2aExecute (toolSlug : String) (params context : Dict Json) : Except PyError Report :=
  if ¬ nativeValidatePermissions tables toolSlug context then .ok (ecosystemDenied tables "a2a" toolSlug context)
  else
    let installed := ecosystemInstallations executors "a2a" (context.get "owner_id").strOrEmpty
    let wanted := (params.get "installation_id").pyOr (context.get "connector_installation_id")
    let named := if wanted.truthy then installed.find? fun server => wanted = .str server.id else none
    let prefixed := if toolSlug = "a2a.send_task" then none
      else installed.find? fun server => Text.startsWith (String.ofList (toolSlug.toList.drop 4)) server.id
    match (named.or prefixed).or installed.head? with
    | none => .ok (ecosystemError "a2a" "no active A2A connector")
    | some server =>
      (executors.clientConfig server).map fun config =>
        let baseUrl := Text.strip ((config.get "base_url").pyOr (config.get "url")).strOrEmpty
        let message := Text.strip ((params.get "message").pyOr (params.get "text")).strOrEmpty
        if baseUrl = "" then ecosystemError "a2a" "missing base_url"
        else if message = "" then ecosystemError "a2a" "message required"
        else clientReport "a2a" toolSlug server
          (executors.sendTask server config message ((params.get "context").asObj?.getD []))

/-- `provider_for(tool_slug).execute` -/
def providerReport (ownerId toolSlug : String) (params context : Dict Json) : Except PyError Report :=
  let owned := context.set "owner_id" (.str ownerId)
  if isConnector toolSlug then connectorReport installations executors toolSlug params owned
  else if Text.startsWith "github_" toolSlug then .ok (nativeExecute tables toolSlug owned)
  else if Text.startsWith "mcp." toolSlug then .ok (mcpExecute tables executors toolSlug params owned)
  else if Text.startsWith "a2a." toolSlug then a2aExecute tables executors toolSlug params owned
  else .ok (nativeExecute tables toolSlug owned)

/-- `ToolRegistryService.execute_tool` -/
def executeToolReport (ownerId toolSlug : String) (params context : Dict Json) : Except PyError Report := do
  let (authorization, context) ← authorizeTool (governance tables) installations ownerId toolSlug context
  match refusal authorization context with
  | some outcome => return ⟨refusedAnswer toolSlug authorization outcome, none⟩
  | none => providerReport tables installations executors ownerId toolSlug params context

def dispatch (toolName : String) (arguments context : Dict Json) : Except Raised (Json × Executor) :=
  let toolName := Text.strip toolName
  let failed (message : String) := Raised.own message false .null
  if toolName = "" then .error (failed "Tool call is missing a tool name")
  else if toolName ∈ nativeExecutable then
    (executors.handler toolName arguments context).map fun result => (result, .toolbox toolName)
  else if isEcosystem toolName then
    .error (.other (.raised "'ToolExecutionContext' object has no attribute 'checkpoint_json'"))
  else .error (failed ("Unsupported tool: " ++ toolName))

def executeViaToolbox (toolSlug : String) (params context : Dict Json) : Except PyError Report :=
  if ¬ executors.projectExists (context.get "project_id").strOrEmpty then
    .ok ⟨[("status", .str "failed"), ("error", .str "project not found for tool execution")], none⟩
  else match dispatch executors toolSlug params context with
    | .ok (result, executor) => .ok ⟨[("status", .str "succeeded"), ("output", result)], some executor⟩
    | .error (.own message _ _) =>
      .ok ⟨[("status", .str (if Text.startsWith "APPROVAL_REQUIRED" message then "approval_required" else "failed")),
        ("error", .str message)], none⟩
    | .error (.other error) => .error error

/-- What `ToolExecutionService.execute` has before it normalizes. -/
def rawExecute (ownerId toolSlug : String) (params context : Dict Json) : Except PyError Report := do
  let (authorization, authorized) ←
    authorizeTool (governance tables) installations ownerId toolSlug (authContext params context)
  match refusal authorization context with
  | some outcome => return ⟨refusedAnswer toolSlug authorization outcome, none⟩
  | none =>
    if (context.get "project_id").truthy ∧ toToolbox toolSlug then executeViaToolbox executors toolSlug params context
    else executeToolReport tables installations executors ownerId toolSlug params authorized

def execute (ownerId toolSlug : String) (params context : Dict Json) : Except PyError Report :=
  (rawExecute tables installations executors ownerId toolSlug params context).map fun report =>
    { report with answer := normalize toolSlug report.answer }

end Providers

def Report.Silent (report : Report) : Prop := normalizedStatus report.answer = "succeeded" ∧ report.ran = none

def SilentIn : Except PyError Report → Prop
  | .ok report => report.Silent
  | .error _ => False

@[simp] theorem silentIn_ok (report : Report) : SilentIn (.ok report) ↔ report.Silent := Iff.rfl

section Named

variable {name : String} {rest : Dict Json} {ran : Option Executor}

theorem rawStatus_named (present : name ≠ "") : rawStatus (("status", .str name) :: rest) = name := by
  simp [rawStatus, Dict.get, Dict.get?, Json.pyOr, Json.truthy, present, Json.pyStr]

theorem normalizedStatus_named (present : name ≠ "") (settled : name ≠ "delegated") :
    normalizedStatus (("status", .str name) :: rest) = name := by
  unfold normalizedStatus
  rw [rawStatus_named present, if_neg fun delegated => settled delegated.1]

theorem not_silent_of_named (present : name ≠ "") (settled : name ≠ "delegated") (other : name ≠ "succeeded") :
    ¬ Report.Silent ⟨("status", .str name) :: rest, ran⟩ := by
  intro silent
  apply other
  rw [← silent.1, normalizedStatus_named present settled]

theorem not_silent_of_ran (answer : Dict Json) (executor : Executor) : ¬ Report.Silent ⟨answer, some executor⟩ := by
  intro silent
  cases silent.2

end Named

section Routes

variable {tables : PolicyTables} {installations : Dict ConnectorInstallation} {executors : Executors}
  {ownerId toolSlug : String} {params context : Dict Json}

theorem refusedAnswer_not_silent (authorization : Authorization) (outcome : Outcome) :
    ¬ Report.Silent ⟨refusedAnswer toolSlug authorization outcome, none⟩ := by
  unfold refusedAnswer
  split <;> apply not_silent_of_named <;> decide

theorem nativeExecute_silent : (nativeExecute tables toolSlug context).Silent ↔
    nativeValidatePermissions tables toolSlug context = true := by
  unfold nativeExecute
  cases valid : nativeValidatePermissions tables toolSlug context with
  | true =>
    have delegated : normalizedStatus [("status", .str "delegated"), ("tool_slug", .str toolSlug),
        ("policy", nativePolicy tables toolSlug context)] = "succeeded" := by
      unfold normalizedStatus
      rw [rawStatus_named (by decide)]
      simp [Dict.get, Dict.get?]
    simp [Report.Silent, delegated]
  | false =>
    have denied := @not_silent_of_named "denied"
      [("tool_slug", .str toolSlug), ("policy", nativePolicy tables toolSlug context)] none
      (by decide) (by decide) (by decide)
    simpa using denied

theorem runAdapter_not_silent (installationId : String) (installation : ConnectorInstallation) (arguments : Dict Json) :
    ¬ SilentIn (runAdapter executors toolSlug installationId installation arguments) := by
  unfold runAdapter
  dsimp only
  split
  · exact not_silent_of_ran _ _
  · apply not_silent_of_named <;> decide
  · exact id

theorem connectorExecute_settles {outcome : Outcome}
    (executed : connectorExecute installations toolSlug params context = .ok outcome) :
    (∃ reason, outcome = .denied reason) ∨ ∃ installationId installation arguments,
      outcome = .called installationId installation arguments := by
  unfold connectorExecute at executed
  dsimp only at executed
  split at executed
  · exact .inl ⟨_, (ok.inj executed).symm⟩
  split at executed
  · rename_i adapter _
    cases authorized : forOwner installations (context.get "owner_id").pyStr
        ((mergedArguments params context).get "connector_installation_id").strOrEmpty adapter.1 with
    | error error => simp [authorized] at executed
    | ok installation =>
      rw [authorized] at executed
      exact .inr ⟨_, _, _, (ok.inj executed).symm⟩
  · split at executed
    · exact .inl ⟨_, (ok.inj executed).symm⟩
    · split at executed
      · exact .inl ⟨_, (ok.inj executed).symm⟩
      · exact .inr ⟨_, _, _, (ok.inj executed).symm⟩

theorem connectorReport_not_silent : ¬ SilentIn (connectorReport installations executors toolSlug params context) := by
  unfold connectorReport
  cases executed : connectorExecute installations toolSlug params context with
  | error error => exact id
  | ok outcome =>
    rcases connectorExecute_settles executed with ⟨reason, denied⟩ | ⟨installationId, installation, arguments, called⟩
    · rw [denied]
      apply not_silent_of_named <;> decide
    · rw [called]
      exact runAdapter_not_silent installationId installation arguments

theorem clientReport_not_silent (providerType : String) (server : EcosystemInstallation) (result : Except String Json) :
    ¬ (clientReport providerType toolSlug server result).Silent := by
  cases result with
  | ok value => exact not_silent_of_ran _ _
  | error message => apply not_silent_of_named <;> decide

theorem ecosystemDenied_not_silent (providerType : String) :
    ¬ (ecosystemDenied tables providerType toolSlug context).Silent := by
  apply not_silent_of_named <;> decide

theorem ecosystemError_not_silent (providerType message : String) : ¬ (ecosystemError providerType message).Silent := by
  apply not_silent_of_named <;> decide

theorem mcpExecute_not_silent : ¬ (mcpExecute tables executors toolSlug params context).Silent := by
  unfold mcpExecute
  split
  · exact ecosystemDenied_not_silent _
  · dsimp only
    split
    · exact ecosystemError_not_silent _ _
    · exact clientReport_not_silent _ _ _

theorem a2aExecute_not_silent : ¬ SilentIn (a2aExecute tables executors toolSlug params context) := by
  unfold a2aExecute
  split
  · exact ecosystemDenied_not_silent _
  dsimp only
  split
  · exact ecosystemError_not_silent _ _
  rename_i server _
  cases executors.clientConfig server with
  | error error => exact id
  | ok config =>
    dsimp only [map, SilentIn]
    split
    · exact ecosystemError_not_silent _ _
    · split
      · exact ecosystemError_not_silent _ _
      · exact clientReport_not_silent _ _ _

theorem executeViaToolbox_not_silent : ¬ SilentIn (executeViaToolbox executors toolSlug params context) := by
  unfold executeViaToolbox
  split
  · apply not_silent_of_named <;> decide
  · split
    · exact not_silent_of_ran _ _
    · apply not_silent_of_named <;> split <;> decide
    · exact id

theorem github_not_ecosystem (github : Text.startsWith "github_" toolSlug = true) : isEcosystem toolSlug = false := by
  obtain ⟨rest, same⟩ := List.isPrefixOf_iff_prefix.mp github
  unfold isEcosystem Text.startsWith
  rw [← same]
  simp [List.isPrefixOf]

theorem providerReport_silent :
    SilentIn (providerReport tables installations executors ownerId toolSlug params context) ↔
      isConnector toolSlug = false ∧ isEcosystem toolSlug = false ∧
        nativeValidatePermissions tables toolSlug (context.set "owner_id" (.str ownerId)) = true := by
  unfold providerReport
  split
  · rename_i connector
    simp [connector, connectorReport_not_silent]
  rename_i connector
  split
  · rename_i github
    simpa [connector, github_not_ecosystem github] using nativeExecute_silent
  split
  · rename_i mcp
    have ecosystem : isEcosystem toolSlug = true := by simp [isEcosystem, mcp]
    simpa [ecosystem] using mcpExecute_not_silent
  split
  · rename_i a2a
    have ecosystem : isEcosystem toolSlug = true := by simp [isEcosystem, a2a]
    simpa [ecosystem] using a2aExecute_not_silent
  · rename_i mcp a2a
    have native : isEcosystem toolSlug = false := by simp [isEcosystem, mcp, a2a]
    simpa [connector, native] using nativeExecute_silent

/-- The tool is authorized and handed to the gate of the native tools, where nobody executes it. -/
structure Delegated (tables : PolicyTables) (installations : Dict ConnectorInstallation) (ownerId toolSlug : String)
    (params context : Dict Json) : Prop where
  native : isConnector toolSlug = false ∧ isEcosystem toolSlug = false
  direct : ¬ ThroughToolbox toolSlug context
  valid : nativeValidatePermissions tables toolSlug ((authContext params context).set "owner_id" (.str ownerId)) = true
  authorized : ∃ resolution,
    policyResolution (governance tables) ownerId toolSlug (authContext params context) = .ok resolution ∧
      Permits (governance tables) installations ownerId toolSlug (authContext params context) resolution ∧
      ¬ (Asks (governance tables) toolSlug resolution ∧ (context.get "approval_granted").truthy = false)

variable {resolution : Dict Json}

theorem executeToolReport_passes (resolved : policyResolution (governance tables) ownerId toolSlug context = .ok resolution)
    (permitted : Permits (governance tables) installations ownerId toolSlug context resolution)
    (quiet : ¬ (Asks (governance tables) toolSlug resolution ∧ (context.get "approval_granted").truthy = false)) :
    executeToolReport tables installations executors ownerId toolSlug params context =
      providerReport tables installations executors ownerId toolSlug params context := by
  have answered := authorizeTool_passes resolved permitted quiet
  unfold executeToolReport
  rw [answered]
  simp only [bind, Except.bind]
  rw [refusal_passes permitted.2 quiet]

theorem rawExecute_unresolved {error : PyError}
    (failed : policyResolution (governance tables) ownerId toolSlug (authContext params context) = .error error) :
    rawExecute tables installations executors ownerId toolSlug params context = .error error := by
  unfold rawExecute authorizeTool
  rw [failed]
  rfl

theorem rawExecute_refused
    (resolved : policyResolution (governance tables) ownerId toolSlug (authContext params context) = .ok resolution)
    (refused : ¬ Permits (governance tables) installations ownerId toolSlug (authContext params context) resolution) :
    ¬ SilentIn (rawExecute tables installations executors ownerId toolSlug params context) := by
  obtain ⟨decision, after, answered⟩ := authorizeTool_refused resolved refused
  unfold rawExecute
  rw [answered]
  exact refusedAnswer_not_silent _ _

theorem rawExecute_asked
    (resolved : policyResolution (governance tables) ownerId toolSlug (authContext params context) = .ok resolution)
    (permitted : Permits (governance tables) installations ownerId toolSlug (authContext params context) resolution)
    (asks : Asks (governance tables) toolSlug resolution) (ungranted : (context.get "approval_granted").truthy = false) :
    ¬ SilentIn (rawExecute tables installations executors ownerId toolSlug params context) := by
  have flag : ((authContext params context).get "approval_granted").truthy = false := by
    rwa [authContext_get _ (by decide)]
  obtain ⟨after, answered⟩ := authorizeTool_asks resolved permitted asks flag
  unfold rawExecute
  rw [answered]
  simp only [bind, Except.bind]
  rw [refusal_asks ungranted]
  exact refusedAnswer_not_silent _ _

theorem rawExecute_passes
    (resolved : policyResolution (governance tables) ownerId toolSlug (authContext params context) = .ok resolution)
    (permitted : Permits (governance tables) installations ownerId toolSlug (authContext params context) resolution)
    (quiet : ¬ (Asks (governance tables) toolSlug resolution ∧ (context.get "approval_granted").truthy = false)) :
    rawExecute tables installations executors ownerId toolSlug params context =
      if (context.get "project_id").truthy = true ∧ toToolbox toolSlug = true then
        executeViaToolbox executors toolSlug params context
      else providerReport tables installations executors ownerId toolSlug params (authContext params context) := by
  have flag : (authContext params context).get "approval_granted" = context.get "approval_granted" :=
    authContext_get _ (by decide)
  have still : ¬ (Asks (governance tables) toolSlug resolution ∧
      ((authContext params context).get "approval_granted").truthy = false) := by rwa [flag]
  unfold rawExecute
  rw [authorizeTool_passes resolved permitted still]
  simp only [bind, Except.bind]
  rw [refusal_passes permitted.2 quiet]
  rw [executeToolReport_passes resolved permitted still]

theorem rawExecute_silent :
    SilentIn (rawExecute tables installations executors ownerId toolSlug params context) ↔
      Delegated tables installations ownerId toolSlug params context := by
  constructor
  · intro silent
    cases resolved : policyResolution (governance tables) ownerId toolSlug (authContext params context) with
    | error error =>
      rw [rawExecute_unresolved resolved] at silent
      cases silent
    | ok resolution =>
      by_cases permitted : Permits (governance tables) installations ownerId toolSlug (authContext params context)
        resolution
      · by_cases asks : Asks (governance tables) toolSlug resolution ∧ (context.get "approval_granted").truthy = false
        · exact absurd silent (rawExecute_asked resolved permitted asks.1 asks.2)
        rw [rawExecute_passes resolved permitted asks] at silent
        split at silent
        · exact absurd silent executeViaToolbox_not_silent
        · rename_i direct
          obtain ⟨connector, ecosystem, valid⟩ := providerReport_silent.mp silent
          exact ⟨⟨connector, ecosystem⟩, direct, valid, resolution, resolved, permitted, asks⟩
      · exact absurd silent (rawExecute_refused resolved permitted)
  · intro delegated
    obtain ⟨resolution, resolved, permitted, quiet⟩ := delegated.authorized
    have direct : ¬ ((context.get "project_id").truthy = true ∧ toToolbox toolSlug = true) := delegated.direct
    rw [rawExecute_passes resolved permitted quiet, if_neg direct]
    exact providerReport_silent.mpr ⟨delegated.native.1, delegated.native.2, delegated.valid⟩

def NoSilentSuccess (tables : PolicyTables) (installations : Dict ConnectorInstallation) (executors : Executors)
    (ownerId toolSlug : String) (params context : Dict Json) : Prop :=
  ∀ report, execute tables installations executors ownerId toolSlug params context = .ok report →
    report.answer.get "status" = .str "succeeded" → report.ran ≠ none

theorem normalize_status (raw : Dict Json) : (normalize toolSlug raw).get "status" = .str (normalizedStatus raw) := rfl

/-- A success is silent exactly where a tool outside the toolbox passes the native gate. -/
theorem noSilentSuccess_iff : NoSilentSuccess tables installations executors ownerId toolSlug params context ↔
    ¬ Delegated tables installations ownerId toolSlug params context := by
  rw [← rawExecute_silent]
  unfold NoSilentSuccess execute
  cases raw : rawExecute tables installations executors ownerId toolSlug params context with
  | error error => simp [map, SilentIn]
  | ok report =>
    constructor
    · intro loud silent
      apply loud { report with answer := normalize toolSlug report.answer } rfl
      · rw [normalize_status, silent.1]
      · exact silent.2
    · intro loud answered same succeeded ran
      have same : { report with answer := normalize toolSlug report.answer } = answered := ok.inj same
      subst same
      exact loud ⟨Json.str.inj succeeded, ran⟩

end Routes

def obligingExecutors : Executors where
  handler := fun _ _ _ => .ok (.obj [])
  projectExists := fun _ => true
  adapter := fun _ _ _ _ => .ok (.obj [])
  servers := []
  callTool := fun _ _ _ => .ok (.obj [])
  clientConfig := fun _ => .ok []
  sendTask := fun _ _ _ _ => .ok (.obj [])

def jiraInstallation : Dict ConnectorInstallation := [("jira-1", ⟨"owner-1", none, "active", "jira", "cloud-1"⟩)]

theorem issue_created_by_nobody :
    ¬ NoSilentSuccess { tools := [⟨"tool-1", "jira.create_issue", true⟩] } jiraInstallation obligingExecutors
      "owner-1" "jira.create_issue" [("summary", .str "Broken"), ("connector_installation_id", .str "jira-1")]
      [("owner_id", .str "owner-1"), ("approval_granted", .bool true)] := by
  intro loud
  have reported : ∃ report, execute { tools := [⟨"tool-1", "jira.create_issue", true⟩] } jiraInstallation
      obligingExecutors "owner-1" "jira.create_issue"
      [("summary", .str "Broken"), ("connector_installation_id", .str "jira-1")]
      [("owner_id", .str "owner-1"), ("approval_granted", .bool true)] = .ok report ∧
      report.answer.get "status" = .str "succeeded" ∧ report.ran = none := by
    refine ⟨_, rfl, ?_, ?_⟩ <;> decide +kernel
  obtain ⟨report, executed, succeeded, ran⟩ := reported
  exact loud report executed succeeded ran

end Troop.Connectors
