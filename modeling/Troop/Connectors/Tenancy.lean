import Troop.Connectors.Provider

namespace Troop.Connectors

open Except (ok)

variable {policies : Governance} {installations : Dict ConnectorInstallation} {toolSlug ownerId id : String}
  {params context arguments : Dict Json} {row : ConnectorInstallation}

theorem mergedArguments_given (context : Dict Json) {key : String} (given : (params.get? key).isSome = true) :
    (mergedArguments params context).get key = params.get key := by
  unfold mergedArguments Dict.get
  rw [Dict.get?_append]
  cases found : params.get? key with
  | none => simp [found] at given
  | some value => rfl

theorem mergedArguments_absent {key : String} (absent : params.get? key = none) :
    (mergedArguments params context).get key = context.get key := by
  unfold mergedArguments Dict.get
  rw [Dict.get?_append, absent, Dict.get?_filter_key context key fun other => (params.get? other).isNone]
  simp [absent]

theorem forOwner_ok {connector : String} (found : forOwner installations ownerId id connector = .ok row) :
    installations.get? id = some row ∧ row.ownerId = ownerId ∧ row.status = "active" := by
  unfold forOwner at found
  split at found
  · cases found
  · split at found
    · simp_all
    · cases found

theorem validatePermissions_true (valid : validatePermissions installations context = true)
    (found : installations.get? (context.get "connector_installation_id").strOrEmpty = some row) :
    row.ownerId = (context.get "owner_id").strOrEmpty ∧ row.status = "active" := by
  unfold validatePermissions at valid
  dsimp only at valid
  split at valid
  · cases valid
  · split at valid
    · cases valid
    · simp_all

theorem connectorExecute_called
    (called : connectorExecute installations toolSlug params context = .ok (.called id row arguments)) :
    installations.get? id = some row ∧ row.status = "active" ∧
      (row.ownerId = if toolSlug ∈ telegramOperations then ((mergedArguments params context).get "owner_id").strOrEmpty
        else (context.get "owner_id").pyStr) ∧
      arguments = if toolSlug ∈ telegramOperations then params else mergedArguments params context := by
  unfold connectorExecute at called
  dsimp only at called
  split at called
  · cases called
  rename_i valid
  rw [not_not] at valid
  split at called
  · rename_i adapter listed
    obtain ⟨installation, found, called⟩ := except_bind_ok called
    cases ok.inj called
    obtain ⟨there, owner, active⟩ := forOwner_ok found
    have member := List.find?_some listed
    have other : toolSlug ∉ telegramOperations := by
      have apart : ∀ adapter ∈ adapters, ∀ slug ∈ adapter.2, slug ∉ telegramOperations := by decide
      exact apart adapter (List.mem_of_find?_eq_some listed) toolSlug (of_decide_eq_true member)
    simp_all
  · split at called
    · cases called
    split at called
    · cases called
    · rename_i there
      cases ok.inj called
      obtain ⟨owner, active⟩ := validatePermissions_true valid there
      simp_all

theorem refusal_not_called {authorization : Authorization} {outcome : Outcome}
    (refused : refusal authorization context = some outcome) : outcome ≠ .called id row arguments := by
  unfold refusal at refused
  split_ifs at refused <;> (obtain rfl := Option.some.inj refused; simp)

theorem executeTool_called
    (called : executeTool policies installations ownerId toolSlug params context = .ok (.called id row arguments)) :
    ∃ authorized : Dict Json, connectorExecute installations toolSlug params (authorized.set "owner_id" (.str ownerId)) =
      .ok (.called id row arguments) := by
  obtain ⟨⟨authorization, authorized⟩, _, called⟩ := except_bind_ok called
  dsimp only at called
  split at called
  · rename_i refused
    exact absurd (ok.inj called) (refusal_not_called refused)
  · split at called
    · exact ⟨authorized, called⟩
    · cases ok.inj called

theorem toolExecutionServiceExecute_called
    (called : toolExecutionServiceExecute policies installations ownerId toolSlug params context =
      .ok (.called id row arguments)) :
    ∃ authorized : Dict Json, connectorExecute installations toolSlug params (authorized.set "owner_id" (.str ownerId)) =
      .ok (.called id row arguments) := by
  obtain ⟨⟨authorization, authorized⟩, _, called⟩ := except_bind_ok called
  dsimp only at called
  split at called
  · rename_i refused
    exact absurd (ok.inj called) (refusal_not_called refused)
  · split at called
    · cases ok.inj called
    · exact executeTool_called called

/-- A call that reaches an adapter uses an active installation of the owner, unless a Telegram
    operation is given another owner in its params. -/
theorem connector_calls_stay_in_tenant
    (called : toolExecutionServiceExecute policies installations ownerId toolSlug params context =
      .ok (.called id row arguments)) :
    installations.get? id = some row ∧
      ((row.status = "active" ∧ row.ownerId = ownerId) ↔
        (toolSlug ∈ telegramOperations → (params.get? "owner_id").isSome = true →
          (params.get "owner_id").strOrEmpty = ownerId)) := by
  obtain ⟨authorized, called⟩ := toolExecutionServiceExecute_called called
  obtain ⟨there, active, owner, _⟩ := connectorExecute_called called
  refine ⟨there, ?_⟩
  by_cases telegram : toolSlug ∈ telegramOperations
  · rw [if_pos telegram] at owner
    cases found : params.get? "owner_id" with
    | none =>
      rw [mergedArguments_absent found, Dict.get_set_self, Json.strOrEmpty_str] at owner
      simp [active, owner]
    | some value =>
      rw [mergedArguments_given _ (by simp [found])] at owner
      simp [active, owner, telegram]
  · rw [if_neg telegram, Dict.get_set_self] at owner
    have same : row.ownerId = ownerId := owner
    simp [active, same, telegram]

def granting (toolSlug : String) : Governance where
  resolve _ _ _ := .ok [("decision", .str "autonomous")]
  effectivePermissions _ _ _ := .ok ⟨[toolSlug], [], [], "allow"⟩
  isLowRiskTool _ := false
  blockingContract _ := none
  otherPermits _ _ := false

def aliceBot : ConnectorInstallation :=
  { ownerId := "alice", companyId := none, status := "active", connector := "telegram" }

def bobBot : ConnectorInstallation := { aliceBot with ownerId := "bob" }

def twoBots : Dict ConnectorInstallation := [("a", aliceBot), ("b", bobBot)]

theorem alice_uses_her_bot : ∃ arguments,
    toolExecutionServiceExecute (granting "telegram.send_message") twoBots "alice" "telegram.send_message"
      [("connector_installation_id", .str "a"), ("text", .str "hi")] [("project_id", .str "p")] =
      .ok (.called "a" aliceBot arguments) ∧ aliceBot.ownerId = "alice" := by
  refine ⟨_, rfl, ?_⟩
  have called : toolExecutionServiceExecute (granting "telegram.send_message") twoBots "alice" "telegram.send_message"
      [("connector_installation_id", .str "a"), ("text", .str "hi")] [("project_id", .str "p")] =
      .ok (.called "a" aliceBot _) := rfl
  exact ((connector_calls_stay_in_tenant called).2.mpr (fun _ given => nomatch given)).2

theorem alice_uses_bobs_bot : ∃ arguments,
    toolExecutionServiceExecute (granting "telegram.send_message") twoBots "alice" "telegram.send_message"
      [("connector_installation_id", .str "b"), ("owner_id", .str "bob"), ("text", .str "hi")]
      [("project_id", .str "p")] = .ok (.called "b" bobBot arguments) ∧ bobBot.ownerId ≠ "alice" :=
  ⟨_, rfl, by decide⟩

end Troop.Connectors
