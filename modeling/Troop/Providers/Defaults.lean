import Mathlib.Data.List.Nodup
import Troop.Projects.Updates
import Troop.Session.Transaction
import Troop.Starts.Routing

namespace Troop.Providers

open Starts (ProviderConfig Oracles listProviders providerModelExists)
open Projects (Refusal)
open List

structure ProviderConfigCreate where
  projectId : Option String := none
  providerType : String
  defaultModel : String
  fallbackModel : Option String := none
  isDefault : Bool := false
  isEnabled : Bool := true

structure ProviderConfigUpdate where
  defaultModel : Option (Option String) := none
  fallbackModel : Option (Option String) := none
  isDefault : Option (Option Bool) := none
  isEnabled : Option (Option Bool) := none

structure Outside where
  oracles : Oracles
  storable : Bool

/-- The rows of `provider_configs`. -/
structure Table where
  rows : List ProviderConfig
  distinct : (rows.map ProviderConfig.id).Nodup

def scopeOf (row : ProviderConfig) : String × Option String := (row.ownerId, row.projectId)

def cleared (listed : List ProviderConfig) (row : ProviderConfig) : ProviderConfig :=
  if row ∈ listed then { row with isDefault := false } else row

/-- The loop over the fields of `updates`. -/
def ProviderConfigUpdate.set (updates : ProviderConfigUpdate) (row : ProviderConfig) : ProviderConfig :=
  { row with
    defaultModel := (updates.defaultModel.getD none).getD row.defaultModel
    fallbackModel := updates.fallbackModel.getD row.fallbackModel
    isDefault := (updates.isDefault.getD none).getD row.isDefault
    isEnabled := (updates.isEnabled.getD none).getD row.isEnabled }

def ProviderConfigUpdate.nulls (updates : ProviderConfigUpdate) : Bool :=
  updates.defaultModel = some none || updates.isDefault = some none || updates.isEnabled = some none

namespace Table

variable (table : Table)

def listed (userId : String) (projectId : Option String) : List ProviderConfig :=
  listProviders ⟨[], [], table.rows⟩ userId projectId

def getProvider (userId providerId : String) : Option ProviderConfig :=
  table.rows.find? fun row => row.ownerId = userId ∧ row.id = providerId

def mapRows (change : ProviderConfig → ProviderConfig) (same : ∀ row, (change row).id = row.id) : Table where
  rows := table.rows.map change
  distinct := by
    have ids : ProviderConfig.id ∘ change = ProviderConfig.id := funext same
    rw [List.map_map, ids]
    exact table.distinct

/-- `for provider in await self.repo.list_providers(...): provider.is_default = False` -/
def clearDefaults (userId : String) (projectId : Option String) : Table :=
  table.mapRows (cleared (table.listed userId projectId)) fun row => by
    unfold cleared
    split <;> rfl

def write (providerId : String) (updates : ProviderConfigUpdate) : Table :=
  table.mapRows (fun row => if row.id = providerId then updates.set row else row) fun row => by
    split <;> rfl

def add (row : ProviderConfig) : Table :=
  if fresh : row.id ∉ table.rows.map ProviderConfig.id then
    ⟨table.rows ++ [row], by
      rw [List.map_append, List.nodup_append]
      refine ⟨table.distinct, by simp, ?_⟩
      intro id old new isNew same
      rw [List.map_singleton, List.mem_singleton] at isNew
      exact fresh (by rwa [← isNew, ← same])⟩
  else table

def isDefault? (id : String) : Option Bool := (table.rows.find? fun row => row.id = id).map (·.isDefault)

def OneDefault : Prop :=
  ∀ first ∈ table.rows, ∀ second ∈ table.rows, first.isDefault = true → second.isDefault = true →
    scopeOf first = scopeOf second → first = second

end Table

def ProviderConfigCreate.row (payload : ProviderConfigCreate) (userId providerId : String) : ProviderConfig :=
  { id := providerId, ownerId := userId, projectId := payload.projectId, providerType := payload.providerType
    defaultModel := payload.defaultModel, fallbackModel := payload.fallbackModel, isDefault := payload.isDefault
    isEnabled := payload.isEnabled, isHealthy := false }

def modelMissing (kind model providerType : String) : Refusal :=
  .http ⟨422, .str s!"{kind} model '{model}' is not available for provider type '{providerType}'."⟩

def validateProviderModels (oracles : Oracles) (provider : ProviderConfig) : Transaction Table Refusal PUnit :=
  if ¬ providerModelExists oracles provider (.str provider.defaultModel) then
    .raise (modelMissing "Default" provider.defaultModel provider.providerType)
  else
    match provider.fallbackModel with
    | none => pure ⟨⟩
    | some model =>
      if model ≠ "" ∧ ¬ providerModelExists oracles provider (.str model) then
        .raise (modelMissing "Fallback" model provider.providerType)
      else pure ⟨⟩

open Transaction (rows change insert statement commits)

/-- `create_provider`. The discovery after the first commit only writes metadata, be it found models or its error. -/
def createProvider (outside : Outside) (userId providerId : String) (payload : ProviderConfigCreate) :
    Transaction Table Refusal PUnit := do
  if payload.isDefault then
    statement
    change fun table => table.clearDefaults userId payload.projectId
  let ids ← rows fun table => table.rows.map ProviderConfig.id
  if providerId ∈ ids ∨ ¬ outside.storable then
    .raise .integrity
  else
    change fun table => table.add (payload.row userId providerId)
    commits
    statement
    commits
    statement

/-- `update_provider`. A null is refused by the flush, wherever that comes: nothing is committed before the end. -/
def updateProvider (outside : Outside) (userId providerId : String) (updates : ProviderConfigUpdate) :
    Transaction Table Refusal PUnit := do
  match ← rows fun table => table.getProvider userId providerId with
  | none => .raise (.http ⟨404, .str "Provider not found"⟩)
  | some provider =>
    if updates.isDefault = some (some true) then
      statement
      change fun table => table.clearDefaults userId provider.projectId
    if updates.nulls ∨ ¬ outside.storable then
      .raise .integrity
    else
      change fun table => table.write providerId updates
      validateProviderModels outside.oracles (updates.set provider)
      commits
      statement

inductive Call where
  | create (outside : Outside) (userId providerId : String) (payload : ProviderConfigCreate)
  | update (outside : Outside) (userId providerId : String) (updates : ProviderConfigUpdate)

namespace Call

def program : Call → Transaction Table Refusal PUnit
  | .create outside userId providerId payload => createProvider outside userId providerId payload
  | .update outside userId providerId updates => updateProvider outside userId providerId updates

def perform (table : Table) (call : Call) : Table := (call.program.run none ⟨table, table⟩).held.committed

def raises (table : Table) (call : Call) : Prop := ∃ refusal, (call.program.outcome table).1 = .error refusal

def claims (table : Table) : Call → Option (String × Option String)
  | .create _ userId _ payload => if payload.isDefault then some (userId, payload.projectId) else none
  | .update _ userId providerId updates =>
    if updates.isDefault = some (some true) then (table.getProvider userId providerId).map scopeOf else none

def admitted (table : Table) : Call → Bool
  | .create outside _ providerId _ => providerId ∉ table.rows.map ProviderConfig.id ∧ outside.storable
  | .update outside userId providerId updates =>
    (table.getProvider userId providerId).isSome ∧ ¬ updates.nulls ∧ outside.storable

/-- What is asked of a call: one default a scope, and no flag changed by a refusal or in another scope than the one in
    which a provider becomes the default. -/
structure Proper (table : Table) (call : Call) : Prop where
  one : (call.perform table).OneDefault
  elsewhere : ∀ scope, call.claims table = some scope → ∀ row ∈ table.rows, scopeOf row ≠ scope →
    (call.perform table).isDefault? row.id = some row.isDefault
  refused : call.raises table → ∀ id, (call.perform table).isDefault? id = table.isDefault? id

def Careful (table : Table) (call : Call) : Prop :=
  call.admitted table = true → ∀ userId projectId, call.claims table = some (userId, some projectId) →
    ∀ row ∈ table.rows, scopeOf row = (userId, none) → row.isDefault = false

end Call

def moments (table : Table) : List Call → List (Table × Call)
  | [] => []
  | call :: rest => (table, call) :: moments (call.perform table) rest

section Effects

variable {table : Table} {outside : Outside} {userId providerId id : String} {payload : ProviderConfigCreate}
  {updates : ProviderConfigUpdate} {projectId : Option String} {row provider : ProviderConfig}

theorem mem_listed : row ∈ table.listed userId projectId ↔
    row ∈ table.rows ∧ row.ownerId = userId ∧ (row.projectId = none ∨ projectId ≠ none ∧ row.projectId = projectId) := by
  unfold Table.listed listProviders
  rw [mem_filter, decide_eq_true_eq]

theorem validateProviderModels_passes (oracles : Oracles) (provider : ProviderConfig) :
    validateProviderModels oracles provider = pure ⟨⟩ := by
  have default_ : providerModelExists oracles provider (.str provider.defaultModel) = true := by
    simp [providerModelExists]
  unfold validateProviderModels
  rw [if_neg (not_not.mpr default_)]
  cases named : provider.fallbackModel with
  | none => rfl
  | some model =>
    have fallback : providerModelExists oracles provider (.str model) = true := by
      simp [providerModelExists, named, Json.ofOption]
    exact if_neg fun refused => refused.2 fallback

def Call.effect (table : Table) : Call → Table
  | .create _ userId providerId payload =>
    (if payload.isDefault then table.clearDefaults userId payload.projectId else table).add (payload.row userId providerId)
  | .update _ userId providerId updates =>
    match table.getProvider userId providerId with
    | none => table
    | some provider =>
      (if updates.isDefault = some (some true) then table.clearDefaults userId provider.projectId else table).write
        providerId updates

theorem mapRows_ids (change : ProviderConfig → ProviderConfig) (same : ∀ row, (change row).id = row.id) :
    (table.mapRows change same).rows.map ProviderConfig.id = table.rows.map ProviderConfig.id := by
  have ids : ProviderConfig.id ∘ change = ProviderConfig.id := funext same
  rw [Table.mapRows, map_map, ids]

theorem run_cleared {condition : Prop} [Decidable condition] (clear : Table → Table) (rest : Transaction Table Refusal PUnit) :
    (if condition then (do statement; change clear; rest) else rest).run none ⟨table, table⟩ =
      rest.run none ⟨if condition then clear table else table, table⟩ := by
  split <;> rfl

theorem admitted_run (call : Call) (admitted : call.admitted table = true) :
    call.program.run none ⟨table, table⟩ = ⟨.ok ⟨⟩, none, ⟨call.effect table, call.effect table⟩⟩ := by
  cases call with
  | create outside userId providerId payload =>
    obtain ⟨fresh, storable⟩ := of_decide_eq_true admitted
    have ids : (if payload.isDefault = true then table.clearDefaults userId payload.projectId else table).rows.map
        ProviderConfig.id = table.rows.map ProviderConfig.id := by
      split
      · exact mapRows_ids _ _
      · rfl
    unfold Call.program createProvider
    rw [run_cleared, Transaction.run_rows_bind, ids, if_neg (by rw [not_or, not_not]; exact ⟨fresh, storable⟩)]
    rfl
  | update outside userId providerId updates =>
    obtain ⟨found, complete, storable⟩ := of_decide_eq_true admitted
    obtain ⟨provider, named⟩ := Option.isSome_iff_exists.mp found
    unfold Call.program updateProvider Call.effect
    rw [Transaction.run_rows_bind, named]
    rw [run_cleared, if_neg (by rw [not_or, not_not]; exact ⟨complete, storable⟩), validateProviderModels_passes]
    simp only [named]
    rfl

theorem refused_run (call : Call) (refused : call.admitted table = false) :
    (call.program.run none ⟨table, table⟩).held.committed = table := by
  cases call with
  | create outside userId providerId payload =>
    have ids : (if payload.isDefault = true then table.clearDefaults userId payload.projectId else table).rows.map
        ProviderConfig.id = table.rows.map ProviderConfig.id := by
      split
      · exact mapRows_ids _ _
      · rfl
    have reason := of_decide_eq_false refused
    rw [not_and_or, not_not] at reason
    unfold Call.program createProvider
    rw [run_cleared, Transaction.run_rows_bind, ids, if_pos reason]
    rfl
  | update outside userId providerId updates =>
    have reason := of_decide_eq_false refused
    unfold Call.program updateProvider
    rw [Transaction.run_rows_bind]
    cases named : table.getProvider userId providerId with
    | none => rfl
    | some provider =>
      rw [named, Option.isSome_some, not_and_or, not_and_or, not_not] at reason
      rw [run_cleared, if_pos (reason.resolve_left fun known => known rfl)]
      rfl

theorem perform_admitted {call : Call} (admitted : call.admitted table = true) : call.perform table = call.effect table := by
  rw [Call.perform, admitted_run call admitted]

theorem perform_refused {call : Call} (refused : call.admitted table = false) : call.perform table = table :=
  refused_run call refused

theorem refused_of_raises {call : Call} (raises : call.raises table) : call.admitted table = false := by
  apply Bool.eq_false_iff.mpr
  intro admitted
  obtain ⟨refusal, raised⟩ := raises
  obtain ⟨committed, same⟩ := @Transaction.run_none _ _ _ call.program ⟨table, table⟩
  rw [admitted_run call admitted, raised] at same
  cases same

end Effects

section Flags

variable {table : Table} {userId providerId id : String} {projectId : Option String} {row other : ProviderConfig}
  {change : ProviderConfig → ProviderConfig} {same : ∀ row, (change row).id = row.id}

@[simp] theorem scopeOf_cleared (listed : List ProviderConfig) : scopeOf (cleared listed row) = scopeOf row := by
  unfold cleared
  split <;> rfl

theorem mem_mapRows : row ∈ (table.mapRows change same).rows ↔ ∃ old ∈ table.rows, change old = row := mem_map

theorem eq_of_id (first : row ∈ table.rows) (second : other ∈ table.rows) (named : row.id = other.id) : row = other :=
  inj_on_of_nodup_map table.distinct first second named

theorem find_of_mem (member : row ∈ table.rows) : table.rows.find? (fun found => found.id = row.id) = some row := by
  have present : (table.rows.find? fun found => found.id = row.id).isSome = true :=
    find?_isSome.mpr ⟨row, member, decide_eq_true rfl⟩
  obtain ⟨found, isFirst⟩ := Option.isSome_iff_exists.mp present
  have named : found.id = row.id := by simpa using find?_some isFirst
  rw [isFirst, eq_of_id (mem_of_find?_eq_some isFirst) member named]

theorem isDefault?_of_mem (member : row ∈ table.rows) : table.isDefault? row.id = some row.isDefault := by
  rw [Table.isDefault?, find_of_mem member, Option.map_some]

theorem isDefault?_mapRows (member : row ∈ table.rows) :
    (table.mapRows change same).isDefault? row.id = some (change row).isDefault := by
  have mapped : change row ∈ (table.mapRows change same).rows := mem_map_of_mem member
  rw [← same row]
  exact isDefault?_of_mem mapped

theorem isDefault?_add (member : row ∈ table.rows) (new : ProviderConfig) :
    (table.add new).isDefault? row.id = some row.isDefault := by
  unfold Table.add
  split
  · exact isDefault?_of_mem (mem_append_left _ member)
  · exact isDefault?_of_mem member

theorem mem_add (member : row ∈ (table.add other).rows) : row ∈ table.rows ∨ row = other := by
  unfold Table.add at member
  split at member
  · exact (mem_append.mp member).imp_right mem_singleton.mp
  · exact .inl member

theorem OneDefault.falls (one : table.OneDefault) (scopes : ∀ row, scopeOf (change row) = scopeOf row)
    (falls : ∀ row ∈ table.rows, (change row).isDefault = true → row.isDefault = true) :
    (table.mapRows change same).OneDefault := by
  intro first isFirst second isSecond firstSet secondSet together
  obtain ⟨oldFirst, wasFirst, rfl⟩ := mem_mapRows.mp isFirst
  obtain ⟨oldSecond, wasSecond, rfl⟩ := mem_mapRows.mp isSecond
  rw [scopes, scopes] at together
  rw [one oldFirst wasFirst oldSecond wasSecond (falls _ wasFirst firstSet) (falls _ wasSecond secondSet) together]

theorem OneDefault.cleared (one : table.OneDefault) : (table.clearDefaults userId projectId).OneDefault := by
  apply OneDefault.falls one
  · exact fun row => scopeOf_cleared _
  intro row _ set_
  unfold Providers.cleared at set_
  split at set_
  · cases set_
  · exact set_

theorem cleared_none (member : row ∈ (table.clearDefaults userId projectId).rows) (scope : scopeOf row = (userId, projectId)) :
    row.isDefault = false := by
  obtain ⟨old, isOld, rfl⟩ := mem_mapRows.mp member
  rw [scopeOf_cleared] at scope
  obtain ⟨owner, project⟩ := Prod.ext_iff.mp scope
  have listed : old ∈ table.listed userId projectId := by
    refine mem_listed.mpr ⟨isOld, owner, ?_⟩
    cases projectId with
    | none => exact .inl project
    | some id => exact .inr ⟨Option.some_ne_none id, project⟩
  rw [cleared, if_pos listed]

theorem OneDefault.add (one : table.OneDefault)
    (alone : other.isDefault = true → ∀ row ∈ table.rows, scopeOf row = scopeOf other → row.isDefault = false) :
    (table.add other).OneDefault := by
  intro first isFirst second isSecond firstSet secondSet together
  rcases mem_add isFirst with wasFirst | rfl
  · rcases mem_add isSecond with wasSecond | rfl
    · exact one first wasFirst second wasSecond firstSet secondSet together
    · exact absurd firstSet (Bool.eq_false_iff.mp (alone secondSet first wasFirst together))
  · rcases mem_add isSecond with wasSecond | rfl
    · exact absurd secondSet (Bool.eq_false_iff.mp (alone firstSet second wasSecond together.symm))
    · rfl

theorem OneDefault.write {updates : ProviderConfigUpdate} (one : table.OneDefault)
    (alone : updates.isDefault = some (some true) → ∀ provider ∈ table.rows, provider.id = providerId →
      ∀ row ∈ table.rows, scopeOf row = scopeOf provider → row.isDefault = false)
    (complete : updates.isDefault ≠ some none) : (table.write providerId updates).OneDefault := by
  by_cases claims : updates.isDefault = some (some true)
  · intro first isFirst second isSecond firstSet secondSet together
    obtain ⟨oldFirst, wasFirst, rfl⟩ := mem_mapRows.mp isFirst
    obtain ⟨oldSecond, wasSecond, rfl⟩ := mem_mapRows.mp isSecond
    have kept : ∀ row : ProviderConfig, scopeOf (if row.id = providerId then updates.set row else row) = scopeOf row := by
      intro row
      split <;> rfl
    rw [kept, kept] at together
    by_cases firstNamed : oldFirst.id = providerId
    · by_cases secondNamed : oldSecond.id = providerId
      · rw [eq_of_id wasFirst wasSecond (firstNamed.trans secondNamed.symm)]
      · grind
    · rw [if_neg firstNamed] at firstSet
      by_cases secondNamed : oldSecond.id = providerId
      · grind
      · rw [if_neg secondNamed] at secondSet
        rw [one oldFirst wasFirst oldSecond wasSecond firstSet secondSet together]
  · apply OneDefault.falls one
    · intro row
      split <;> rfl
    · intro row _ set_
      split at set_
      · unfold ProviderConfigUpdate.set at set_
        cases given : updates.isDefault with
        | none => simpa [given] using set_
        | some value =>
          cases value with
          | none => exact absurd given complete
          | some flag => simp_all
      · exact set_

end Flags

section Calls

variable {table : Table} {call : Call} {userId providerId : String} {scope : String × Option String} {row provider : ProviderConfig}

theorem getProvider_some (found : table.getProvider userId providerId = some provider) :
    provider ∈ table.rows ∧ provider.ownerId = userId ∧ provider.id = providerId := by
  refine ⟨mem_of_find?_eq_some found, ?_⟩
  simpa using find?_some found

theorem effect_one (one : table.OneDefault) (admitted : call.admitted table = true) : (call.effect table).OneDefault := by
  cases call with
  | create outside userId providerId payload =>
    dsimp only [Call.effect]
    split
    · apply OneDefault.add (OneDefault.cleared one)
      exact fun _ row member same => cleared_none member same
    · rename_i other
      exact OneDefault.add one fun claims => absurd claims other
  | update outside userId providerId updates =>
    obtain ⟨found, complete, _⟩ := of_decide_eq_true admitted
    obtain ⟨provider, named⟩ := Option.isSome_iff_exists.mp found
    obtain ⟨isOne, owner, _⟩ := getProvider_some named
    have given : updates.isDefault ≠ some none := by simp_all [ProviderConfigUpdate.nulls]
    dsimp only [Call.effect]
    simp only [named]
    split
    · apply OneDefault.write (OneDefault.cleared one) _ given
      intro _ raised isRaised raisedId row member same
      obtain ⟨old, isOld, rfl⟩ := mem_mapRows.mp isRaised
      have oldId : old.id = provider.id := by
        rw [(getProvider_some named).2.2, ← raisedId]
        unfold cleared
        split <;> rfl
      rw [scopeOf_cleared, eq_of_id isOld isOne oldId] at same
      exact cleared_none member (same.trans (Prod.ext owner rfl))
    · simp_all [OneDefault.write]

theorem effect_elsewhere (admitted : call.admitted table = true) (claims : call.claims table = some scope)
    (member : row ∈ table.rows) (apart : scopeOf row ≠ scope) :
    (call.effect table).isDefault? row.id = some (cleared (table.listed scope.1 scope.2) row).isDefault := by
  have sameId (listed : List ProviderConfig) : (cleared listed row).id = row.id := by
    unfold cleared
    split <;> rfl
  cases call with
  | create outside userId providerId payload =>
    dsimp only [Call.claims] at claims
    split at claims
    · rename_i chosen
      have claimed := Option.some.inj claims
      subst claimed
      dsimp only [Call.effect]
      rw [if_pos chosen, ← sameId (table.listed userId payload.projectId)]
      exact isDefault?_add (mem_map_of_mem member) _
    · cases claims
  | update outside userId providerId updates =>
    dsimp only [Call.claims] at claims
    split at claims
    · rename_i chosen
      obtain ⟨provider, named, rfl⟩ := Option.map_eq_some_iff.mp claims
      obtain ⟨isOne, owner, found⟩ := getProvider_some named
      have other : (cleared (table.listed userId provider.projectId) row).id ≠ providerId := by
        rw [sameId, ← found]
        exact fun same => apart (by rw [eq_of_id member isOne same])
      dsimp only [Call.effect]
      simp only [named]
      rw [if_pos chosen, ← sameId (table.listed userId provider.projectId)]
      have cleared_ : cleared (table.listed userId provider.projectId) row ∈ (table.clearDefaults userId provider.projectId).rows :=
        mem_map_of_mem member
      rw [show scopeOf provider = (userId, provider.projectId) from Prod.ext owner rfl, Table.write, isDefault?_mapRows cleared_,
        if_neg other]
    · cases claims

theorem proper_iff (one : table.OneDefault) : call.Proper table ↔ call.Careful table := by
  constructor
  · intro proper admitted userId projectId claims row member global
    have apart : scopeOf row ≠ (userId, some projectId) := by simp_all
    have kept := proper.elsewhere _ claims row member apart
    rw [perform_admitted admitted, effect_elsewhere admitted claims member apart] at kept
    obtain ⟨owner, project⟩ := Prod.ext_iff.mp global
    have listed : row ∈ table.listed userId (some projectId) := mem_listed.mpr ⟨member, owner, .inl project⟩
    rw [cleared, if_pos listed] at kept
    exact (Option.some.inj kept).symm
  · intro careful
    cases admitted : call.admitted table with
    | false =>
      have same := perform_refused admitted
      refine ⟨by rw [same]; exact one, ?_, ?_⟩
      · intro _ _ row member _
        rw [same]
        exact isDefault?_of_mem member
      · simp_all
    | true =>
      refine ⟨by rw [perform_admitted admitted]; exact effect_one one admitted, ?_, ?_⟩
      · intro ⟨userId, projectId⟩ claims row member apart
        rw [perform_admitted admitted, effect_elsewhere admitted claims member apart]
        by_cases listed : row ∈ table.listed userId projectId
        · rw [cleared, if_pos listed]
          obtain ⟨_, owner, global | ⟨some', own⟩⟩ := mem_listed.mp listed
          · cases projectId with
            | none => exact absurd (Prod.ext owner global) apart
            | some projectId =>
              rw [careful admitted userId projectId claims row member (Prod.ext owner global)]
          · exact absurd (Prod.ext owner own) apart
        · rw [cleared, if_neg listed]
      · intro raises
        have refused := refused_of_raises raises
        simp [admitted] at refused

end Calls

/-- In a sequence of calls each one is proper exactly when no provider of a project becomes the default while its owner has
    a global default; one default a scope and the refusals need nothing more. -/
theorem defaults_proper_iff (table : Table) (one : table.OneDefault) (calls : List Call) :
    (∀ moment ∈ moments table calls, moment.2.Proper moment.1) ↔ ∀ moment ∈ moments table calls, moment.2.Careful moment.1 := by
  induction calls generalizing table with
  | nil => simp [moments]
  | cons call rest ih =>
    have kept : (call.perform table).OneDefault := by
      cases admitted : call.admitted table with
      | true => rw [perform_admitted admitted]; exact effect_one one admitted
      | false => rw [perform_refused admitted]; exact one
    rw [moments, forall_mem_cons, forall_mem_cons, proper_iff one, ih _ kept]

def silent : Outside where
  oracles := { policyFieldValue _ := .null, knownModel _ _ := false, costGate _ _ := .ok () }
  storable := true

def newDefault (providerId : String) (projectId : Option String) : Call :=
  .create silent "owner" providerId { projectId, providerType := "openai", defaultModel := "gpt", isDefault := true }

def emptyTable : Table := ⟨[], List.nodup_nil⟩

theorem project_defaults_proper : emptyTable.OneDefault ∧
    ∀ moment ∈ moments emptyTable [newDefault "first" (some "a"), newDefault "second" (some "b")],
      moment.2.Proper moment.1 := by
  have none_ : emptyTable.OneDefault := fun _ member => absurd member not_mem_nil
  refine ⟨none_, (defaults_proper_iff emptyTable none_ _).mpr ?_⟩
  refine forall_mem_cons.mpr ⟨?_, forall_mem_singleton.mpr ?_⟩
  · exact fun _ _ _ _ row member => absurd member not_mem_nil
  · intro _ userId projectId _ row member global
    have known : scopeOf row ∈ [("owner", some "a")] := by
      exact mem_map_of_mem member
    simp [mem_singleton.mp known] at global

theorem global_default_lost :
    ((newDefault "global" none).perform emptyTable).isDefault? "global" = some true ∧
    ((newDefault "own" (some "a")).perform ((newDefault "global" none).perform emptyTable)).isDefault? "global" = some false ∧
    ¬ ∀ table : Table, table.OneDefault → ∀ calls, ∀ moment ∈ moments table calls, moment.2.Proper moment.1 := by
  refine ⟨by decide, by decide, fun claimed => ?_⟩
  have none_ : emptyTable.OneDefault := fun _ member => absurd member not_mem_nil
  have proper := claimed emptyTable none_ [newDefault "global" none, newDefault "own" (some "a")] _
    (mem_cons_of_mem _ mem_cons_self)
  have row : ∃ row ∈ ((newDefault "global" none).perform emptyTable).rows, scopeOf row = ("owner", none) ∧ row.id = "global" ∧
      row.isDefault = true := by decide
  obtain ⟨row, member, scope, named, flag⟩ := row
  have kept := proper.elsewhere ("owner", some "a") rfl row member (by rw [scope]; decide)
  rw [named, flag] at kept
  revert kept
  decide

end Troop.Providers
