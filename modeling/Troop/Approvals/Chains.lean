import Mathlib.Logic.Relation
import Troop.Approvals.Desk
import Troop.Workflow.System

namespace Troop.Approvals

open Workflow (Env ApprovalStatus checkApprovalForNode)
open List
open Dict (get?_set)

variable {env : Env} {before after desk : Desk}

def BoundApproval.replaces (row : BoundApproval) : String :=
  (row.payloadJson.get "replaces_approval_request_id").strOrEmpty

def ReplacedBy (desk : Desk) (older newer : String) : Prop :=
  ∃ old new, desk.approvals.get? older = some old ∧ desk.approvals.get? newer = some new ∧ new.replaces = older

def Chain (desk : Desk) (root : String) : String → Prop := Relation.ReflTransGen (ReplacedBy desk) root

def Live (desk : Desk) (id : String) : Prop :=
  ∃ row, desk.approvals.get? id = some row ∧ (row.status = .pending ∨ row.status = .approved)

structure SameLink (old new : BoundApproval) : Prop where
  id : new.id = old.id
  replaces : new.replaces = old.replaces
  version : new.effectVersion = old.effectVersion

inductive Moved (env : Env) (before after : Desk) : Prop
  | kept (same : after = before)
  | settled (id : String) (old new : BoundApproval) (found : before.approvals.get? id = some old)
      (pending : old.status = .pending) (link : SameLink old new) (final : new.status ≠ .pending)
      (same : after = { before with approvals := before.approvals.set id new })
  | replaced (id : String) (old gone new : BoundApproval) (found : before.approvals.get? id = some old)
      (pending : old.status = .pending) (link : SameLink old gone) (invalid : gone.status = .invalidated)
      (named : new.id = env.uuid4 before.drawn) (opened : new.status = .pending)
      (linked : old.id ≠ "" → new.replaces = old.id) (newer : old.effectVersion < new.effectVersion)
      (table : after.approvals = (before.approvals.set id gone).set (env.uuid4 before.drawn) new)
      (drawn : after.drawn = before.drawn + 1)

theorem invalidated_link (approval : BoundApproval) (reason : String) :
    SameLink approval (invalidateApprovalForEdit approval reason) := by
  constructor
  · rfl
  · unfold BoundApproval.replaces invalidateApprovalForEdit
    rw [Dict.get_set_of_ne _ _ (by decide)]
  · rfl

variable {effect : ProposedEffect} {row : BoundApproval} {ownerId approvalId : String} {id : String} {now : Int}
  {approval : BoundApproval} {ruling : Ruling} {reason : Option String} {changes : Dict Json} {decision : Decision}

theorem effectPayload_replaces (effect : ProposedEffect) (replaces : effect.replacesApprovalId = some id)
    (named : id ≠ "") : (effectPayload env effect).get? "replaces_approval_request_id" = some (.str id) := by
  unfold effectPayload
  rw [replaces]
  dsimp only
  rw [if_neg named]
  cases effect.expiresAt <;> simp [Dict.get?_cons]

theorem draftedPayload_get (payload : Dict Json) (effect : ProposedEffect) {key : String}
    (other : "draft_arguments" ≠ key) : (draftedPayload payload effect).get key = payload.get key := by
  unfold draftedPayload
  split
  · exact Dict.get_set_of_ne _ _ other
  · rfl

theorem replacementOf_spec (id : String) (approval : BoundApproval) (effect : ProposedEffect) (ownerId reason : String) :
    (replacementOf env id approval effect ownerId reason).id = id ∧
      (replacementOf env id approval effect ownerId reason).status = .pending ∧
      (replacementOf env id approval effect ownerId reason).effectVersion = effect.effectVersion ∧
      (approval.id ≠ "" → (replacementOf env id approval effect ownerId reason).replaces = approval.id) := by
  have linked (named : approval.id ≠ "") :
      (approval.payloadJson.update (effectPayload env { effect with replacesApprovalId := some approval.id })).get
        "replaces_approval_request_id" = .str approval.id := by
    rw [Dict.get_update, effectPayload_replaces _ rfl named]
    rfl
  refine ⟨rfl, rfl, rfl, fun named => ?_⟩
  show ((draftedPayload (approval.payloadJson.update _) effect).get _).strOrEmpty = _
  rw [draftedPayload_get _ _ (by decide), linked named, Json.strOrEmpty_str]

theorem createReplacementApproval_ok {id ownerId reason : String} {approval old new : BoundApproval} (made : createReplacementApproval env id approval effect ownerId reason = .ok (old, new)) :
    approval.status = .pending ∧
      old = invalidateApprovalForEdit approval "Draft edited; replacement approval created" ∧
      new = replacementOf env id old effect ownerId reason := by
  unfold createReplacementApproval at made
  split at made
  · cases made
  · grind

theorem priorVersion_lt (approval : BoundApproval) (bound : Option ProposedEffect) :
    approval.effectVersion < max 1 (priorVersion approval bound + 1) := by
  unfold priorVersion
  split <;> omega

def goneRow (approval : BoundApproval) : BoundApproval :=
  invalidateApprovalForEdit approval "Draft edited; replacement approval created"

def revisedRow (env : Env) (id : String) (approval : BoundApproval) (effect : ProposedEffect) (ownerId : String)
    (draft : Dict Json) : BoundApproval :=
  withDraft (replacementOf env id (goneRow approval) effect ownerId "Approve the revised Gmail draft") draft

structure Edited (env : Env) (ownerId approvalId : String) (changes : Dict Json) (now : Int) (before after : Desk)
    (approval : BoundApproval) (bound : Option ProposedEffect) (drafted : Dict Json) (effect : ProposedEffect) : Prop where
  found : before.approvals.get? approvalId = some approval
  owned : approval.requestedByUserId = some ownerId
  pending : approval.status = .pending
  read : readProposedEffect env approval = .ok bound
  draft : draftArguments approval bound = .ok drafted
  built : ∃ fingerprint, buildProposedEffect env "gmail.send_draft" (applyChanges changes drafted) fingerprint
    (priorVersion approval bound + 1) now = .ok effect
  table : after.approvals = (before.approvals.set approvalId (goneRow approval)).set (env.uuid4 before.drawn)
    (revisedRow env (env.uuid4 before.drawn) approval effect ownerId (applyChanges changes drafted))
  runs : redirectRun before.runs ownerId
    ((revisedRow env (env.uuid4 before.drawn) approval effect ownerId (applyChanges changes drafted)).payloadJson.get
      "workflow_run_id").strOrEmpty (env.uuid4 before.drawn) (applyChanges changes drafted) = .ok after.runs
  drawn : after.drawn = before.drawn + 1

theorem replaceEmailApprovalDraft_ok {updated : Except PyError PUnit}
    (edited : replaceEmailApprovalDraft env ownerId approvalId changes updated now before = .ok (row, after)) :
    ∃ approval bound drafted effect,
      Edited env ownerId approvalId changes now before after approval bound drafted effect := by
  unfold replaceEmailApprovalDraft at edited
  split at edited
  · cases edited
  rename_i approval found
  split at edited
  · cases edited
  rename_i owned
  split at edited
  · cases edited
  obtain ⟨bound, read, edited⟩ := except_bind_ok edited
  obtain ⟨drafted, draft, edited⟩ := except_bind_ok edited
  dsimp only at edited
  split at edited
  · cases edited
  obtain ⟨_, _, edited⟩ := except_bind_ok edited
  split at edited
  · cases edited
  obtain ⟨canonical, _, edited⟩ := except_bind_ok edited
  obtain ⟨effect, built, edited⟩ := except_bind_ok edited
  obtain ⟨⟨old, new⟩, made, edited⟩ := except_bind_ok edited
  obtain ⟨runs, redirected, edited⟩ := except_bind_ok edited
  obtain ⟨pending, rfl, rfl⟩ := createReplacementApproval_ok made
  obtain ⟨_, rfl⟩ := Prod.mk.inj (Except.ok.inj edited)
  exact ⟨approval, bound, drafted, effect, found, not_not.mp owned, pending, read, draft, ⟨_, built⟩, rfl, redirected, rfl⟩

theorem Edited.moved {bound : Option ProposedEffect} {drafted : Dict Json}
    (edited : Edited env ownerId approvalId changes now before after approval bound drafted effect) :
    Moved env before after := by
  obtain ⟨named, opened, version, linked⟩ : (replacementOf env _ _ _ _ _).id = _ ∧ _ :=
    replacementOf_spec (env.uuid4 before.drawn) (goneRow approval) effect ownerId "Approve the revised Gmail draft"
  have replaces : approval.id ≠ "" →
      (revisedRow env (env.uuid4 before.drawn) approval effect ownerId (applyChanges changes drafted)).replaces =
        approval.id := by
    intro given
    show ((Dict.set _ _ _).get _).strOrEmpty = _
    rw [Dict.get_set_of_ne _ _ (by decide)]
    exact linked given
  have newer : approval.effectVersion <
      (revisedRow env (env.uuid4 before.drawn) approval effect ownerId (applyChanges changes drafted)).effectVersion := by
    obtain ⟨fingerprint, built⟩ := edited.built
    show _ < effect.effectVersion
    rw [(buildProposedEffect_ok built).version]
    exact priorVersion_lt approval bound
  exact .replaced approvalId approval (goneRow approval)
    (revisedRow env (env.uuid4 before.drawn) approval effect ownerId (applyChanges changes drafted)) edited.found edited.pending
    (invalidated_link _ _) rfl named opened replaces newer edited.table edited.drawn

theorem receivedPayload_replaces (payload : Dict Json) (receipt : Option Receipt) :
    (receivedPayload payload receipt).get "replaces_approval_request_id" =
      payload.get "replaces_approval_request_id" := by
  cases receipt with
  | none => rfl
  | some receipt =>
    show (payload.update receipt.payload).get _ = _
    rw [Dict.get_update]
    simp [Receipt.payload, Dict.get?_cons, Dict.get]

theorem decided_ok {approval row : BoundApproval} {userId : String} (settled : decided approval userId decision reason ruling = .ok row) :
    SameLink approval row ∧ row.status = decision.status := by
  obtain ⟨_, _, settled⟩ := except_bind_ok settled
  split at settled
  · cases settled
  obtain ⟨receipt, _, settled⟩ := except_bind_ok settled
  cases settled
  refine ⟨⟨rfl, ?_, rfl⟩, rfl⟩
  exact congrArg Json.strOrEmpty (receivedPayload_replaces approval.payloadJson receipt)

theorem decideApproval_moved {userId approvalId : String} (desk : Desk) :
    Moved env desk (decideApproval env userId approvalId decision reason ruling now desk).2 := by
  unfold decideApproval
  split
  · exact .kept rfl
  rename_i approval found
  split
  · exact .kept rfl
  split
  · exact .kept rfl
  rename_i pending
  split
  · exact .kept rfl
  · apply Moved.settled approvalId approval _ found (not_not.mp pending) _ _ rfl
    · exact ⟨rfl, rfl, rfl⟩
    · nofun
  · split
    · exact .kept rfl
    rename_i row settled
    obtain ⟨link, status⟩ := decided_ok settled
    apply Moved.settled approvalId approval row found (not_not.mp pending) link _ rfl
    rw [status]
    cases decision <;> decide

theorem Request.moved (desk : Desk) (request : Request) : Moved env desk (request.next env desk) := by
  cases request with
  | edit ownerId approvalId changes updated now =>
    rw [Request.next]
    split
    · rename_i edited
      obtain ⟨approval, bound, drafted, effect, done⟩ := replaceEmailApprovalDraft_ok edited
      exact done.moved
    · exact .kept rfl
  | decide userId approvalId decision reason ruling now => exact decideApproval_moved desk

/-- Where a chain starts: a pending approval, no row replaced yet, and identifiers still to be drawn
    that no row has or names. -/
structure Start (env : Env) (desk : Desk) (root : String) : Prop where
  pending : ∃ row, desk.approvals.get? root = some row ∧ row.status = .pending
  keyed : ∀ id row, desk.approvals.get? id = some row → row.id = id ∧ id ≠ ""
  unedited : ∀ older newer, ¬ ReplacedBy desk older newer
  drawnAnew : ∀ n, desk.drawn ≤ n → env.uuid4 n ≠ "" ∧ desk.approvals.get? (env.uuid4 n) = none ∧
    ∀ id row, desk.approvals.get? id = some row → row.replaces ≠ env.uuid4 n

structure Lineage (env : Env) (desk : Desk) : Prop where
  keyed : ∀ id row, desk.approvals.get? id = some row → row.id = id ∧ id ≠ ""
  drawnAnew : ∀ n, desk.drawn ≤ n → env.uuid4 n ≠ "" ∧ desk.approvals.get? (env.uuid4 n) = none ∧
    ∀ id row, desk.approvals.get? id = some row → row.replaces ≠ env.uuid4 n
  spent : ∀ older newer old new, desk.approvals.get? older = some old → desk.approvals.get? newer = some new →
    new.replaces = older → old.status = .invalidated ∧ old.effectVersion < new.effectVersion
  unique : ∀ older a b, ReplacedBy desk older a → ReplacedBy desk older b → a = b

theorem Start.lineage {root : String} (start : Start env desk root) : Lineage env desk := by
  refine ⟨start.keyed, start.drawnAnew, ?_, ?_⟩
  · intro older newer old new found there replaces
    exact absurd ⟨old, new, found, there, replaces⟩ (start.unedited older newer)
  · intro older a b replaced
    exact absurd replaced (start.unedited older a)

namespace Lineage

theorem open_last (lineage : Lineage env desk) {id newer : String} {row new : BoundApproval}
    (found : desk.approvals.get? id = some row) (status : row.status ≠ .invalidated)
    (there : desk.approvals.get? newer = some new) : new.replaces ≠ id := by
  intro replaces
  exact status (lineage.spent id newer row new found there replaces).1

theorem settled (lineage : Lineage env desk) {id : String} {old new : BoundApproval}
    (found : desk.approvals.get? id = some old) (pending : old.status = .pending) (link : SameLink old new) :
    Lineage env { desk with approvals := desk.approvals.set id new } := by
  have open_ : old.status ≠ .invalidated := by simp_all
  -- every row of the new table stands for a row of the old one with the same link
  have origin : ∀ key row, (desk.approvals.set id new).get? key = some row →
      ∃ past, desk.approvals.get? key = some past ∧ SameLink past row ∧ (key ≠ id → past = row) := by
    intro key row there
    rw [get?_set] at there
    by_cases same : id = key
    · simp_all
    · rw [if_neg same] at there
      exact ⟨row, there, ⟨rfl, rfl, rfl⟩, fun _ => rfl⟩
  have back : ∀ older newer, ReplacedBy { desk with approvals := desk.approvals.set id new } older newer →
      ReplacedBy desk older newer := by
    rintro older newer ⟨a, b, first, second, replaces⟩
    obtain ⟨pastA, foundA, _, _⟩ := origin older a first
    obtain ⟨pastB, foundB, linkB, _⟩ := origin newer b second
    exact ⟨pastA, pastB, foundA, foundB, linkB.replaces ▸ replaces⟩
  constructor
  · intro key row there
    obtain ⟨past, foundPast, same, _⟩ := origin key row there
    rw [same.id]
    exact lineage.keyed key past foundPast
  · intro n later
    obtain ⟨named, absent, unnamed⟩ := lineage.drawnAnew n later
    refine ⟨named, ?_, ?_⟩
    · rw [get?_set, if_neg]
      · exact absent
      · grind
    · intro key row there
      obtain ⟨past, foundPast, same, _⟩ := origin key row there
      rw [same.replaces]
      exact unnamed key past foundPast
  · intro older newer a b first second replaces
    obtain ⟨pastA, foundA, linkA, keptA⟩ := origin older a first
    obtain ⟨pastB, foundB, linkB, _⟩ := origin newer b second
    have replaced : pastB.replaces = older := linkB.replaces ▸ replaces
    have other : older ≠ id := by
      rintro rfl
      exact lineage.open_last found open_ foundB replaced
    obtain ⟨status, version⟩ := lineage.spent older newer pastA pastB foundA foundB replaced
    rw [keptA other] at status version
    rw [linkB.version]
    exact ⟨status, version⟩
  · intro older a b first second
    exact lineage.unique older a b (back older a first) (back older b second)

theorem replaced (lineage : Lineage env before) {id : String} {old gone new : BoundApproval}
    (found : before.approvals.get? id = some old) (pending : old.status = .pending) (link : SameLink old gone)
    (invalid : gone.status = .invalidated) (named : new.id = env.uuid4 before.drawn)
    (linked : old.id ≠ "" → new.replaces = old.id) (newer : old.effectVersion < new.effectVersion)
    (table : after.approvals = (before.approvals.set id gone).set (env.uuid4 before.drawn) new)
    (drawn : after.drawn = before.drawn + 1) : Lineage env after := by
  obtain ⟨nonempty, absent, unnamed⟩ := lineage.drawnAnew before.drawn le_rfl
  obtain ⟨oldId, idNonempty⟩ := lineage.keyed id old found
  have replaces : new.replaces = id := by simp_all
  have open_ : old.status ≠ .invalidated := by simp_all
  have apart : id ≠ env.uuid4 before.drawn := by grind
  -- a row of the new table is the replacement, the invalidated row, or a row of the old table
  have origin : ∀ key row, after.approvals.get? key = some row →
      (key = env.uuid4 before.drawn ∧ row = new) ∨ (key = id ∧ row = gone) ∨
        (key ≠ id ∧ key ≠ env.uuid4 before.drawn ∧ before.approvals.get? key = some row) := by
    intro key row there
    rw [table, get?_set] at there
    by_cases fresh : env.uuid4 before.drawn = key
    · simp_all
    · rw [if_neg fresh, get?_set] at there
      by_cases same : id = key
      · simp_all
      · grind
  -- rows that were there before link as they did
  have past : ∀ key row, after.approvals.get? key = some row → key ≠ env.uuid4 before.drawn →
      ∃ row', before.approvals.get? key = some row' ∧ SameLink row' row := by
    intro key row there other
    rcases origin key row there with ⟨rfl, _⟩ | ⟨rfl, rfl⟩ | ⟨_, _, kept⟩
    · exact absurd rfl other
    · exact ⟨old, found, link⟩
    · exact ⟨row, kept, rfl, rfl, rfl⟩
  have successor : ∀ older key, ReplacedBy after older key →
      (older = id ∧ key = env.uuid4 before.drawn) ∨ (older ≠ id ∧ ReplacedBy before older key) := by
    rintro older key ⟨a, b, first, second, linkedTo⟩
    by_cases fresh : key = env.uuid4 before.drawn
    · subst fresh
      rcases origin _ b second with ⟨_, rfl⟩ | ⟨same, _⟩ | ⟨_, other, _⟩
      · exact .inl ⟨linkedTo.symm.trans replaces, rfl⟩
      · exact absurd same.symm apart
      · exact absurd rfl other
    · obtain ⟨row', foundB, linkB⟩ := past key b second fresh
      have back : row'.replaces = older := linkB.replaces ▸ linkedTo
      have notFresh : older ≠ env.uuid4 before.drawn := by grind
      obtain ⟨rowA, foundA, _⟩ := past older a first notFresh
      have notId : older ≠ id := by
        rintro rfl
        exact lineage.open_last found open_ foundB back
      exact .inr ⟨notId, rowA, row', foundA, foundB, back⟩
  constructor
  · intro key row there
    rcases origin key row there with ⟨rfl, rfl⟩ | ⟨rfl, rfl⟩ | ⟨_, _, kept⟩
    · exact ⟨named, nonempty⟩
    · exact ⟨link.id.trans oldId, idNonempty⟩
    · exact lineage.keyed key row kept
  · intro n later
    obtain ⟨laterNonempty, laterAbsent, laterUnnamed⟩ := lineage.drawnAnew n (by omega)
    have distinct : env.uuid4 before.drawn ≠ env.uuid4 n := by
      intro same
      have number := env.uuid4_injective same
      omega
    have otherId : id ≠ env.uuid4 n := by grind
    refine ⟨laterNonempty, ?_, ?_⟩
    · rwa [table, get?_set, if_neg distinct, get?_set, if_neg otherId]
    intro key row there
    rcases origin key row there with ⟨_, rfl⟩ | ⟨_, rfl⟩ | ⟨_, _, kept⟩
    · rwa [replaces]
    · rw [link.replaces]
      exact laterUnnamed id old found
    · exact laterUnnamed key row kept
  · intro older key a b first second linkedTo
    rcases successor older key ⟨a, b, first, second, linkedTo⟩ with ⟨rfl, rfl⟩ | ⟨notId, x, y, foundX, foundY, back⟩
    · have first' : a = gone := by
        rcases origin _ a first with ⟨same, _⟩ | ⟨_, rfl⟩ | ⟨other, _⟩
        · exact absurd same apart
        · rfl
        · exact absurd rfl other
      have second' : b = new := by
        rcases origin _ b second with ⟨_, rfl⟩ | ⟨same, _⟩ | ⟨_, other, _⟩
        · rfl
        · exact absurd same.symm apart
        · exact absurd rfl other
      subst first' second'
      rw [link.version]
      exact ⟨invalid, newer⟩
    · have notFresh : ∀ row, before.approvals.get? (env.uuid4 before.drawn) ≠ some row := by
        simp [absent]
      have firstKept : a = x := by
        rcases origin _ a first with ⟨rfl, _⟩ | ⟨same, _⟩ | ⟨_, _, kept⟩
        · exact absurd foundX (notFresh x)
        · exact absurd same notId
        · exact Option.some.inj (kept.symm.trans foundX)
      have version : b.effectVersion = y.effectVersion := by
        by_cases fresh : key = env.uuid4 before.drawn
        · simp_all
        · obtain ⟨y', foundY', linkY⟩ := past key b second fresh
          cases Option.some.inj (foundY'.symm.trans foundY)
          exact linkY.version
      subst firstKept
      rw [version]
      exact lineage.spent older key a y foundX foundY back
  · intro older a b first second
    rcases successor older a first with ⟨rfl, rfl⟩ | ⟨notId, pastA⟩
    · rcases successor _ b second with ⟨_, rfl⟩ | ⟨other, _⟩
      · rfl
      · exact absurd rfl other
    · rcases successor older b second with ⟨same, _⟩ | ⟨_, pastB⟩
      · exact absurd same notId
      · exact lineage.unique older a b pastA pastB

theorem moved (lineage : Lineage env before) (step : Moved env before after) : Lineage env after := by
  cases step with
  | kept same => rwa [same]
  | settled id old new found pending link final same =>
    rw [same]
    exact lineage.settled found pending link
  | replaced id old gone new found pending link invalid named opened linked newer table drawn =>
    exact lineage.replaced found pending link invalid named linked newer table drawn

theorem of_run (lineage : Lineage env desk) (requests : List Request) : Lineage env (desk.after env requests) := by
  induction requests generalizing desk with
  | nil => exact lineage
  | cons request rest ih => exact ih (lineage.moved (Request.moved desk request))

end Lineage

theorem Moved.keeps (step : Moved env before after) (lineage : Lineage env before) (found : before.approvals.get? id = some row) (done : row.status ≠ .pending) :
    after.approvals.get? id = some row := by
  cases step with
  | kept same => rwa [same]
  | settled other old new there pending link final same =>
    rw [same]
    rw [get?_set, if_neg]
    · exact found
    · grind
  | replaced other old gone new there pending link invalid named opened linked newer table drawn =>
    rw [table, get?_set, if_neg, get?_set, if_neg]
    · exact found
    · grind
    · rintro rfl
      have absent := (lineage.drawnAnew before.drawn le_rfl).2.1
      simp [found] at absent

theorem Lineage.keeps (lineage : Lineage env desk)
    (found : desk.approvals.get? id = some row) (done : row.status ≠ .pending) (requests : List Request) :
    (desk.after env requests).approvals.get? id = some row := by
  induction requests generalizing desk with
  | nil => exact found
  | cons request rest ih =>
    have step : Moved env desk (request.next env desk) := Request.moved desk request
    exact ih (lineage.moved step) (step.keeps lineage found done)

theorem validateCommittedEffect_approved {request : CommitRequest}
    (accepted : validateCommittedEffect env approval request = .ok effect) : approval.status = .approved := by
  obtain ⟨_, granted, _⟩ := except_bind_ok accepted
  unfold checkGrant at granted
  by_cases status : approval.status = .approved
  · exact status
  · by_cases stale : approval.status = .stale
    · simp [stale] at granted
    · simp [status, stale] at granted

theorem Lineage.one_live (lineage : Lineage env desk) {root a b : String} (first : Chain desk root a)
    (second : Chain desk root b) (liveA : Live desk a) (liveB : Live desk b) : a = b := by
  have last : ∀ id, Live desk id → ∀ newer, ¬ ReplacedBy desk id newer := by
    rintro id ⟨row, found, status⟩ newer ⟨old, new, there, behind, replaces⟩
    have invalid := (lineage.spent id newer row new found behind replaces).1
    rw [invalid] at status
    rcases status with pending | approved
    · cases pending
    · cases approved
  have deterministic : Relator.RightUnique (ReplacedBy desk) := fun _ _ _ left right => lineage.unique _ _ _ left right
  rcases Relation.ReflTransGen.total_of_right_unique deterministic first second with path | path
  · rcases Relation.ReflTransGen.cases_head path with same | ⟨next, replaced, _⟩
    · exact same
    · exact absurd replaced (last a liveA next)
  · rcases Relation.ReflTransGen.cases_head path with same | ⟨next, replaced, _⟩
    · exact same.symm
    · exact absurd replaced (last b liveB next)

/-- Whatever is edited and decided after the start: one approval of the chain at most is open or
    granted, versions grow from each row to its replacement, and an invalidated approval is refused
    by every later commit and every later consumption. -/
theorem chains_are_linear {root : String} (start : Start env desk root) (requests : List Request) :
    (∀ a b, Chain (desk.after env requests) root a → Chain (desk.after env requests) root b →
      Live (desk.after env requests) a → Live (desk.after env requests) b → a = b) ∧
    (∀ older newer old new, Chain (desk.after env requests) root older →
      (desk.after env requests).approvals.get? older = some old →
      (desk.after env requests).approvals.get? newer = some new → new.replaces = older →
      old.effectVersion < new.effectVersion) ∧
    (∀ id row, Chain (desk.after env requests) root id → (desk.after env requests).approvals.get? id = some row →
      row.status = .invalidated → ∀ more, ∃ later,
        ((desk.after env requests).after env more).approvals.get? id = some later ∧
          (∀ request effect, validateCommittedEffect env later request ≠ .ok effect) ∧
          ∀ run nodeId vars pendingTool result,
            checkApprovalForNode env (some later.toApprovalRequest) run nodeId vars pendingTool ≠ .ok result) := by
  have lineage := start.lineage.of_run requests
  refine ⟨?_, ?_, ?_⟩
  · intro a b first second liveA liveB
    exact lineage.one_live first second liveA liveB
  · intro older newer old new _ found there replaces
    exact (lineage.spent older newer old new found there replaces).2
  · intro id row _ found invalid more
    have done : row.status ≠ .pending := by simp [invalid]
    refine ⟨row, lineage.keeps found done more, ?_, ?_⟩
    · intro request effect accepted
      have approved := validateCommittedEffect_approved accepted
      simp [invalid] at approved
    · rintro run nodeId vars pendingTool ⟨approval, tool⟩ accepted
      unfold checkApprovalForNode at accepted
      simp [invalid] at accepted

def deskEnv : Env := { Workflow.stillEnv with argumentsHash := Json.digest }

def mailArguments : Dict Json :=
  [("connector_installation_id", .str "mailbox"), ("gmail_draft_id", .str "draft"),
    ("to", .arr [.str "ann@example.com"]), ("subject", .str "Offer"), ("body", .str "Dear Ann")]

/-- An approval of one email, asked for by the tool node `send` of the run `run`. -/
def mailApproval : BoundApproval :=
  { id := "root", projectId := none, taskId := none, runId := none, issueLinkId := none,
    requestedByUserId := some "owner", approvedByUserId := none, approvalType := "tool:gmail.send_draft",
    status := .pending, reason := none,
    payloadJson := [("workflow_run_id", .str "run"), ("workflow_node_id", .str "send"),
      ("action_key", .str "gmail.send_draft")],
    effectHash := none, effectVersion := 1, preconditionFingerprint := .null, expiresAt := some 1000,
    proposedEffectJson := (canonicalEmailActionArguments mailArguments).toOption }

def mailRun : Workflow.WorkflowRun :=
  { id := "run", workflowId := "mail", workflowVersionId := "v", projectId := none, taskId := none,
    status := .waitingApproval, currentNodeId := some "send",
    contextJson := { input := [], completed := [], testMode := false, simulateExternalWrites := false,
                     environment := none,
                     vars := [("pending_tool", .obj [("node_id", .str "send"),
                       ("tool_slug", .str "gmail.send_draft"), ("params", .obj mailArguments)])] },
    resultJson := [], createdBy := some "owner" }

def mailDesk : Desk :=
  { approvals := [("root", mailApproval)], runs := [("run", mailRun)],
    drafts := [⟨"owner", "mailbox", "draft", "", "", 1, "current"⟩] }

theorem mailDesk_start : Start deskEnv mailDesk "root" := by
  have only : ∀ id row, mailDesk.approvals.get? id = some row → id = "root" ∧ row = mailApproval := by
    intro id row found
    have member := Dict.mem_of_get? found
    simpa [mailDesk] using member
  have unlinked : mailApproval.replaces = "" := by decide
  have length (n : Nat) : (deskEnv.uuid4 n).toList = replicate (n + 1) 'r' := String.toList_ofList ..
  have nonempty (n : Nat) : deskEnv.uuid4 n ≠ "" := by
    intro empty
    have chars := length n
    simp [empty] at chars
  refine ⟨⟨mailApproval, rfl, rfl⟩, ?_, ?_, ?_⟩
  · intro id row found
    obtain ⟨rfl, rfl⟩ := only id row found
    exact ⟨rfl, by decide⟩
  · rintro older newer ⟨old, new, first, second, replaces⟩
    obtain ⟨rfl, rfl⟩ := only older old first
    obtain ⟨rfl, rfl⟩ := only newer new second
    simp [unlinked] at replaces
  · intro n _
    refine ⟨nonempty n, ?_, ?_⟩
    · show (if "root" = deskEnv.uuid4 n then some mailApproval else none) = none
      rw [if_neg]
      intro same
      have chars := length n
      rw [← same] at chars
      cases n <;> simp [replicate_succ] at chars
    · grind

def editAndApprove : List Request :=
  [.edit "owner" "root" [("subject", .str "Better offer")] (.ok ⟨⟩) 0,
    .decide "owner" "r" .approved none ⟨true, .ok ⟨⟩, fun _ => .ok none⟩ 1]

theorem editAndApprove_links :
    ((mailDesk.after deskEnv editAndApprove).approvals.map fun entry =>
      (entry.1, entry.2.status, entry.2.replaces)) = [("root", .invalidated, ""), ("r", .approved, "root")] := by
  decide +kernel

theorem edited_approval_alone :
    Live (mailDesk.after deskEnv editAndApprove) "r" ∧
      ∀ other, Chain (mailDesk.after deskEnv editAndApprove) "root" other →
        Live (mailDesk.after deskEnv editAndApprove) other → other = "r" := by
  have links := editAndApprove_links
  obtain ⟨⟨firstId, old⟩, ⟨secondId, new⟩, table⟩ : ∃ x y, (mailDesk.after deskEnv editAndApprove).approvals = [x, y] := by
    have length := congrArg length links
    rw [length_map] at length
    exact length_eq_two.mp length
  simp only [table, map_cons, map_nil, cons.injEq, Prod.mk.injEq, and_true] at links
  obtain ⟨⟨rfl, _, _⟩, rfl, approved, replaces⟩ := links
  have found : (mailDesk.after deskEnv editAndApprove).approvals.get? "root" = some old := by
    rw [table]
    rfl
  have there : (mailDesk.after deskEnv editAndApprove).approvals.get? "r" = some new := by
    rw [table]
    rfl
  have live : Live (mailDesk.after deskEnv editAndApprove) "r" := ⟨new, there, .inr approved⟩
  have replaced : Chain (mailDesk.after deskEnv editAndApprove) "root" "r" :=
    Relation.ReflTransGen.single ⟨old, new, found, there, replaces⟩
  refine ⟨live, fun other inside open_ => ?_⟩
  exact (chains_are_linear mailDesk_start editAndApprove).1 other "r" inside replaced open_ live

end Troop.Approvals
