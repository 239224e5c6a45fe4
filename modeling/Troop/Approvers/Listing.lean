import Troop.Approvers.Resolver
import Troop.Pagination.Pages
import Troop.Python.Merging

namespace Troop.Approvers.Listing

open Pagination
open List

structure ApprovalRequest where
  id : String
  createdAt : Int
  projectId : Option String
  workspaceId : Option String
  requestedByUserId : Option String
  status : String
deriving DecidableEq

def tokenFromCreatedAtId (row : ApprovalRequest) : CursorToken := ⟨row.createdAt, row.id⟩

def place (row : ApprovalRequest) : Int ×ₗ String := (tokenFromCreatedAtId row).key

/-- `APPROVALS_LIST_DEFAULT_LIMIT`, `APPROVALS_LIST_MAX_LIMIT` -/
structure Settings where
  defaultLimit : Nat := 50
  maxLimit : Nat := 100

structure Tables where
  directory : Directory
  approvals : List ApprovalRequest
  ids : (approvals.map ApprovalRequest.id).Nodup

def resolveQueryLimit (limit : Option Nat) (default maximum : Nat) : Nat :=
  let effective :=
    match limit with
    | none => default
    | some 0 => maximum
    | some limit => limit
  max 1 (min effective maximum)

namespace Tables

variable (tables : Tables)

/-- `_approval_owner_clause` -/
def ownerClause (ownerId : String) (row : ApprovalRequest) : Bool :=
  tables.directory.projects.any (fun project => row.projectId = some project.id ∧ project.ownerId = ownerId) ∨
    row.projectId = none ∧ row.requestedByUserId = some ownerId

def listMembershipsForUser (userId : String) : List WorkspaceMembership :=
  tables.directory.memberships.filter fun membership =>
    tables.directory.workspaces.any (·.id = membership.workspaceId) ∧ membership.userId = userId ∧
      membership.status = "active"

def decidableWorkspaceIds (userId : String) : List String :=
  ((tables.listMembershipsForUser userId).filter fun membership => mayDecide membership.role).map
    WorkspaceMembership.workspaceId

def approverClause (userId : String) (row : ApprovalRequest) : Bool :=
  (tables.decidableWorkspaceIds userId).any fun id => row.workspaceId = some id

def stream (clause : ApprovalRequest → Bool) (status : Option String) (cap : Nat) (cursorCreatedAt : Option Int)
    (cursorId : Option String) : List ApprovalRequest :=
  (descending place (tables.approvals.filter fun row => clause row && ((status.filter (· ≠ "")).all (row.status = ·) &&
    beyondCursor tokenFromCreatedAtId cursorCreatedAt cursorId row))).take (fetchLimit cap)

def listApprovals (settings : Settings) (ownerId : String) (status : Option String) (limit : Option Nat)
    (cursorCreatedAt : Option Int) (cursorId : Option String) : List ApprovalRequest :=
  let cap := resolveQueryLimit limit settings.defaultLimit settings.maxLimit
  let ownerRows := tables.stream (tables.ownerClause ownerId) status cap cursorCreatedAt cursorId
  if tables.decidableWorkspaceIds ownerId = [] then ownerRows.take cap
  else
    let approverRows := tables.stream (tables.approverClause ownerId) status cap cursorCreatedAt cursorId
    (descending place (mergeUnique ApprovalRequest.id ownerRows approverRows)).take cap

/-- The endpoint `list_approvals`: a page and the next cursor. -/
def approvalsPage (settings : Settings) (userId : String) (limit : Nat) (cursor : Option CursorToken) :
    List ApprovalRequest × Option CursorToken :=
  let effectiveLimit := resolveQueryLimit (some limit) settings.defaultLimit settings.maxLimit
  let rows := tables.listApprovals settings userId none (some effectiveLimit) (cursor.map CursorToken.createdAt)
    (cursor.map CursorToken.id)
  paginateRows tokenFromCreatedAtId rows effectiveLimit

def visible (userId : String) : List ApprovalRequest :=
  tables.approvals.filter fun row => tables.ownerClause userId row || tables.approverClause userId row

def WalksToEnd (settings : Settings) (userId : String) (limit : Nat) : Prop :=
  ∃ rounds pages, walk (tables.approvalsPage settings userId limit) rounds none = some pages ∧
    Falling place pages.flatten ∧ ∀ row, row ∈ pages.flatten ↔ row ∈ tables.visible userId

end Tables

section Streams

variable {tables : Tables} {clause : ApprovalRequest → Bool} {status : Option String} {cap : Nat}
  {cursorCreatedAt : Option Int} {cursorId : Option String}

theorem keyed_of_ids {rows : List ApprovalRequest} (distinct : (rows.map ApprovalRequest.id).Nodup) :
    Pagination.Keyed place rows := by
  apply Nodup.of_map fun key : Int ×ₗ String => (ofLex key).2
  rwa [map_map]

theorem same_of_id {one other : ApprovalRequest} (first : one ∈ tables.approvals) (second : other ∈ tables.approvals)
    (same : one.id = other.id) : one = other := inj_on_of_nodup_map tables.ids first second same

theorem mem_merged {ownerRows approverRows : List ApprovalRequest} (owned : ∀ row ∈ ownerRows, row ∈ tables.approvals)
    (decided : ∀ row ∈ approverRows, row ∈ tables.approvals) (distinct : (approverRows.map ApprovalRequest.id).Nodup)
    (row : ApprovalRequest) :
    row ∈ mergeUnique ApprovalRequest.id ownerRows approverRows ↔ row ∈ ownerRows ∨ row ∈ approverRows := by
  rw [mergeUnique_eq distinct, mem_append, mem_filter, decide_eq_true_eq]
  constructor
  · exact Or.imp_right And.left
  intro either
  rcases either with first | second
  · exact .inl first
  by_cases seen : row.id ∈ ownerRows.map ApprovalRequest.id
  · obtain ⟨known, member, same⟩ := mem_map.mp seen
    rw [← same_of_id (owned known member) (decided row second) same]
    exact .inl member
  · exact .inr ⟨second, seen⟩

theorem stream_eq : tables.stream clause status cap cursorCreatedAt cursorId =
    ((descending place (tables.approvals.filter fun row => (status.filter (· ≠ "")).all (row.status = ·) &&
      beyondCursor tokenFromCreatedAtId cursorCreatedAt cursorId row)).filter clause).take (fetchLimit cap) := by
  have both : ∀ rest : ApprovalRequest → Bool, (tables.approvals.filter fun row => clause row && rest row) =
      (tables.approvals.filter rest).filter clause := fun rest => (filter_filter).symm
  rw [Tables.stream, both, descending_filter ((keyed_of_ids tables.ids).filter _)]

theorem mem_stream {rows : List ApprovalRequest} {row : ApprovalRequest} {n : Nat} (first : row ∈ rows.take n)
    (also : clause row = true) : row ∈ (rows.filter clause).take (n + 1) :=
  take_subset_take_left _ (Nat.le_succ n) (mem_take_filter first also)

end Streams

section Listing

variable {tables : Tables} {settings : Settings} {userId : String}

theorem take_merged {rows : List ApprovalRequest} (falling : Falling place rows)
    (within : ∀ row ∈ rows, row ∈ tables.approvals) (owner approver : ApprovalRequest → Bool) (cap : Nat) :
    (descending place (mergeUnique ApprovalRequest.id ((rows.filter owner).take (cap + 1))
      ((rows.filter approver).take (cap + 1)))).take cap = (rows.filter fun row => owner row || approver row).take cap := by
  have shown : ∀ clause : ApprovalRequest → Bool, ∀ row ∈ (rows.filter clause).take (cap + 1), row ∈ rows ∧ clause row = true :=
    fun clause row member => mem_filter.mp (mem_of_mem_take member)
  have ids : ∀ clause : ApprovalRequest → Bool, (((rows.filter clause).take (cap + 1)).map ApprovalRequest.id).Nodup := by
    intro clause
    have sublist : ((rows.filter clause).take (cap + 1)).Sublist rows := (take_sublist _ _).trans filter_sublist
    apply Nodup.map_on _ (falling.sublist sublist).nodup
    intro one first other second same
    exact same_of_id (within one (sublist.subset first)) (within other (sublist.subset second)) same
  have members := mem_merged (fun row member => within row (shown owner row member).1)
    (fun row member => within row (shown approver row member).1) (ids approver)
  have sorted := falling_descending (keyed_of_ids
    (@nodup_mergeUnique _ _ _ _ _ ((rows.filter approver).take (cap + 1)) (ids owner)))
  have either := falling.sublist (filter_sublist (p := fun row => owner row || approver row))
  have chosen : descending place (mergeUnique ApprovalRequest.id ((rows.filter owner).take (cap + 1))
      ((rows.filter approver).take (cap + 1))) =
      (rows.filter fun row => owner row || approver row).filter fun row =>
        row ∈ mergeUnique ApprovalRequest.id ((rows.filter owner).take (cap + 1)) ((rows.filter approver).take (cap + 1)) := by
    apply sorted.ext (either.sublist filter_sublist)
    intro row
    rw [mem_descending, mem_filter, decide_eq_true_eq]
    constructor
    · intro member
      refine ⟨mem_filter.mpr ?_, member⟩
      rcases (members row).mp member with owned | decided
      · exact ⟨(shown owner row owned).1, by rw [(shown owner row owned).2, Bool.true_or]⟩
      · exact ⟨(shown approver row decided).1, by rw [(shown approver row decided).2, Bool.or_true]⟩
    · exact And.right
  rw [chosen]
  apply take_of_sublist either.nodup filter_sublist
  intro row first
  have passes := (mem_filter.mp (mem_of_mem_take first)).2
  have narrowed : ∀ clause : ApprovalRequest → Bool, (∀ row, clause row = true → (owner row || approver row) = true) →
      (rows.filter fun row => owner row || approver row).filter clause = rows.filter clause := by
    intro clause implied
    rw [filter_filter]
    apply filter_congr
    intro row _
    cases holds : clause row with
    | false => rfl
    | true => rw [implied row holds, Bool.and_self]
  rw [mem_filter, decide_eq_true_eq]
  refine ⟨mem_of_mem_take first, (members row).mpr ?_⟩
  rcases (Bool.or_eq_true _ _).mp passes with owned | decided
  · left
    rw [← narrowed owner fun row holds => by rw [holds, Bool.true_or]]
    exact mem_stream first owned
  · right
    rw [← narrowed approver fun row holds => by rw [holds, Bool.or_true]]
    exact mem_stream first decided

theorem listApprovals_eq (status : Option String) (limit : Option Nat) (cursorCreatedAt : Option Int) (cursorId : Option String) :
    tables.listApprovals settings userId status limit cursorCreatedAt cursorId =
      (descending place ((tables.visible userId).filter fun row => (status.filter (· ≠ "")).all (row.status = ·) &&
        beyondCursor tokenFromCreatedAtId cursorCreatedAt cursorId row)).take
          (resolveQueryLimit limit settings.defaultLimit settings.maxLimit) := by
  have all := keyed_of_ids tables.ids
  have swapped : ∀ rest : ApprovalRequest → Bool, descending place ((tables.visible userId).filter rest) =
      (descending place (tables.approvals.filter rest)).filter fun row =>
        tables.ownerClause userId row || tables.approverClause userId row := by
    intro rest
    rw [← descending_filter (all.filter rest), Tables.visible, filter_filter, filter_filter]
    congr 2
    funext row
    exact Bool.and_comm _ _
  have positive : 1 ≤ resolveQueryLimit limit settings.defaultLimit settings.maxLimit := le_max_left _ _
  have fetched : fetchLimit (resolveQueryLimit limit settings.defaultLimit settings.maxLimit) =
      resolveQueryLimit limit settings.defaultLimit settings.maxLimit + 1 := by rw [fetchLimit, max_eq_right positive]
  rw [Tables.listApprovals, swapped]
  rw [stream_eq, stream_eq, fetched]
  by_cases alone : tables.decidableWorkspaceIds userId = []
  · have undecided : ∀ row, tables.approverClause userId row = false := by
      intro row
      rw [Tables.approverClause, alone, any_nil]
    have owned : (fun row => tables.ownerClause userId row || tables.approverClause userId row) =
        tables.ownerClause userId := by
      funext row
      rw [undecided row, Bool.or_false]
    rw [if_pos alone, owned, take_take, Nat.min_eq_left (Nat.le_succ _)]
  · rw [if_neg alone]
    apply take_merged (falling_descending (all.filter _))
    intro row member
    exact mem_of_mem_filter (mem_descending.mp member)

theorem walk_eq {limit : Nat} (positive : 1 ≤ limit) (allowed : limit ≤ settings.maxLimit) (rounds : Nat) :
    walk (tables.approvalsPage settings userId limit) (rounds + 1) none =
      some [(descending place (tables.visible userId)).take limit] := by
  have resolved : resolveQueryLimit (some limit) settings.defaultLimit settings.maxLimit = limit := by
    cases limit with
    | zero => omega
    | succ limit =>
      show max 1 (min (limit + 1) settings.maxLimit) = limit + 1
      omega
  have first : tables.approvalsPage settings userId limit none =
      ((descending place (tables.visible userId)).take limit, none) := by
    have whole : (tables.visible userId).filter (fun row => ((none : Option String).filter (· ≠ "")).all (row.status = ·) &&
        beyondCursor tokenFromCreatedAtId none none row) = tables.visible userId :=
      filter_eq_self.mpr fun _ _ => rfl
    have short : ¬ limit < ((descending place (tables.visible userId)).take limit).length := by
      simp_all
    have listed := @listApprovals_eq tables settings userId none (some limit) none none
    rw [resolved, whole] at listed
    unfold Tables.approvalsPage
    rw [resolved]
    show paginateRows tokenFromCreatedAtId (tables.listApprovals settings userId none (some limit) none none) limit = _
    rw [listed, paginateRows, if_neg short]
  rw [walk, first]

/-- The walk ends at its first page, so it returns every visible approval exactly when one page holds them all. -/
theorem walks_to_end_iff (tables : Tables) (settings : Settings) (userId : String) {limit : Nat} (positive : 1 ≤ limit)
    (allowed : limit ≤ settings.maxLimit) :
    tables.WalksToEnd settings userId limit ↔ (tables.visible userId).length ≤ limit := by
  have keyed : Pagination.Keyed place (tables.visible userId) := (keyed_of_ids tables.ids).filter _
  constructor
  · intro ⟨rounds, pages, walked, _, members⟩
    cases rounds with
    | zero => cases walked
    | succ rounds =>
      rw [walk_eq positive allowed] at walked
      have same := Option.some.inj walked
      subst same
      rw [flatten_singleton] at members
      have distinct := (falling_descending keyed).nodup
      have inside : (descending place (tables.visible userId)).Subset ((descending place (tables.visible userId)).take limit) :=
        fun row member => (members row).mpr (mem_descending.mp member)
      have size := (subperm_of_subset distinct inside).length_le
      simp_all
  · intro fits
    have page : (descending place (tables.visible userId)).take limit = descending place (tables.visible userId) := by
      apply take_of_length_le
      rwa [length_descending]
    refine ⟨1, _, walk_eq positive allowed 0, ?_⟩
    rw [flatten_singleton, page]
    exact ⟨falling_descending keyed, fun row => mem_descending⟩

def twoApprovals : Tables where
  directory :=
    { workspaces := [⟨"w", "u", true⟩]
      memberships := [⟨"w", "u", "approver", "active"⟩]
      projects := [⟨"p", "u", none, none⟩]
      oneDefault := by decide
      oneMembership := by decide
      identified := by decide }
  approvals := [⟨"a", 1, some "p", none, none, "pending"⟩, ⟨"b", 1, none, some "w", none, "pending"⟩]
  ids := by decide

theorem two_approvals_fit : 1 ≤ 2 ∧ 2 ≤ ({} : Settings).maxLimit ∧ twoApprovals.WalksToEnd {} "u" 2 :=
  ⟨by decide, by decide, (walks_to_end_iff twoApprovals {} "u" (by decide) (by decide)).mpr (by decide)⟩

theorem second_approval_unreached :
    (∀ rounds, walk (twoApprovals.approvalsPage {} "u" 1) (rounds + 1) none =
      some [[⟨"b", 1, none, some "w", none, "pending"⟩]]) ∧
    ⟨"a", 1, some "p", none, none, "pending"⟩ ∈ twoApprovals.visible "u" ∧
    ¬ (∀ (tables : Tables) (settings : Settings) (userId : String) (limit : Nat), 1 ≤ limit → limit ≤ settings.maxLimit →
      tables.WalksToEnd settings userId limit) := by
  have cut : ∀ rounds, walk (twoApprovals.approvalsPage {} "u" 1) (rounds + 1) none =
      some [[⟨"b", 1, none, some "w", none, "pending"⟩]] := by
    have page : twoApprovals.approvalsPage {} "u" 1 none = ([⟨"b", 1, none, some "w", none, "pending"⟩], none) := by
      decide
    intro rounds
    rw [walk, page]
  have seen : ⟨"a", 1, some "p", none, none, "pending"⟩ ∈ twoApprovals.visible "u" := by decide
  refine ⟨cut, seen, fun claimed => ?_⟩
  obtain ⟨rounds, pages, walked, _, members⟩ := claimed twoApprovals {} "u" 1 (by decide) (by decide)
  cases rounds with
  | zero => cases walked
  | succ rounds => grind

end Listing

end Troop.Approvers.Listing
