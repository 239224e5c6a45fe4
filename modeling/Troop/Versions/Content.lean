import Troop.Versions.Closure

namespace Troop.Versions

open Packages (sortedNode sortedEdge)
open List
open Json (asObj? sortKeys sortMembers str)

section Content

def content (members : Dict Json) : Dict Json := Json.sortMembers members

theorem sortItems_eq_map (items : List Json) : Json.sortItems items = items.map Json.sortKeys := by
  induction items with
  | nil => rfl
  | cons item rest ih => rw [Json.sortItems, ih, map_cons]

theorem sortItems_objects (items : List (Dict Json)) :
    Json.sortItems (items.map .obj) = (items.map content).map .obj := by
  rw [sortItems_eq_map, map_map, map_map]
  apply map_congr_left
  intro item _
  show sortKeys (.obj item) = .obj (sortMembers item)
  rw [sortKeys]

theorem get?_content (members : Dict Json) (key : String) :
    (content members).get? key = (members.get? key).map Json.sortKeys := Json.get?_sortMembers members key

theorem get_content (members : Dict Json) (key : String) : (content members).get key = (members.get key).sortKeys := by
  unfold Dict.get
  rw [get?_content]
  cases members.get? key with
  | _ => rfl

theorem content_eq_sortByKey (members : Dict Json) :
    content members = Dict.sortByKey (members.map fun entry => (entry.1, entry.2.sortKeys)) := by
  induction members with
  | nil => rfl
  | cons entry rest ih =>
    have tail : sortMembers rest = content rest := rfl
    rw [content, sortMembers, tail, ih]
    rfl

variable (d : Dict Json)

theorem insertSorted_map (key : String) (value : Json) :
    (d.insertSorted key value).map (fun entry => (entry.1, entry.2.sortKeys)) =
      Dict.insertSorted (d.map fun entry => (entry.1, entry.2.sortKeys)) key value.sortKeys := by
  induction d with
  | nil => rfl
  | cons head rest ih =>
    unfold Dict.insertSorted
    split <;> simp_all

theorem sortByKey_map :
    (Dict.sortByKey d).map (fun entry => (entry.1, entry.2.sortKeys)) =
      Dict.sortByKey (d.map fun entry => (entry.1, entry.2.sortKeys)) := by
  induction d with
  | nil => rfl
  | cons entry rest ih =>
    show ((Dict.sortByKey rest).insertSorted entry.1 entry.2).map _ = _
    rw [insertSorted_map, ih]
    rfl

theorem content_sortByKey : content (Dict.sortByKey d) = content d := by
  rw [content_eq_sortByKey, content_eq_sortByKey, sortByKey_map, (Dict.sortByKey_sorted _).sortByKey]

theorem sortKeys_sortByKey : (Json.obj (Dict.sortByKey d)).sortKeys = (Json.obj d).sortKeys := by
  have same := content_sortByKey d
  unfold content at same
  rw [sortKeys, sortKeys, same]

theorem content_set {d : Dict Json} {key : String} {value other : Json} (found : d.get? key = some value)
    (same : other.sortKeys = value.sortKeys) : content (d.set key other) = content d := by
  have entries : (d.set key other).map (fun entry => (entry.1, entry.2.sortKeys)) =
      d.map fun entry => (entry.1, entry.2.sortKeys) := by
    induction d with
    | nil => cases found
    | cons head rest ih =>
      obtain ⟨k, v⟩ := head
      rw [Dict.get?_cons] at found
      unfold Dict.set
      by_cases named : k = key <;> simp_all
  rw [content_eq_sortByKey, content_eq_sortByKey, entries]

theorem content_sortedNode (node : Dict Json) : content (sortedNode node) = content node := by
  unfold sortedNode
  split
  · rename_i config read
    unfold Dict.get at read
    cases found : node.get? "config" with
    | none => simp [found] at read
    | some value =>
      rw [found] at read
      obtain rfl : value = .obj config := read
      exact content_set found (sortKeys_sortByKey config)
  · rfl

end Content

section Edges

def endKeys : List String := ["from", "to", "source", "target"]

def otherFields (edge : Dict Json) : Dict Json := edge.filter fun entry => entry.1 ∉ endKeys

def endTexts (edge : Dict Json) : String × String :=
  (((edge.get "from").pyOr (edge.get "source")).strOrEmpty, ((edge.get "to").pyOr (edge.get "target")).strOrEmpty)

def edgeContent (edge : Dict Json) : (String × String) × Dict Json := (endTexts edge, content (otherFields edge))

def rebuilt (view : (String × String) × Dict Json) : Dict Json :=
  (view.2.insertSorted "to" (.str view.1.2)).insertSorted "from" (.str view.1.1)

def viewOf (stored : Dict Json) : (String × String) × Dict Json :=
  (((stored.get "from").pyStr, (stored.get "to").pyStr), stored.filter fun entry => entry.1 ∉ endKeys)

theorem filter_insertSorted (d : Dict Json) {key : String} (value : Json) {keep : String → Bool}
    (left : keep key = false) :
    (d.insertSorted key value).filter (fun entry => keep entry.1) = d.filter fun entry => keep entry.1 := by
  induction d with
  | nil => simp [Dict.insertSorted, left]
  | cons head rest ih =>
    unfold Dict.insertSorted
    split
    · rw [filter_cons, filter_cons, ih]
    · simp_all

theorem content_sortedEdge (edge : Dict Json) : content (sortedEdge edge) = rebuilt (edgeContent edge) := by
  have others : content (Dict.sortByKey (otherFields edge)) = content (otherFields edge) := content_sortByKey _
  have stored : content (sortedEdge edge) =
      ((content (Dict.sortByKey (otherFields edge))).insertSorted "to" (str (endTexts edge).2).sortKeys).insertSorted
        "from" (str (endTexts edge).1).sortKeys := by
    rfl
  rw [stored, others, Json.sortKeys_str, Json.sortKeys_str]
  rfl

variable (view : (String × String) × Dict Json)

theorem rebuilt_from : (rebuilt view).get "from" = .str view.1.1 := by
  simp [rebuilt, Dict.get, Dict.get?_insertSorted]

theorem rebuilt_to : (rebuilt view).get "to" = .str view.1.2 := by
  simp [rebuilt, Dict.get, Dict.get?_insertSorted]

theorem content_keys {d : Dict Json} {entry : String × Json} (member : entry ∈ content d) :
    ∃ value, (entry.1, value) ∈ d := by
  rw [content_eq_sortByKey] at member
  obtain ⟨source, among, rfl⟩ := mem_map.mp (Dict.mem_sortByKey member)
  exact ⟨source.2, among⟩

theorem viewOf_rebuilt (edge : Dict Json) : viewOf (rebuilt (edgeContent edge)) = edgeContent edge := by
  have kept : ∀ entry ∈ content (otherFields edge), decide (entry.1 ∉ endKeys) = true := by
    intro entry member
    obtain ⟨value, among⟩ := content_keys member
    exact (mem_filter.mp among).2
  unfold viewOf
  rw [rebuilt_from, rebuilt_to]
  unfold rebuilt edgeContent
  rw [@filter_insertSorted _ "from" _ (fun key => decide (key ∉ endKeys)) (by decide),
    @filter_insertSorted _ "to" _ (fun key => decide (key ∉ endKeys)) (by decide), filter_eq_self.mpr kept]
  rfl

theorem filter_insertSorted_of_kept {d : Dict Json} (sorted : d.Sorted) {key : String} (value : Json)
    {keep : String → Bool} (kept : keep key = true) :
    (d.insertSorted key value).filter (fun entry => keep entry.1) =
      Dict.insertSorted (d.filter fun entry => keep entry.1) key value := by
  induction d with
  | nil => simp [Dict.insertSorted, kept]
  | cons head rest ih =>
    obtain ⟨first, others⟩ := pairwise_cons.mp sorted
    by_cases before : head.1.toList < key.toList
    · have inserted : Dict.insertSorted (head :: rest) key value = head :: Dict.insertSorted rest key value :=
        if_pos before
      rw [inserted, filter_cons, filter_cons, ih others]
      split
      · exact (if_pos before).symm
      · rfl
    · have inserted : Dict.insertSorted (head :: rest) key value = (key, value) :: head :: rest := if_neg before
      rw [inserted, filter_cons, if_pos kept]
      apply (Dict.insertSorted_first value _).symm
      intro entry member
      rcases mem_cons.mp (mem_filter.mp member).1 with rfl | later
      · exact before
      · grind

theorem filter_sortByKey (d : Dict Json) (keep : String → Bool) :
    (Dict.sortByKey d).filter (fun entry => keep entry.1) = Dict.sortByKey (d.filter fun entry => keep entry.1) := by
  induction d with
  | nil => rfl
  | cons entry rest ih =>
    show ((Dict.sortByKey rest).insertSorted entry.1 entry.2).filter _ = _
    rw [filter_cons]
    cases kept : keep entry.1 with
    | true =>
      rw [filter_insertSorted_of_kept (Dict.sortByKey_sorted rest) entry.2 kept, ih]
      rfl
    | false =>
      rw [filter_insertSorted _ entry.2 kept, ih]
      rfl

theorem otherFields_content (edge : Dict Json) : otherFields (content edge) = content (otherFields edge) := by
  unfold otherFields
  rw [content_eq_sortByKey, content_eq_sortByKey, filter_sortByKey _ fun key => decide (key ∉ endKeys), filter_map]
  rfl

theorem kept_contents {keep : Dict Json → Bool} (same : ∀ members, keep (content members) = keep members) (items : List Json) :
    ((items.filterMap Json.asObj?).filter keep).map content =
      ((items.map Json.sortKeys).filterMap Json.asObj?).filter keep := by
  have objects : (items.map sortKeys).filterMap asObj? = (items.filterMap asObj?).map content := by
    rw [filterMap_map, map_filterMap]
    apply filterMap_congr
    intro item _
    cases item with
    | obj members =>
      rfl
    | _ =>
      rfl
  rw [objects, filter_map]
  congr 1
  apply filter_congr
  intro members _
  exact (same members).symm

theorem keptNodes_contents (nodes : List Json) : (keptNodes nodes).map content =
    ((nodes.map Json.sortKeys).filterMap Json.asObj?).filter fun node => (node.get "id").truthy := by
  apply kept_contents
  intro members
  rw [get_content, Json.truthy_sortKeys]

theorem keptEdges_contents (edges : List Json) : (keptEdges edges).map content =
    ((edges.map Json.sortKeys).filterMap Json.asObj?).filter fun edge =>
      ((edge.get "from").pyOr (edge.get "source")).truthy := by
  apply kept_contents
  intro members
  rw [get_content, get_content]
  unfold Json.pyOr
  rw [Json.truthy_sortKeys]
  split <;> rw [Json.truthy_sortKeys]

end Edges

end Troop.Versions
