import Troop.Retrieval.Ingestion

/-! Where the chunks of a text lie in it. -/

namespace Troop.Retrieval.Indexing

open List

section Segments

variable {α : Type}

def segment (items : List α) (first stop : Nat) : List α := (items.take stop).drop first

theorem getElem?_segment (items : List α) (first stop i : Nat) :
    (segment items first stop)[i]? = if first + i < stop then items[first + i]? else none := by
  unfold segment
  rw [getElem?_drop, getElem?_take]

theorem length_segment {items : List α} {first stop : Nat} (short : stop ≤ items.length) :
    (segment items first stop).length = stop - first := by
  rw [segment, length_drop, length_take, Nat.min_eq_left short]

theorem segment_segment (items : List α) {first stop left right : Nat} (inside : first + right ≤ stop) :
    segment (segment items first stop) left right = segment items (first + left) (first + right) := by
  apply ext_getElem?
  simp only [getElem?_segment]
  grind

theorem trimmed_segment (p : α → Bool) (items : List α) : ∃ first stop, first ≤ stop ∧ stop ≤ items.length ∧
    (items.dropWhile p).rdropWhile p = segment items first stop ∧ (∀ i < first, ∀ item ∈ items[i]?, p item = true) ∧
    (first < stop → ∀ item ∈ items[first]?, p item = false) ∧
    ∀ i, ∀ item ∈ items[i]?, p item = false → first ≤ i ∧ i < stop := by
  obtain ⟨tail, split, blank⟩ := Text.rdropWhile_split p (items.dropWhile p)
  have whole : items.takeWhile p ++ ((items.dropWhile p).rdropWhile p ++ tail) = items := by
    rw [← split, takeWhile_append_dropWhile]
  have headed : ∀ item ∈ ((items.dropWhile p).rdropWhile p).head?, p item = false := by
    intro item isThere
    have first := head?_dropWhile_not p items
    have same : (items.dropWhile p).head? = some item := by
      rw [split, head?_append, Option.mem_def.mp isThere]
      rfl
    simpa [same] using first
  have started : ∀ item ∈ items.takeWhile p, p item = true := fun item isThere => mem_takeWhile_imp isThere
  generalize items.takeWhile p = lead at *
  generalize (items.dropWhile p).rdropWhile p = core at *
  subst whole
  refine ⟨lead.length, lead.length + core.length, Nat.le_add_right _ _, by simp, ?_, ?_, ?_, ?_⟩
  · simp [segment, take_append]
  · intro i less item isThere
    rw [getElem?_append_left less] at isThere
    exact started item (mem_of_getElem? isThere)
  · intro long item isThere
    rw [getElem?_append_right (Nat.le_refl _), Nat.sub_self, getElem?_append_left (by omega),
      ← head?_eq_getElem?] at isThere
    exact headed item isThere
  · intro i item isThere solid
    by_cases early : i < lead.length
    · rw [getElem?_append_left early] at isThere
      simp [started item (mem_of_getElem? isThere)] at solid
    · refine ⟨Nat.not_lt.mp early, ?_⟩
      by_contra late
      rw [getElem?_append_right (by omega), getElem?_append_right (by omega)] at isThere
      simp [blank item (mem_of_getElem? isThere)] at solid

end Segments

section Spans

/-- A window of the loop, and what is left of it: the chunk from `first` to `stop`. -/
structure Span where
  window : Nat
  first : Nat
  stop : Nat

/-- The chunks of a text from a position on: each one the solid part of its window, and together all that is not white space. -/
structure Laid (chars : List Char) (size start : Nat) (spans : List Span) : Prop where
  inside : ∀ span ∈ spans, start ≤ span.window ∧ span.window ≤ span.first ∧ span.first < span.stop ∧
    span.stop ≤ chars.length ∧ span.stop ≤ span.window + size
  stripped : ∀ span ∈ spans, (∀ i, span.window ≤ i → i < span.first → ∀ c ∈ chars[i]?, Text.isSpace c = true) ∧
    ∀ c ∈ chars[span.first]?, Text.isSpace c = false
  rising : (spans.map Span.window).Pairwise (· < ·)
  covering : ∀ i, start ≤ i → ∀ c ∈ chars[i]?, Text.isSpace c = false → ∃ span ∈ spans, span.first ≤ i ∧ i < span.stop

variable {chars : List Char} {size : Nat}

theorem slice_eq_segment (chars : List Char) (first stop : Nat) :
    Text.slice chars first stop = segment chars first stop := by
  have positive (n : Nat) : ¬ (n : Int) < 0 := by omega
  simp [Text.slice, segment, positive]

theorem window_spans {first stop : Nat} (ordered : first ≤ stop) (short : stop ≤ chars.length) (sized : stop ≤ first + size) :
    ∃ spans : List Span,
      (if Text.trim (String.ofList (segment chars first stop)) = "" then []
        else [Text.trim (String.ofList (segment chars first stop))]) =
        spans.map (fun span => String.ofList (segment chars span.first span.stop)) ∧
      (∀ span ∈ spans, span.window = first ∧ first ≤ span.first ∧ span.first < span.stop ∧ span.stop ≤ stop ∧
        (∀ i, first ≤ i → i < span.first → ∀ c ∈ chars[i]?, Text.isSpace c = true) ∧
        ∀ c ∈ chars[span.first]?, Text.isSpace c = false) ∧
      (spans.map Span.window).Pairwise (· < ·) ∧
      ∀ i, first ≤ i → i < stop → ∀ c ∈ chars[i]?, Text.isSpace c = false → ∃ span ∈ spans, span.first ≤ i ∧ i < span.stop := by
  obtain ⟨left, right, some_, within, same, blank, solid, all⟩ := trimmed_segment Text.isSpace (segment chars first stop)
  rw [length_segment short] at within
  have trimmed : Text.trim (String.ofList (segment chars first stop)) =
      String.ofList (segment chars (first + left) (first + right)) := by
    rw [Text.trim, String.toList_ofList, same, segment_segment _ (by omega)]
  have at_ {i : Nat} (early : first ≤ i) (late : i < stop) : (segment chars first stop)[i - first]? = chars[i]? := by
    rw [getElem?_segment, if_pos (by omega), Nat.add_sub_cancel' early]
  have empty : String.ofList (segment chars (first + left) (first + right)) = "" ↔ left = right := by
    rw [← String.ofList_nil, String.ofList_inj, ← length_eq_zero_iff, length_segment (by omega)]
    omega
  rw [trimmed]
  split
  · rename_i vanished
    rw [empty] at vanished
    refine ⟨[], rfl, by simp, Pairwise.nil, ?_⟩
    intro i early late c isThere black
    have between := all (i - first) c (by rwa [at_ early late]) black
    omega
  · rename_i named
    rw [empty] at named
    refine ⟨[⟨first, first + left, first + right⟩], rfl, ?_, pairwise_singleton _ _, ?_⟩
    · intro span isThere
      rw [mem_singleton.mp isThere]
      have long : left < right := by omega
      refine ⟨rfl, Nat.le_add_right _ _, Nat.add_lt_add_left long _, by dsimp only; omega, ?_, ?_⟩
      · intro i early late c isThere
        dsimp only at late
        have near : i - first < left := by omega
        exact blank (i - first) near c (by rwa [at_ early (by omega)])
      · intro c isThere
        have here : (segment chars first stop)[left]? = chars[first + left]? := by rw [getElem?_segment, if_pos (by omega)]
        exact solid (by omega) c (by rwa [here])
    · intro i early late c isThere black
      have between := all (i - first) c (by rwa [at_ early late]) black
      exact ⟨_, mem_singleton_self _, by dsimp only; omega, by dsimp only; omega⟩

theorem splitFrom_laid (opts : ChunkingOptions) (chars : List Char) (sized : 1 ≤ opts.chunkSize) (overlap : 0 ≤ opts.chunkOverlap)
    (start : Nat) : ∃ spans, splitFrom opts chars start = spans.map (fun span => String.ofList (segment chars span.first span.stop)) ∧
      Laid chars opts.chunkSize.toNat start spans := by
  induction left : chars.length - start using Nat.strong_induction_on generalizing start with
  | _ left ih =>
    rw [splitFrom]
    by_cases more : start < chars.length
    · rw [if_pos (by omega)]
      generalize reach : min chars.length (start + opts.chunkSize.toNat) = stop
      have stop_eq : min (chars.length : Int) (start + opts.chunkSize) = stop := by omega
      rw [stop_eq]
      dsimp only
      rw [slice_eq_segment]
      obtain ⟨here, same, inside, rising, covered⟩ := @window_spans chars opts.chunkSize.toNat start stop (by omega) (by omega) (by omega)
      rw [same]
      split
      · refine ⟨here, rfl, ?_, ?_, ?_, ?_⟩
        · intro span isThere
          obtain ⟨window, first, short, within, _⟩ := inside span isThere
          omega
        · intro span isThere
          obtain ⟨window, _, _, _, blank, solid⟩ := inside span isThere
          exact ⟨window ▸ blank, solid⟩
        · exact rising
        · intro i early c isThere black
          have short := (List.getElem?_eq_some_iff.mp isThere).1
          exact covered i early (by omega) c isThere black
      · generalize next : (max ((stop : Int) - opts.chunkOverlap) (start + 1)).toNat = after
        have after_eq : max ((stop : Int) - opts.chunkOverlap) (start + 1) = after := by omega
        rw [after_eq]
        obtain ⟨later, same_later, laid⟩ := ih (chars.length - after) (by omega) after rfl
        rw [same_later, ← map_append]
        refine ⟨here ++ later, rfl, ?_, ?_, ?_, ?_⟩
        · intro span isThere
          rcases mem_append.mp isThere with isHere | isLater
          · obtain ⟨window, first, short, within, _⟩ := inside span isHere
            omega
          · have bounds := laid.inside span isLater
            omega
        · intro span isThere
          rcases mem_append.mp isThere with isHere | isLater
          · obtain ⟨window, _, _, _, blank, solid⟩ := inside span isHere
            exact ⟨window ▸ blank, solid⟩
          · exact laid.stripped span isLater
        · rw [map_append, pairwise_append]
          refine ⟨rising, laid.rising, ?_⟩
          intro window isHere other isLater
          obtain ⟨span, first, rfl⟩ := mem_map.mp isHere
          obtain ⟨span', second, rfl⟩ := mem_map.mp isLater
          have bounds := laid.inside span' second
          have window := (inside span first).1
          omega
        · intro i early c isThere black
          by_cases near : i < stop
          · obtain ⟨span, isHere, between⟩ := covered i early near c isThere black
            exact ⟨span, mem_append_left _ isHere, between⟩
          · obtain ⟨span, isLater, between⟩ := laid.covering i (by omega) c isThere black
            exact ⟨span, mem_append_right _ isLater, between⟩
    · rw [if_neg (by omega)]
      refine ⟨[], rfl, by simp, by simp, by simp, ?_⟩
      intro i early c isThere
      have short := (List.getElem?_eq_some_iff.mp isThere).1
      omega

theorem Laid.firsts {spans : List Span} {start : Nat} (laid : Laid chars size start spans) :
    (spans.map Span.first).Pairwise (· ≤ ·) := by
  rw [pairwise_map]
  refine (pairwise_map.mp laid.rising).imp_of_mem ?_
  intro span later isThere isLater less
  by_contra back
  obtain ⟨_, window, short, within, _⟩ := laid.inside later isLater
  have here := getElem?_eq_getElem (Nat.lt_of_lt_of_le short within)
  have blank := (laid.stripped span isThere).1 later.first (by omega) (by omega) _ here
  simp [(laid.stripped later isLater).2 _ here] at blank

/-- Every chunk is the solid part of a window of the text, the windows start further and further on and the chunks never further
    back, and no character is lost that is not white space. -/
theorem split_covers (opts : ChunkingOptions) (text : String) (sized : 1 ≤ opts.chunkSize) (overlap : 0 ≤ opts.chunkOverlap) :
    (∀ chunk ∈ splitText opts text, chunk ≠ "" ∧ (chunk.length : Int) ≤ opts.chunkSize) ∧ ∃ spans,
      splitText opts text = spans.map (fun span => String.ofList (segment text.toList span.first span.stop)) ∧
      Laid text.toList opts.chunkSize.toNat 0 spans ∧ (spans.map Span.first).Pairwise (· ≤ ·) := by
  obtain ⟨left, right, some_, within, same, _, _, all⟩ := trimmed_segment Text.isSpace text.toList
  have normal : (Text.trim text).toList = segment text.toList left right := by
    rw [Text.trim, String.toList_ofList, same]
  obtain ⟨spans, made, laid⟩ := splitFrom_laid opts (segment text.toList left right) sized overlap 0
  have long := @length_segment _ _ left _ within
  have at_ {i : Nat} (short : i < right - left) : (segment text.toList left right)[i]? = text.toList[left + i]? := by
    rw [getElem?_segment, if_pos (by omega)]
  let moved (span : Span) : Span := ⟨left + span.window, left + span.first, left + span.stop⟩
  have chunks : splitText opts text =
      (spans.map moved).map fun span => String.ofList (segment text.toList span.first span.stop) := by
    rw [splitText, normal, map_map]
    refine made.trans (map_congr_left ?_)
    intro span isThere
    have bounds := laid.inside span isThere
    rw [segment_segment _ (by omega)]
    rfl
  have whole : Laid text.toList opts.chunkSize.toNat 0 (spans.map moved) := by
    refine ⟨?_, ?_, ?_, ?_⟩
    · intro span isThere
      obtain ⟨span, listed, rfl⟩ := mem_map.mp isThere
      have bounds := laid.inside span listed
      dsimp only [moved]
      omega
    · intro span isThere
      obtain ⟨span, listed, rfl⟩ := mem_map.mp isThere
      obtain ⟨_, window, short, inside, _⟩ := laid.inside span listed
      obtain ⟨blank, solid⟩ := laid.stripped span listed
      refine ⟨?_, ?_⟩
      · intro i early late c isThere
        dsimp only [moved] at early late
        apply blank (i - left) (by omega) (by omega)
        rwa [at_ (by omega), Nat.add_sub_cancel' (by omega)]
      · intro c isThere
        apply solid
        rwa [at_ (by omega)]
    · rw [map_map, pairwise_map]
      exact (pairwise_map.mp laid.rising).imp fun less => Nat.add_lt_add_left less left
    · intro i _ c isThere black
      have between := all i c isThere black
      obtain ⟨span, listed, inside⟩ := laid.covering (i - left) (Nat.zero_le _) c
        (by rwa [at_ (by omega), Nat.add_sub_cancel' between.1]) black
      exact ⟨moved span, mem_map_of_mem listed, by dsimp only [moved]; omega, by dsimp only [moved]; omega⟩
  refine ⟨?_, spans.map moved, chunks, whole, whole.firsts⟩
  intro chunk isThere
  rw [chunks] at isThere
  obtain ⟨span, listed, rfl⟩ := mem_map.mp isThere
  have bounds := whole.inside span listed
  have size := @length_segment _ _ span.first _ bounds.2.2.2.1
  constructor
  · rw [← String.ofList_nil, ne_eq, String.ofList_inj, ← length_eq_zero_iff]
    omega
  · rw [String.length_ofList]
    omega

theorem split_covers_short : (∀ chunk ∈ splitText ⟨2, 5⟩ "a  bc", chunk ≠ "" ∧ (chunk.length : Int) ≤ 2) ∧ ∃ spans,
    splitText ⟨2, 5⟩ "a  bc" = spans.map (fun span => String.ofList (segment "a  bc".toList span.first span.stop)) ∧
      Laid "a  bc".toList 2 0 spans ∧ (spans.map Span.first).Pairwise (· ≤ ·) :=
  split_covers ⟨2, 5⟩ "a  bc" (by decide) (by decide)

theorem repeated_start : splitText ⟨2, 1⟩ "a  bc" = ["a", "b", "bc"] ∧
    ¬ ∃ starts : List Nat, starts.Pairwise (· < ·) ∧
      List.Forall₂ (fun (chunk : String) start => chunk.toList <+: "a  bc".toList.drop start) (splitText ⟨2, 1⟩ "a  bc") starts := by
  have last : splitFrom ⟨2, 1⟩ ['a', ' ', ' ', 'b', 'c'] 3 = ["bc"] := by
    rw [splitFrom]
    decide
  have third : splitFrom ⟨2, 1⟩ ['a', ' ', ' ', 'b', 'c'] 2 = ["b", "bc"] := by
    rw [splitFrom]
    exact congrArg ("b" :: ·) last
  have second : splitFrom ⟨2, 1⟩ ['a', ' ', ' ', 'b', 'c'] 1 = ["b", "bc"] := by
    rw [splitFrom]
    exact third
  have chunks : splitText ⟨2, 1⟩ "a  bc" = ["a", "b", "bc"] := by
    unfold splitText
    rw [show (Text.trim "a  bc").toList = ['a', ' ', ' ', 'b', 'c'] by decide, splitFrom]
    exact congrArg ("a" :: ·) second
  refine ⟨chunks, ?_⟩
  rw [chunks]
  rintro ⟨starts, rising, found⟩
  have only (start : Nat) (chunk : List Char) (short : chunk = ['b'] ∨ chunk = ['b', 'c'])
      (isThere : chunk <+: ['a', ' ', ' ', 'b', 'c'].drop start) : start = 3 := by
    rcases start with _ | _ | _ | _ | _ | start <;> rcases short with rfl | rfl <;> simp_all
  obtain _ | ⟨_, _ | ⟨second_at, _ | ⟨third_at, _⟩⟩⟩ := found
  have same := (only _ _ (.inl rfl) second_at).trans (only _ _ (.inr rfl) third_at).symm
  simp [same] at rising

end Spans

end Troop.Retrieval.Indexing
