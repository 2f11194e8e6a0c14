import OtsCmap.Table
import Mathlib.Data.List.Sort
import Mathlib.Algebra.BigOperators.Group.List

/-! The overlap check of `ots_cmap_parse`. Records with identical `(offset, end)` pairs are let
through once (some fonts share one table between a Unicode and an MS record); for the others a
start and an end event each are sorted and swept, and no two extents may be open at once. -/
namespace OtsCmap

def EventLE (a b : Nat × Nat) : Prop := a.1 < b.1 ∨ a.1 = b.1 ∧ a.2 ≤ b.2

instance : DecidableRel EventLE := fun a b =>
  inferInstanceAs (Decidable (a.1 < b.1 ∨ a.1 = b.1 ∧ a.2 ≤ b.2))

instance : IsTotal (Nat × Nat) EventLE := ⟨fun a b => by unfold EventLE; omega⟩

instance : IsTrans (Nat × Nat) EventLE := ⟨fun a b c => by unfold EventLE; omega⟩

def overlapEvents : List CMAPSubtableHeader → List (Nat × Nat) → Except Stop (List (Nat × Nat))
  | [], _ => pure []
  | header :: rest, uniqChecker => do
    let endByte ← addNoWrap 32 header.offset header.length
    if (header.offset, endByte) ∈ uniqChecker then
      -- Sometimes Unicode table and MS table share exactly the same data.
      overlapEvents rest uniqChecker
    else do
      let events ← overlapEvents rest ((header.offset, endByte) :: uniqChecker)
      pure ((header.offset, 1) :: (endByte, 0) :: events)

def weight (event : Nat × Nat) : Int := if event.2 = 0 then -1 else 1

def sweep : List (Nat × Nat) → Int → Bool
  | [], _ => true
  | event :: rest, overlapCount =>
    decide (overlapCount + weight event ≤ 1) && sweep rest (overlapCount + weight event)

def checkOverlap (headers : List CMAPSubtableHeader) : Except Stop Unit := do
  let events ← overlapEvents headers []
  failIf (!sweep (events.insertionSort EventLE) 0)

def Overlapping (headers : List CMAPSubtableHeader) : Prop :=
  ∃ a ∈ headers, ∃ b ∈ headers,
    (a.offset, a.offset + a.length) ≠ (b.offset, b.offset + b.length) ∧
      max a.offset b.offset < min (a.offset + a.length) (b.offset + b.length)

instance (headers : List CMAPSubtableHeader) : Decidable (Overlapping headers) :=
  inferInstanceAs (Decidable (∃ a ∈ headers, ∃ b ∈ headers, _))

def uniquePairs : List (Nat × Nat) → List (Nat × Nat) → List (Nat × Nat)
  | _, [] => []
  | seen, pair :: rest =>
    if pair ∈ seen then uniquePairs seen rest else pair :: uniquePairs (pair :: seen) rest

def extentEvents (extent : Nat × Nat) : List (Nat × Nat) := [(extent.1, 1), (extent.2, 0)]

def CMAPSubtableHeader.extent (header : CMAPSubtableHeader) : Nat × Nat :=
  (header.offset, header.offset + header.length)

def total (events : List (Nat × Nat)) : Int := (events.map weight).sum

@[simp] theorem total_nil : total [] = 0 := rfl

@[simp] theorem total_cons (event : Nat × Nat) (events : List (Nat × Nat)) :
    total (event :: events) = weight event + total events := by
  simp [total]

@[simp] theorem total_append (first second : List (Nat × Nat)) :
    total (first ++ second) = total first + total second := by
  simp [total, List.sum_append]

theorem mem_uniquePairs {pair : Nat × Nat} : ∀ {seen pairs : List (Nat × Nat)},
    pair ∈ uniquePairs seen pairs ↔ pair ∈ pairs ∧ pair ∉ seen
  | _, [] => by simp [uniquePairs]
  | seen, first :: rest => by
    unfold uniquePairs
    by_cases same : pair = first
    · subst same; split <;> simp_all [mem_uniquePairs]
    · split <;> simp [mem_uniquePairs, same]

theorem nodup_uniquePairs : ∀ {seen pairs : List (Nat × Nat)}, (uniquePairs seen pairs).Nodup
  | _, [] => List.nodup_nil
  | seen, first :: rest => by
    unfold uniquePairs
    split
    · exact nodup_uniquePairs
    · exact List.nodup_cons.mpr ⟨by simp [mem_uniquePairs], nodup_uniquePairs⟩

theorem overlapEvents_eq : ∀ {headers : List CMAPSubtableHeader} {seen : List (Nat × Nat)},
    (∀ header ∈ headers, header.offset + header.length < 2 ^ 32) →
      overlapEvents headers seen =
        .ok ((uniquePairs seen (headers.map (·.extent))).flatMap extentEvents)
  | [], _, _ => rfl
  | header :: rest, seen, noWrap => by
    have small := noWrap header (List.mem_cons_self _ _)
    have rest' := fun other mem => noWrap other (List.mem_cons_of_mem header mem)
    simp only [overlapEvents, addNoWrap, small, if_true, List.map_cons, uniquePairs]
    change (if header.extent ∈ seen then _ else _) = _
    by_cases member : header.extent ∈ seen
    · simp [member, overlapEvents_eq rest', bind, Except.bind]
    · simp only [CMAPSubtableHeader.extent] at member
      simp [member, overlapEvents_eq rest', extentEvents, bind, Except.bind, pure, Except.pure,
        CMAPSubtableHeader.extent]

theorem sweep_eq_false : ∀ {events : List (Nat × Nat)} {count : Int},
    sweep events count = false ↔
      ∃ pre suf, events = pre ++ suf ∧ pre ≠ [] ∧ 1 < count + total pre
  | [], count => by simp [sweep]
  | event :: rest, count => by
    rw [sweep, Bool.and_eq_false_iff, decide_eq_false_iff_not, sweep_eq_false]
    constructor
    · rintro (over | ⟨pre, suf, rfl, nonempty, over⟩)
      · exact ⟨[event], rest, rfl, by simp, by simpa using over⟩
      · exact ⟨event :: pre, suf, rfl, by simp, by simpa [add_assoc] using over⟩
    · rintro ⟨_ | ⟨first, pre⟩, suf, split, nonempty, over⟩
      · contradiction
      · obtain ⟨rfl, rfl⟩ := List.cons_eq_cons.mp split
        rcases pre with _ | ⟨second, pre⟩
        · left; simpa using over
        · right; exact ⟨second :: pre, suf, rfl, by simp, by simpa [add_assoc] using over⟩

theorem total_perm {first second : List (Nat × Nat)} (perm : first.Perm second) :
    total first = total second :=
  (perm.map weight).sum_eq

theorem total_nonneg : ∀ {events : List (Nat × Nat)}, (∀ event ∈ events, event.2 ≠ 0) →
    0 ≤ total events
  | [], _ => le_rfl
  | event :: rest, starts => by
    have := total_nonneg fun other mem => starts other (List.mem_cons_of_mem _ mem)
    simp [weight, starts event (List.mem_cons_self _ _)]
    omega

def openAt (extents : List (Nat × Nat)) (y : Nat) : List (Nat × Nat) :=
  extents.filter fun extent => extent.1 ≤ y ∧ y < extent.2

@[simp] theorem openAt_cons (extent : Nat × Nat) (rest : List (Nat × Nat)) (y : Nat) :
    openAt (extent :: rest) y =
      if extent.1 ≤ y ∧ y < extent.2 then extent :: openAt rest y else openAt rest y := by
  simp [openAt, List.filter_cons]

theorem mem_openAt {extent : Nat × Nat} {extents : List (Nat × Nat)} {y : Nat} :
    extent ∈ openAt extents y ↔ extent ∈ extents ∧ extent.1 ≤ y ∧ y < extent.2 := by
  simp [openAt]

theorem total_filter_events {y : Nat} : ∀ {extents : List (Nat × Nat)},
    (∀ extent ∈ extents, extent.1 ≤ extent.2) →
      total ((extents.flatMap extentEvents).filter (·.1 ≤ y)) = (openAt extents y).length
  | [], _ => rfl
  | extent :: rest, ordered => by
    have bound := ordered extent (List.mem_cons_self _ _)
    have ih := total_filter_events (y := y) fun other mem => ordered other (List.mem_cons_of_mem _ mem)
    simp only [List.flatMap_cons, List.filter_append, total_append, ih, openAt_cons,
      List.filter_cons, extentEvents, decide_eq_true_eq]
    split_ifs <;> simp only [total_cons, total_nil, List.filter_nil, List.length_cons, weight] <;>
      push_cast <;> omega

theorem takeWhile_eq_filter {p : Nat × Nat → Bool} (closed : ∀ a b, EventLE a b → p b → p a) :
    ∀ {events : List (Nat × Nat)}, events.Pairwise EventLE → events.takeWhile p = events.filter p
  | [], _ => rfl
  | event :: rest, sorted => by
    have ih := takeWhile_eq_filter closed (List.pairwise_cons.mp sorted).2
    by_cases here : p event
    · simp [List.takeWhile_cons, List.filter_cons, here, ih]
    · have none : rest.filter p = [] := List.filter_eq_nil_iff.mpr fun other mem holds =>
        here (closed _ _ ((List.pairwise_cons.mp sorted).1 other mem) holds)
      simp [List.takeWhile_cons, List.filter_cons, here, none]

theorem exists_le_total_filter {events : List (Nat × Nat)} (sorted : events.Pairwise EventLE)
    (pre : List (Nat × Nat)) :
    ∀ suf, events = pre ++ suf → ∃ y, total pre ≤ total (events.filter (·.1 ≤ y)) ∨ total pre ≤ 0 := by
  induction pre using List.reverseRecOn with
  | nil => exact fun _ _ => ⟨0, .inr le_rfl⟩
  | append_singleton pre last ih =>
    intro suf split
    rw [List.append_assoc, List.singleton_append] at split
    by_cases ends : last.2 = 0
    · obtain ⟨y, bound⟩ := ih _ split
      refine ⟨y, ?_⟩
      simp only [total_append, total_cons, total_nil, weight, ends, if_true] at bound ⊢
      omega
    · subst split
      have ordered := List.pairwise_append.mp sorted
      have after := (List.pairwise_cons.mp ordered.2.1).1
      have before : pre.filter (·.1 ≤ last.1) = pre := List.filter_eq_self.mpr fun event mem => by
        have := ordered.2.2 event mem last (List.mem_cons_self _ _)
        simp only [EventLE] at this
        simp only [decide_eq_true_eq]
        omega
      have rest : 0 ≤ total (suf.filter (·.1 ≤ last.1)) := total_nonneg fun event mem => by
        simp only [List.mem_filter, decide_eq_true_eq] at mem
        have := after event mem.1
        simp only [EventLE] at this
        omega
      refine ⟨last.1, .inl ?_⟩
      simp [List.filter_append, before, List.filter_cons]
      omega

theorem one_lt_length_iff_of_nodup : ∀ {extents : List (Nat × Nat)}, extents.Nodup →
    (1 < extents.length ↔ ∃ a ∈ extents, ∃ b ∈ extents, a ≠ b)
  | [], _ | [_], _ => by simp
  | a :: b :: rest, nodup => by
    simp only [List.nodup_cons, List.mem_cons, not_or] at nodup
    exact ⟨fun _ => ⟨a, by simp, b, by simp, nodup.1.1⟩, fun _ => by simp⟩

theorem sweep_insertionSort_eq_false {extents : List (Nat × Nat)} (nodup : extents.Nodup)
    (ordered : ∀ extent ∈ extents, extent.1 ≤ extent.2) :
    sweep ((extents.flatMap extentEvents).insertionSort EventLE) 0 = false ↔
      ∃ a ∈ extents, ∃ b ∈ extents, a ≠ b ∧ max a.1 b.1 < min a.2 b.2 := by
  have sorted : ((extents.flatMap extentEvents).insertionSort EventLE).Pairwise EventLE :=
    List.sorted_insertionSort _ _
  have counted : ∀ y, total (((extents.flatMap extentEvents).insertionSort EventLE).filter
      (·.1 ≤ y)) = (openAt extents y).length := fun y => by
    rw [total_perm ((List.perm_insertionSort _ _).filter _), total_filter_events ordered]
  have pairs : ∀ y, 1 < (openAt extents y).length ↔
      ∃ a ∈ openAt extents y, ∃ b ∈ openAt extents y, a ≠ b :=
    fun _ => one_lt_length_iff_of_nodup (nodup.filter _)
  simp only [mem_openAt] at pairs
  rw [sweep_eq_false]
  constructor
  · rintro ⟨pre, suf, split, -, over⟩
    obtain ⟨y, bound⟩ := exists_le_total_filter sorted pre suf split
    rw [counted] at bound
    obtain ⟨a, ⟨ma, _⟩, b, ⟨mb, _⟩, distinct⟩ := (pairs y).mp (by omega)
    exact ⟨a, ma, b, mb, distinct, by omega⟩
  · rintro ⟨a, ma, b, mb, distinct, overlap⟩
    have two := (pairs (max a.1 b.1)).mpr ⟨a, ⟨ma, by omega⟩, b, ⟨mb, by omega⟩, distinct⟩
    have weighs := counted (max a.1 b.1)
    rw [← takeWhile_eq_filter (fun _ _ le holds => by simp only [EventLE, decide_eq_true_eq] at le holds ⊢; omega) sorted] at weighs
    refine ⟨List.takeWhile (·.1 ≤ max a.1 b.1) _, _, (List.takeWhile_append_dropWhile _ _).symm,
      fun empty => ?_, by omega⟩
    rw [empty, total_nil] at weighs
    omega

/-- The overlap check fails exactly when two records with different extents overlap. -/
theorem checkOverlap_eq_iff_overlapping {headers : List CMAPSubtableHeader}
    (noWrap : ∀ header ∈ headers, header.offset + header.length < 2 ^ 32) :
    checkOverlap headers = if Overlapping headers then .error .failure else .ok () := by
  have ordered : ∀ extent ∈ uniquePairs [] (headers.map (·.extent)), extent.1 ≤ extent.2 := by
    simp only [mem_uniquePairs, List.mem_map]
    rintro _ ⟨⟨header, _, rfl⟩, _⟩
    exact Nat.le_add_right _ _
  have overlapping : Overlapping headers ↔ ∃ a ∈ uniquePairs [] (headers.map (·.extent)),
      ∃ b ∈ uniquePairs [] (headers.map (·.extent)), a ≠ b ∧ max a.1 b.1 < min a.2 b.2 := by
    simp only [Overlapping, mem_uniquePairs, List.mem_map, List.not_mem_nil, not_false_eq_true,
      and_true, exists_exists_and_eq_and, CMAPSubtableHeader.extent]
  have sweeps := (sweep_insertionSort_eq_false nodup_uniquePairs ordered).trans overlapping.symm
  simp only [checkOverlap, overlapEvents_eq noWrap, bind, Except.bind, failIf]
  by_cases over : Overlapping headers
  · simp [over, sweeps.mpr over]
  · simp [over, by simpa using mt sweeps.mp over]

theorem checkOverlap_shared_extent :
    (∀ header ∈ [({ platform := 0, encoding := 3, offset := 20, length := 8 } : CMAPSubtableHeader),
        { platform := 3, encoding := 1, offset := 20, length := 8 },
        { platform := 3, encoding := 10, offset := 24, length := 8 }],
      header.offset + header.length < 2 ^ 32) ∧
    checkOverlap [{ platform := 0, encoding := 3, offset := 20, length := 8 },
        { platform := 3, encoding := 1, offset := 20, length := 8 },
        { platform := 3, encoding := 10, offset := 24, length := 8 }] =
      if Overlapping [{ platform := 0, encoding := 3, offset := 20, length := 8 },
        { platform := 3, encoding := 1, offset := 20, length := 8 },
        { platform := 3, encoding := 10, offset := 24, length := 8 }] then .error .failure
      else .ok () :=
  ⟨by decide, checkOverlap_eq_iff_overlapping (by decide)⟩

end OtsCmap
