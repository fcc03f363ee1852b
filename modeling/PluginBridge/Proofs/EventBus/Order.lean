import Mathlib.Data.List.Sort
import PluginBridge.EventBus

/-! The order of a bus. Halving finds the right place for a registration only
among registrations that are sorted, so the order is an invariant that every
operation needs and keeps. Numbers are given out in turn, and so the order of
registration is that of the numbers. -/
namespace PluginBridge

/-- One registration runs before another: its priority is lower, or it is the
same and the registration is older. -/
def Subscription.RunsBefore (first second : Subscription) : Prop :=
  first.priority.rank < second.priority.rank ∨
    first.priority.rank = second.priority.rank ∧ first.id < second.id

/-- What a stable sort by priority compares. -/
def Subscription.noLater (first second : Subscription) : Bool :=
  first.priority.rank ≤ second.priority.rank

theorem Subscription.RunsBefore.asymm {first second : Subscription}
    (before : first.RunsBefore second) (after : second.RunsBefore first) : False := by
  obtain lower | ⟨same, older⟩ := before <;> obtain lower' | ⟨same', older'⟩ := after
  · omega
  · omega
  · omega
  · exact Nat.lt_asymm older older'

theorem Subscription.RunsBefore.noLater {first second : Subscription}
    (before : first.RunsBefore second) : first.priority.rank ≤ second.priority.rank := by
  unfold Subscription.RunsBefore at before
  omega

namespace EventBus

/-- Halving finds the border between the items that pass and those that fail: each look at the
middle keeps it between `low` and `high`. -/
theorem boundary_append {α : Type} {test : α → Bool} {front back : List α}
    (passes : ∀ item ∈ front, test item = true) (fails : ∀ item ∈ back, test item = false)
    {low high : Nat} (above : low ≤ front.length) (below : front.length ≤ high)
    (within : high ≤ (front ++ back).length) :
    boundary test (front ++ back) low high = front.length := by
  fun_induction boundary test (front ++ back) low high with
  | case1 low high open_ middle passed ih =>
    refine ih ?_ below within
    by_contra beyond
    have inside : middle < (front ++ back).length := by omega
    have failed : test (front ++ back)[middle] = false := by
      rw [List.getElem_append_right (by omega)]
      exact fails _ (List.getElem_mem _)
    rw [List.getElem?_eq_getElem inside] at passed
    simp [failed] at passed
  | case2 low high open_ middle failed ih =>
    refine ih above ?_ (by omega)
    by_contra beyond
    have inside : middle < front.length := by omega
    rw [List.getElem?_append_left inside, List.getElem?_eq_getElem inside] at failed
    exact failed (by simpa using passes _ (List.getElem_mem inside))
  | case3 low high closed => omega

theorem partitionPoint_append {α : Type} {test : α → Bool} {front back : List α}
    (passes : ∀ item ∈ front, test item = true) (fails : ∀ item ∈ back, test item = false) :
    partitionPoint test (front ++ back) = front.length :=
  boundary_append passes fails (Nat.zero_le _) (by simp) le_rfl

theorem insertIdx_between {α : Type} (front back : List α) (item : α) :
    (front ++ back).insertIdx front.length item = front ++ item :: back := by
  induction front with
  | nil => simp
  | cons head front ih => simpa using ih

/-- A registration takes its place behind those that run no later and in front of
those that run later. -/
theorem place_between {subscription : Subscription} {front back : List Subscription}
    (earlier : ∀ known ∈ front, known.priority.rank ≤ subscription.priority.rank)
    (later : ∀ known ∈ back, subscription.priority.rank < known.priority.rank) :
    place subscription (front ++ back) = front ++ subscription :: back := by
  unfold place
  rw [partitionPoint_append, insertIdx_between]
  · intro known member
    simpa using earlier known member
  · intro known member
    simpa using later known member

/-- Sorted registrations fall into those that run no later than one of some rank
and those that run later. -/
theorem sorted_splits {subscriptions : List Subscription}
    (sorted : subscriptions.Pairwise Subscription.RunsBefore) (rank : Nat) :
    ∃ front back, subscriptions = front ++ back ∧
      (∀ known ∈ front, known.priority.rank ≤ rank) ∧
      ∀ known ∈ back, rank < known.priority.rank := by
  induction subscriptions with
  | nil => exact ⟨[], [], by simp⟩
  | cons head rest ih =>
    obtain ⟨headFirst, restSorted⟩ := List.pairwise_cons.mp sorted
    by_cases early : head.priority.rank ≤ rank
    · obtain ⟨front, back, rfl, frontEarly, backLate⟩ := ih restSorted
      exact ⟨head :: front, back, rfl, by simpa [early] using frontEarly, backLate⟩
    · refine ⟨[], head :: rest, rfl, by simp, ?_⟩
      intro known member
      obtain rfl | inRest := List.mem_cons.mp member
      · omega
      · have := (headFirst known inRest).noLater
        omega

/-- A new registration, whose number is above all others, keeps the order. -/
theorem place_sorted {subscription : Subscription} {subscriptions : List Subscription}
    (sorted : subscriptions.Pairwise Subscription.RunsBefore)
    (newest : ∀ known ∈ subscriptions, known.id < subscription.id) :
    (place subscription subscriptions).Pairwise Subscription.RunsBefore := by
  obtain ⟨front, back, rfl, earlier, later⟩ := sorted_splits sorted subscription.priority.rank
  rw [place_between earlier later]
  obtain ⟨frontSorted, backSorted, across⟩ := List.pairwise_append.mp sorted
  refine List.pairwise_append.mpr ⟨frontSorted, List.pairwise_cons.mpr ⟨?_, backSorted⟩, ?_⟩
  · intro known member
    exact .inl (later known member)
  · intro known inFront other inBack
    obtain rfl | inBack := List.mem_cons.mp inBack
    · obtain lower | same := Nat.lt_or_eq_of_le (earlier known inFront)
      · exact .inl lower
      · exact .inr ⟨same, newest known (by simp [inFront])⟩
    · exact across known inFront other inBack

theorem place_perm {subscription : Subscription} {subscriptions : List Subscription}
    (sorted : subscriptions.Pairwise Subscription.RunsBefore) :
    (place subscription subscriptions).Perm (subscription :: subscriptions) := by
  obtain ⟨front, back, rfl, earlier, later⟩ := sorted_splits sorted subscription.priority.rank
  rw [place_between earlier later]
  exact List.perm_middle

/-- The registrations of one rank keep their order when all are sorted by priority. Within the rank
everything compares as equal, and a stable sort keeps what is sorted as it stands. -/
theorem tier_mergeSort (subscriptions : List Subscription) (rank : Nat) :
    (subscriptions.mergeSort Subscription.noLater).filter (·.priority.rank = rank) =
      subscriptions.filter (·.priority.rank = rank) := by
  have tierSorted : (subscriptions.filter (·.priority.rank = rank)).Pairwise
      fun first second => first.noLater second = true := by
    refine List.pairwise_of_forall_mem_list ?_
    intro first firstMember second secondMember
    simp only [List.mem_filter, decide_eq_true_eq] at firstMember secondMember
    simp [Subscription.noLater, firstMember.2, secondMember.2]
  have kept := List.sublist_mergeSort
    (fun first second third => by simpa [Subscription.noLater] using Nat.le_trans)
    (fun first second => by
      simpa [Subscription.noLater] using Nat.le_total first.priority.rank second.priority.rank)
    tierSorted List.filter_sublist
  have filtered := kept.filter (·.priority.rank = rank)
  simp only [List.filter_filter, Bool.and_self] at filtered
  refine (filtered.eq_of_length ?_).symm
  exact ((List.mergeSort_perm _ _).filter _).length_eq.symm

/-- Sorting by priority what stands in the order of registration yields the order
in which listeners run. -/
theorem mergeSort_runsBefore {subscriptions : List Subscription}
    (registered : subscriptions.Pairwise fun first second => first.id < second.id) :
    (subscriptions.mergeSort Subscription.noLater).Pairwise Subscription.RunsBefore := by
  have sorted : (subscriptions.mergeSort Subscription.noLater).Pairwise
      fun first second => first.noLater second = true := by
    apply List.pairwise_mergeSort
    · intro first second third
      simpa [Subscription.noLater] using Nat.le_trans
    · intro first second
      simpa [Subscription.noLater] using Nat.le_total first.priority.rank second.priority.rank
  rw [List.pairwise_iff_forall_sublist] at sorted ⊢
  intro first second inOrder
  have noLater : first.priority.rank ≤ second.priority.rank := by
    simpa [Subscription.noLater] using sorted inOrder
  obtain lower | same := Nat.lt_or_eq_of_le noLater
  · exact .inl lower
  · refine .inr ⟨same, ?_⟩
    have inTier := inOrder.filter (·.priority.rank = second.priority.rank)
    rw [tier_mergeSort] at inTier
    simp only [same, decide_true, List.filter_cons_of_pos, List.filter_nil] at inTier
    exact List.pairwise_iff_forall_sublist.mp registered (inTier.trans List.filter_sublist)

/-- There is only one way to run the same registrations in order. -/
theorem order_unique {left right : List Subscription}
    (leftSorted : left.Pairwise Subscription.RunsBefore)
    (rightSorted : right.Pairwise Subscription.RunsBefore) (same : left.Perm right) :
    left = right :=
  List.Perm.eq_of_pairwise
    (fun _ _ _ _ before after => (before.asymm after).elim) leftSorted rightSorted same

end EventBus
end PluginBridge
