import Mathlib.Data.List.Nodup
import PluginBridge.Proofs.EventBus.Order

/-! A bus against a ledger. The ledger only ever grows: it lists all registrations
in the order they were made, and the numbers of those that were removed. What a
bus holds after any requests is the ledger's live part, sorted by priority so
that the older of two equals stays in front, and the bus answers as the ledger
does. -/
namespace PluginBridge

/-- What can be asked of a bus. -/
inductive BusRequest where
  | subscribe (kind : Option EventKind) (owner : String) (priority : Priority) (code : CodeId)
  | unsubscribe (id : SubscriptionId)
  | unsubscribeOwner (owner : String)
deriving DecidableEq, Repr

inductive BusReply where
  | number (id : SubscriptionId)
  | found (present : Bool)
  | removed (count : Nat)
deriving DecidableEq, Repr

namespace EventBus

def serve (bus : EventBus) : BusRequest → EventBus × BusReply
  | .subscribe kind owner priority code =>
    ((bus.subscribe kind owner priority code).1,
      .number (bus.subscribe kind owner priority code).2)
  | .unsubscribe id => ((bus.unsubscribe id).1, .found (bus.unsubscribe id).2)
  | .unsubscribeOwner owner =>
    ((bus.unsubscribeOwner owner).1, .removed (bus.unsubscribeOwner owner).2)

/-- A bus that has served some requests, the first of them first. -/
def after (requests : List BusRequest) : EventBus :=
  requests.foldl (fun bus request => (bus.serve request).1) .empty

end EventBus

structure Ledger where
  /-- All registrations, in the order they were made. -/
  made : List Subscription
  /-- The numbers of those that were removed. -/
  removed : List SubscriptionId

namespace Ledger

def empty : Ledger := ⟨[], []⟩

/-- The registrations that were not removed, in the order they were made. -/
def live (ledger : Ledger) : List Subscription :=
  ledger.made.filter fun subscription => !ledger.removed.contains subscription.id

def liveOf (ledger : Ledger) (owner : String) : List Subscription :=
  ledger.live.filter (·.owner = owner)

def isLive (ledger : Ledger) (id : SubscriptionId) : Bool :=
  ledger.live.any (·.id = id)

def serve (ledger : Ledger) : BusRequest → Ledger × BusReply
  | .subscribe kind owner priority code =>
    ({ ledger with
        made := ledger.made ++ [⟨ledger.made.length, owner, priority, kind, code⟩] },
      .number ledger.made.length)
  | .unsubscribe id =>
    (if ledger.isLive id then { ledger with removed := id :: ledger.removed } else ledger,
      .found (ledger.isLive id))
  | .unsubscribeOwner owner =>
    ({ ledger with removed := (ledger.liveOf owner).map (·.id) ++ ledger.removed },
      .removed (ledger.liveOf owner).length)

def after (requests : List BusRequest) : Ledger :=
  requests.foldl (fun ledger request => (ledger.serve request).1) .empty

/-- A removal takes one registration out of the live ones, or none. -/
theorem live_unsubscribe (ledger : Ledger) (id : SubscriptionId) :
    (ledger.serve (.unsubscribe id)).1.live = ledger.live.filter (·.id ≠ id) := by
  cases present : ledger.isLive id with
  | true =>
    simp only [serve, present, ↓reduceIte, live, List.filter_filter]
    refine List.filter_congr fun known _ => ?_
    simp
  | false =>
    simp only [serve, present, Bool.false_eq_true, ↓reduceIte]
    simp only [isLive, List.any_eq_false, decide_eq_true_eq] at present
    exact (List.filter_eq_self.mpr (by simpa using present)).symm

/-- Numbers that are distinct tell an owner's registrations from all others. -/
theorem live_unsubscribeOwner {ledger : Ledger} (distinct : (ledger.made.map (·.id)).Nodup)
    (owner : String) :
    (ledger.serve (.unsubscribeOwner owner)).1.live = ledger.live.filter (·.owner ≠ owner) := by
  simp only [serve, live, List.filter_filter]
  refine List.filter_congr fun known member => ?_
  have owned : known.id ∈ (ledger.liveOf owner).map (·.id) ↔
      known.owner = owner ∧ known.id ∉ ledger.removed := by
    simp only [liveOf, live, List.mem_map, List.mem_filter, decide_eq_true_eq,
      List.contains_eq_mem, Bool.not_eq_true', decide_eq_false_iff_not]
    constructor
    · rintro ⟨other, ⟨⟨otherMember, kept⟩, otherOwner⟩, sameId⟩
      obtain rfl := List.inj_on_of_nodup_map distinct otherMember member sameId
      exact ⟨otherOwner, kept⟩
    · rintro ⟨isOwner, kept⟩
      exact ⟨known, ⟨⟨member, kept⟩, isOwner⟩, rfl⟩
  by_cases isOwner : known.owner = owner <;> simp [owned, isOwner]

theorem live_subscribe {ledger : Ledger} (fresh : ledger.made.length ∉ ledger.removed)
    (kind : Option EventKind) (owner : String) (priority : Priority) (code : CodeId) :
    (ledger.serve (.subscribe kind owner priority code)).1.live =
      ledger.live ++ [⟨ledger.made.length, owner, priority, kind, code⟩] := by
  simp [serve, live, fresh]

/-- A ledger forgets no registration. -/
theorem made_serve (ledger : Ledger) (request : BusRequest) :
    ledger.made <+: (ledger.serve request).1.made := by
  cases request with
  | subscribe kind owner priority code => exact List.prefix_append _ _
  | unsubscribe id => cases present : ledger.isLive id <;> simp [serve, present]
  | unsubscribeOwner owner => exact List.prefix_refl _

theorem made_after (requests more : List BusRequest) :
    (after requests).made <+: (after (requests ++ more)).made := by
  unfold after
  rw [List.foldl_append]
  generalize requests.foldl (fun ledger request => (ledger.serve request).1) empty = ledger
  induction more generalizing ledger with
  | nil => exact List.prefix_refl _
  | cons request rest ih => exact (made_serve ledger request).trans (ih _)

end Ledger

/-- Of things whose numbers are distinct, a number takes out one and leaves the others where
they are. -/
theorem filter_number_ne {α : Type} (number : α → Nat) {front back : List α} {item : α}
    (distinct : ((front ++ item :: back).map number).Nodup) :
    (front ++ item :: back).filter (number · ≠ number item) = front ++ back := by
  rw [List.map_append, List.map_cons] at distinct
  have absent := (List.nodup_cons.mp (List.nodup_middle.mp distinct)).1
  obtain ⟨inFront, inBack⟩ := not_or.mp (List.mem_append.not.mp absent)
  have others (part : List α) (absent : number item ∉ part.map number) :
      part.filter (number · ≠ number item) = part := by
    refine List.filter_eq_self.mpr fun other member => ?_
    simpa using fun same => absent (List.mem_map.mpr ⟨other, member, same⟩)
  rw [List.filter_append, List.filter_cons_of_neg (by simp), others front inFront,
    others back inBack]

namespace EventBus

/-- What every request keeps: the order of the bus, and its agreement with the
ledger. A number that has not been given out yet was not removed either. -/
structure Follows (bus : EventBus) (ledger : Ledger) : Prop where
  order : bus.subscriptions.Pairwise Subscription.RunsBefore
  same : bus.subscriptions.Perm ledger.live
  numbers : ledger.made.map (·.id) = List.range bus.nextId
  given : ∀ id ∈ ledger.removed, id < bus.nextId

namespace Follows
variable {bus : EventBus} {ledger : Ledger}

theorem length_made (follows : bus.Follows ledger) : ledger.made.length = bus.nextId := by
  simpa using congrArg List.length follows.numbers

theorem distinct (follows : bus.Follows ledger) : (ledger.made.map (·.id)).Nodup := by
  rw [follows.numbers]
  exact List.nodup_range

theorem registered (follows : bus.Follows ledger) :
    ledger.live.Pairwise fun first second => first.id < second.id := by
  have increasing : (ledger.made.map (·.id)).Pairwise (· < ·) := by
    rw [follows.numbers]
    exact List.pairwise_lt_range
  exact (List.pairwise_map.mp increasing).sublist List.filter_sublist

theorem below (follows : bus.Follows ledger) {known : Subscription}
    (member : known ∈ bus.subscriptions) : known.id < bus.nextId := by
  have made : known ∈ ledger.made := List.mem_of_mem_filter (follows.same.mem_iff.mp member)
  have listed : known.id ∈ ledger.made.map (·.id) := List.mem_map_of_mem made
  rw [follows.numbers] at listed
  exact List.mem_range.mp listed

/-- The order of the bus is the stable sort of the live registrations. -/
theorem sorted (follows : bus.Follows ledger) :
    bus.subscriptions = ledger.live.mergeSort Subscription.noLater :=
  order_unique follows.order (mergeSort_runsBefore follows.registered)
    (follows.same.trans (List.mergeSort_perm _ _).symm)

theorem isLive_eq (follows : bus.Follows ledger) (id : SubscriptionId) :
    ledger.isLive id = bus.subscriptions.any (·.id = id) :=
  (follows.same.any_eq).symm

theorem liveOf_perm (follows : bus.Follows ledger) (owner : String) :
    (bus.ownedBy owner).Perm (ledger.liveOf owner) :=
  follows.same.filter _

theorem ids_nodup (follows : bus.Follows ledger) : (bus.subscriptions.map (·.id)).Nodup := by
  have distinct : (ledger.live.map (·.id)).Nodup :=
    (List.pairwise_map.mpr follows.registered).imp Nat.ne_of_lt
  exact (follows.same.map _).nodup_iff.mpr distinct

/-- Removing a live number takes out one registration and leaves the others where
they are. -/
theorem unsubscribe_splits (follows : bus.Follows ledger) {known : Subscription}
    (live : known ∈ ledger.live) :
    ∃ front back, bus.subscriptions = front ++ known :: back ∧
      (bus.unsubscribe known.id).1.subscriptions = front ++ back := by
  obtain ⟨front, back, split⟩ := List.append_of_mem (follows.same.mem_iff.mpr live)
  have distinct := follows.ids_nodup
  rw [split] at distinct
  refine ⟨front, back, split, ?_⟩
  simpa only [EventBus.unsubscribe, split] using filter_number_ne _ distinct

theorem unsubscribe_stale (follows : bus.Follows ledger) {id : SubscriptionId}
    (stale : ledger.isLive id = false) : (bus.unsubscribe id).1 = bus := by
  rw [follows.isLive_eq, List.any_eq_false] at stale
  have kept : bus.subscriptions.filter (·.id ≠ id) = bus.subscriptions :=
    List.filter_eq_self.mpr (by simpa using stale)
  unfold EventBus.unsubscribe
  rw [kept]

private theorem subscribe (follows : bus.Follows ledger) (kind : Option EventKind)
    (owner : String) (priority : Priority) (code : CodeId) :
    (bus.subscribe kind owner priority code).1.Follows
      (ledger.serve (.subscribe kind owner priority code)).1 := by
  have fresh : ledger.made.length ∉ ledger.removed := fun gone => by
    have := follows.given _ gone
    rw [follows.length_made] at this
    exact Nat.lt_irrefl _ this
  constructor
  case order => exact place_sorted follows.order fun known member => follows.below member
  case same =>
    rw [Ledger.live_subscribe fresh, follows.length_made]
    refine (place_perm follows.order).trans ?_
    exact (follows.same.cons _).trans (List.perm_append_singleton _ _).symm
  case numbers =>
    simp [Ledger.serve, EventBus.subscribe, follows.numbers, follows.length_made,
      List.range_succ]
  case given => exact fun id gone => Nat.lt_succ_of_lt (follows.given id gone)

private theorem unsubscribe (follows : bus.Follows ledger) (id : SubscriptionId) :
    (bus.unsubscribe id).1.Follows (ledger.serve (.unsubscribe id)).1 := by
  constructor
  case order => exact follows.order.sublist List.filter_sublist
  case same =>
    rw [Ledger.live_unsubscribe]
    exact follows.same.filter _
  case numbers => cases present : ledger.isLive id <;>
    simpa [Ledger.serve, present, EventBus.unsubscribe] using follows.numbers
  case given =>
    intro other gone
    cases present : ledger.isLive id with
    | true =>
      simp only [Ledger.serve, present, ↓reduceIte, List.mem_cons] at gone
      obtain rfl | gone := gone
      · rw [follows.isLive_eq, List.any_eq_true] at present
        obtain ⟨known, member, named⟩ := present
        obtain rfl := of_decide_eq_true named
        exact follows.below member
      · exact follows.given other gone
    | false =>
      simp only [Ledger.serve, present, Bool.false_eq_true, ↓reduceIte] at gone
      exact follows.given other gone

private theorem unsubscribeOwner (follows : bus.Follows ledger) (owner : String) :
    (bus.unsubscribeOwner owner).1.Follows (ledger.serve (.unsubscribeOwner owner)).1 := by
  constructor
  case order => exact follows.order.sublist List.filter_sublist
  case same =>
    rw [Ledger.live_unsubscribeOwner follows.distinct]
    exact follows.same.filter _
  case numbers => exact follows.numbers
  case given =>
    intro id gone
    simp only [Ledger.serve, List.mem_append, List.mem_map] at gone
    obtain ⟨known, member, rfl⟩ | gone := gone
    · exact follows.below (follows.same.mem_iff.mpr (List.mem_of_mem_filter member))
    · exact follows.given id gone

/-- One request keeps a bus and its ledger in step. -/
theorem serve (follows : bus.Follows ledger) (request : BusRequest) :
    (bus.serve request).1.Follows (ledger.serve request).1 := by
  cases request with
  | subscribe kind owner priority code => exact follows.subscribe kind owner priority code
  | unsubscribe id => exact follows.unsubscribe id
  | unsubscribeOwner owner => exact follows.unsubscribeOwner owner

/-- A bus answers as its ledger does. -/
theorem reply (follows : bus.Follows ledger) (request : BusRequest) :
    (bus.serve request).2 = (ledger.serve request).2 := by
  cases request with
  | subscribe kind owner priority code =>
    simp only [EventBus.serve, Ledger.serve, EventBus.subscribe, follows.length_made]
  | unsubscribe id =>
    simp only [EventBus.serve, Ledger.serve, EventBus.unsubscribe, follows.isLive_eq]
  | unsubscribeOwner owner =>
    simp only [EventBus.serve, Ledger.serve, EventBus.unsubscribeOwner,
      (follows.liveOf_perm owner).length_eq]

end Follows

theorem follows_empty : empty.Follows .empty :=
  ⟨.nil, .nil, rfl, by simp [Ledger.empty]⟩

/-- All requests together keep a bus and its ledger in step. -/
theorem after_follows (requests : List BusRequest) :
    (after requests).Follows (Ledger.after requests) := by
  unfold after Ledger.after
  suffices run : ∀ (bus : EventBus) (ledger : Ledger), bus.Follows ledger →
      (requests.foldl (fun bus request => (bus.serve request).1) bus).Follows
        (requests.foldl (fun ledger request => (ledger.serve request).1) ledger) from
    run _ _ follows_empty
  induction requests with
  | nil => exact fun _ _ follows => follows
  | cons request rest ih => exact fun _ _ follows => ih _ _ (follows.serve request)

/-- After any requests, a bus holds the live registrations of its ledger, sorted
by priority with the older in front. No number is given out twice, not even after
its registration was removed. The next request is answered as the ledger says: a
number is found exactly if it is live, and an owner's registrations are counted.
A removal takes out what it names and keeps the order of everything else. -/
theorem bus_refines_ledger (requests : List BusRequest) :
    let bus := after requests
    let ledger := Ledger.after requests
    bus.subscriptions = ledger.live.mergeSort Subscription.noLater ∧
    (∀ more, ledger.made <+: (Ledger.after (requests ++ more)).made) ∧
    (ledger.made.map (·.id)).Nodup ∧
    (∀ request, (bus.serve request).2 = (ledger.serve request).2) ∧
    (∀ id, (bus.unsubscribe id).2 = true ↔ ∃ known ∈ ledger.live, known.id = id) ∧
    (∀ known ∈ ledger.live, ∃ front back, bus.subscriptions = front ++ known :: back ∧
      (bus.unsubscribe known.id).1.subscriptions = front ++ back) ∧
    (∀ id, ledger.isLive id = false → (bus.unsubscribe id).1 = bus) ∧
    (∀ owner, (bus.unsubscribeOwner owner).1.subscriptions =
        bus.subscriptions.filter (·.owner ≠ owner) ∧
      (bus.unsubscribeOwner owner).2 = (ledger.liveOf owner).length) ∧
    bus.count = ledger.live.length ∧
    ∀ owner, bus.countOf owner = (ledger.liveOf owner).length := by
  intro bus ledger
  have follows : bus.Follows ledger := after_follows requests
  refine ⟨follows.sorted, Ledger.made_after requests, follows.distinct, follows.reply, ?_,
    fun known live => follows.unsubscribe_splits live,
    fun id stale => follows.unsubscribe_stale stale, fun owner => ⟨rfl, ?_⟩,
    follows.same.length_eq, fun owner => (follows.liveOf_perm owner).length_eq⟩
  · intro id
    have answer : (bus.unsubscribe id).2 = ledger.isLive id := (follows.isLive_eq id).symm
    simp [answer, Ledger.isLive]
  · exact (follows.liveOf_perm owner).length_eq

/-- A listener that is registered late runs early if its priority is lower, and the
number of one that was removed is not given out again. -/
example :
    (after [.subscribe none "a" .normal 7, .subscribe none "b" .low 8, .unsubscribe 1,
      .subscribe none "a" .normal 9, .subscribe none "b" .lowest 7]).subscriptions.map (·.id) =
      [3, 0, 2] := by
  decide +kernel

end EventBus
end PluginBridge
