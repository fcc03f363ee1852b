import Mathlib.Data.List.Nodup
import Mathlib.Data.List.Pairwise
import PluginBridge.Host.Basic

/-! What is registered with a host stays in order: listeners have numbers of their
own, all given out before the next one, and no two commands answer to one label.
Each registration and each removal keeps it so, and does nothing else. -/
namespace PluginBridge.Host
open Text

/-- What answers to a label answers to it in any letter case. -/
theorem Offer.answersTo_congr {offer : Offer} {label other : String}
    (same : sameLabel label other = true) (answers : offer.answersTo label = true) :
    offer.answersTo other = true := by
  unfold answersTo Text.answers at *
  obtain ⟨known, member, fits⟩ := List.any_eq_true.mp answers
  exact List.any_eq_true.mpr ⟨known, member, sameLabel_trans fits same⟩

@[simp] theorem Offer.answersTo_name (offer : Offer) : offer.answersTo offer.name = true := by
  simp [answersTo, Text.answers]

/-- Two commands that no label runs both of. -/
def Offer.Apart (first second : Offer) : Prop :=
  ∀ label, first.answersTo label = true → second.answersTo label = false

instance : Std.Symm Offer.Apart where
  symm first second apart label answers := by
    by_contra too
    rw [apart label (by simpa using too)] at answers
    cases answers

/-- A registry in order. -/
structure Registry.Sound (registry : Registry) : Prop where
  /-- Numbers are given out in turn. -/
  numbered : ∀ listener ∈ registry.listeners, listener.id < registry.nextListener
  distinct : (registry.listeners.map (·.id)).Nodup
  /-- A label runs one command at most. -/
  apart : registry.commands.Pairwise Offer.Apart

/-- The listeners that one hearer gets for some kinds of events. -/
def listenersFrom (owner : String) (hearer : Hearer) : ListenerId → List HostEventKind →
    List Listener
  | _, [] => []
  | first, kind :: rest =>
    ⟨first, owner, kind, hearer⟩ :: listenersFrom owner hearer (first + 1) rest

section
variable {owner : String} {hearer : Hearer} {kinds : List HostEventKind} {first : ListenerId}

theorem hearer_listenersFrom {listener : Listener}
    (member : listener ∈ listenersFrom owner hearer first kinds) : listener.hearer = hearer := by
  induction kinds generalizing first with
  | nil => cases member
  | cons kind rest ih =>
    obtain rfl | later := List.mem_cons.mp member
    · rfl
    · exact ih later

theorem id_listenersFrom {listener : Listener}
    (member : listener ∈ listenersFrom owner hearer first kinds) :
    first ≤ listener.id ∧ listener.id < first + kinds.length := by
  induction kinds generalizing first with
  | nil => cases member
  | cons kind rest ih =>
    rw [List.length_cons]
    obtain rfl | later := List.mem_cons.mp member
    · exact ⟨Nat.le_refl first, Nat.lt_add_of_pos_right (Nat.succ_pos _)⟩
    · obtain ⟨low, high⟩ := ih later
      exact ⟨Nat.le_of_succ_le low, by rwa [Nat.add_comm rest.length, ← Nat.add_assoc]⟩

theorem ids_listenersFrom (owner : String) (hearer : Hearer) (kinds : List HostEventKind)
    (first : ListenerId) :
    (listenersFrom owner hearer first kinds).map (·.id) = List.range' first kinds.length := by
  induction kinds generalizing first with
  | nil => rfl
  | cons kind rest ih => simp [listenersFrom, List.range'_succ, ih]

end

namespace Registry
variable {registry : Registry}

/-- A label is free if no command answers to it. -/
theorem takenLabel_none {name : String} {aliases : List String}
    (free : registry.takenLabel? name aliases = none) {known : Offer}
    (member : known ∈ registry.commands) {label : String} (listed : label ∈ name :: aliases) :
    known.answersTo label = false := by
  have idle := List.find?_eq_none.mp free label listed
  simp only [command?, Bool.not_eq_true, Option.isSome_eq_false_iff, Option.isNone_iff_eq_none,
    List.find?_eq_none] at idle
  exact idle known member

namespace Sound

theorem empty : Registry.empty.Sound :=
  ⟨by simp [Registry.empty], List.nodup_nil, .nil⟩

/-- Two commands that answer to one label are the same. -/
theorem unique (sound : registry.Sound) {first second : Offer} (left : first ∈ registry.commands)
    (right : second ∈ registry.commands) {label : String} (answers : first.answersTo label = true)
    (too : second.answersTo label = true) : first = second := by
  by_contra different
  have apart : first.Apart second := sound.apart.forall left right different
  rw [apart label answers] at too
  cases too

theorem addListeners (sound : registry.Sound) (owner : String) (hearer : Hearer)
    (kinds : List HostEventKind) :
    Sound { registry with
      listeners := registry.listeners ++ listenersFrom owner hearer registry.nextListener kinds
      nextListener := registry.nextListener + kinds.length } := by
  refine ⟨?_, ?_, sound.apart⟩
  · intro listener member
    obtain old | new := List.mem_append.mp member
    · exact Nat.lt_of_lt_of_le (sound.numbered listener old) (Nat.le_add_right ..)
    · exact (id_listenersFrom new).2
  · rw [List.map_append, List.nodup_append]
    refine ⟨sound.distinct, ids_listenersFrom .. ▸ List.nodup_range', ?_⟩
    intro id old other new same
    obtain ⟨listener, member, rfl⟩ := List.mem_map.mp old
    obtain ⟨added, among, rfl⟩ := List.mem_map.mp new
    exact Nat.lt_irrefl _ (same ▸ Nat.lt_of_lt_of_le (sound.numbered listener member)
      (id_listenersFrom among).1)

/-- Listeners may go, whichever they are. -/
theorem keepListeners (sound : registry.Sound) (stays : Listener → Bool) :
    Sound { registry with listeners := registry.listeners.filter stays } :=
  ⟨fun listener member => sound.numbered listener (List.mem_of_mem_filter member),
    sound.distinct.sublist (List.filter_sublist.map _), sound.apart⟩

/-- Commands may go, whichever they are. -/
theorem keepCommands (sound : registry.Sound) (stays : Offer → Bool) :
    Sound { registry with commands := registry.commands.filter stays } :=
  ⟨sound.numbered, sound.distinct, sound.apart.sublist List.filter_sublist⟩

/-- A command may come whose labels are all free. -/
theorem addCommand (sound : registry.Sound) {offer : Offer}
    (free : registry.takenLabel? offer.name offer.aliases = none) :
    (registry.addCommand offer).Sound := by
  refine ⟨sound.numbered, sound.distinct, List.pairwise_append.mpr ⟨sound.apart,
    List.pairwise_singleton .., ?_⟩⟩
  intro known member added new label answers
  obtain rfl := List.mem_singleton.mp new
  by_contra too
  rw [Bool.not_eq_false] at too
  obtain ⟨spelling, listed, fits⟩ := List.any_eq_true.mp too
  have idle := takenLabel_none free member listed
  rw [Offer.answersTo_congr (sameLabel_comm .. ▸ fits) answers] at idle
  cases idle

end Sound
end Registry

variable {host changed : Host}

theorem addListener_ok {owner : String} {kind : HostEventKind} {hearer : Hearer} {id : ListenerId}
    (added : host.addListener owner kind hearer = .ok (changed, id)) :
    host.closed = false ∧ id = host.registry.nextListener ∧
      changed = { host with registry := (host.registry.addListener owner kind hearer).1 } := by
  unfold addListener register at added
  cases closed : host.closed with
  | true => simp [closed] at added
  | false =>
    simp only [closed, Bool.false_eq_true, if_false, Except.map, Registry.addListener,
      Except.ok.injEq, Prod.mk.injEq] at added
    obtain ⟨rfl, rfl⟩ := added
    exact ⟨rfl, rfl, by simp [Registry.addListener, ← closed]⟩

theorem addListeners_ok {owner : String} {hearer : Hearer} {kinds : List HostEventKind}
    {ids : List ListenerId}
    (added : host.addListeners owner hearer kinds = .ok (changed, ids)) :
    ids = (listenersFrom owner hearer host.registry.nextListener kinds).map (·.id) ∧
      changed = { host with registry := { host.registry with
        listeners := host.registry.listeners ++
          listenersFrom owner hearer host.registry.nextListener kinds
        nextListener := host.registry.nextListener + kinds.length } } := by
  induction kinds generalizing host ids with
  | nil =>
    simp only [addListeners, Except.ok.injEq, Prod.mk.injEq] at added
    obtain ⟨rfl, rfl⟩ := added
    simp [listenersFrom]
  | cons kind rest ih =>
    unfold addListeners at added
    split at added
    · cases added
    · next between id one =>
      obtain ⟨open_, rfl, rfl⟩ := addListener_ok one
      cases more : ({ host with registry := (host.registry.addListener owner kind hearer).1 } :
          Host).addListeners owner hearer rest with
      | error refusal => simp [more, Except.map] at added
      | ok result =>
        simp only [more, Except.map, Except.ok.injEq, Prod.mk.injEq] at added
        obtain ⟨rfl, rfl⟩ := added
        obtain ⟨numbers, same⟩ := ih more
        rw [numbers, same]
        simp [listenersFrom, Registry.addListener, Nat.add_assoc, Nat.add_comm 1]

theorem addCommand_ok {offer : Offer} {done : Unit}
    (added : host.addCommand offer = .ok (changed, done)) :
    host.closed = false ∧ host.registry.takenLabel? offer.name offer.aliases = none ∧
      changed = { host with registry := host.registry.addCommand offer } := by
  unfold addCommand register at added
  cases closed : host.closed with
  | true => simp [closed] at added
  | false =>
    cases free : host.registry.takenLabel? offer.name offer.aliases with
    | some label => simp [closed, free, Except.map] at added
    | none =>
      simp only [closed, free, Bool.false_eq_true, if_false, Except.map,
        Except.ok.injEq, Prod.mk.injEq] at added
      obtain ⟨rfl, -⟩ := added
      exact ⟨rfl, rfl, by simp [← closed]⟩

/-- Removing listeners one by one removes those of the numbers, and no others. -/
theorem removeListeners_eq (host : Host) (ids : List ListenerId) :
    host.removeListeners ids = { host with registry := { host.registry with
      listeners := host.registry.listeners.filter (!ids.contains ·.id) } } := by
  unfold removeListeners
  induction ids generalizing host with
  | nil => simp
  | cons id rest ih =>
    rw [List.foldl_cons, ih]
    simp only [removeListener, Registry.removeListener, List.filter_filter]
    congr 3
    funext listener
    simp [Bool.and_comm]

end PluginBridge.Host
