import Mathlib.Data.List.Nodup
import PluginBridge.Proofs.Host.Registry
import PluginBridge.Proofs.World.Runs

/-! A host's listeners against a roster. The roster lists all registrations that were accepted,
in the order in which they were made, and strikes out those that are removed; it never takes a
line back. It goes by what is asked of the host and never looks at it. A host that follows its
roster has just those listeners that are not struck out, and goes on following it, whatever is
asked. -/
namespace PluginBridge
open Host (Listener ListenerId)

namespace Host

/-- A registration that was accepted, and whether it has been removed. -/
structure Enrolment where
  listener : Listener
  removed : Bool
deriving DecidableEq, Repr

structure Roster where
  /-- All registrations, in the order in which they were made. -/
  lines : List Enrolment
  /-- No more registrations are accepted. -/
  closed : Bool
deriving DecidableEq, Repr

namespace Roster

def empty : Roster := ⟨[], false⟩

/-- All registrations that were accepted. -/
def made (roster : Roster) : List Listener :=
  roster.lines.map (·.listener)

/-- The registrations that were accepted and have not been removed. -/
def live (roster : Roster) : List Listener :=
  (roster.lines.filter (!·.removed)).map (·.listener)

/-- The number that the next registration gets. -/
def nextId (roster : Roster) : ListenerId := roster.made.length + 1

def enrol (roster : Roster) (listener : Listener) : Roster :=
  { roster with lines := roster.lines ++ [⟨listener, false⟩] }

/-- Strikes out some registrations, which may have been struck out before. -/
def strike (roster : Roster) (gone : Listener → Bool) : Roster :=
  { roster with
    lines := roster.lines.map fun line =>
      { line with removed := line.removed || gone line.listener } }

/-- What becomes of the roster when something is asked of the world. -/
def serve (roster : Roster) : Request → Roster
  | .listen owner kind code =>
    if roster.closed then roster else roster.enrol ⟨roster.nextId, owner, kind, .code code⟩
  | .unlisten id => roster.strike (·.id = id)
  | .unlistenOwner owner => roster.strike (·.owner = owner)
  | .shutdown => { roster with closed := true }
  | _ => roster

def serveAll (roster : Roster) (requests : List Request) : Roster :=
  requests.foldl serve roster

/-- The roster of a new host of which some things have been asked, the first of them first. -/
def after (requests : List Request) : Roster := empty.serveAll requests

@[simp] theorem serveAll_nil (roster : Roster) : roster.serveAll [] = roster := rfl

@[simp] theorem serveAll_cons (roster : Roster) (request : Request) (rest : List Request) :
    roster.serveAll (request :: rest) = (roster.serve request).serveAll rest := rfl

@[simp] theorem serveAll_append (roster : Roster) (first second : List Request) :
    roster.serveAll (first ++ second) = (roster.serveAll first).serveAll second :=
  List.foldl_append

@[simp] theorem made_enrol (roster : Roster) (listener : Listener) :
    (roster.enrol listener).made = roster.made ++ [listener] := by
  simp [made, enrol]

@[simp] theorem made_strike (roster : Roster) (gone : Listener → Bool) :
    (roster.strike gone).made = roster.made := by
  simp [made, strike]

@[simp] theorem live_enrol (roster : Roster) (listener : Listener) :
    (roster.enrol listener).live = roster.live ++ [listener] := by
  simp [live, enrol]

@[simp] theorem live_strike (roster : Roster) (gone : Listener → Bool) :
    (roster.strike gone).live = roster.live.filter (!gone ·) := by
  simp [live, strike, List.filter_map, List.filter_filter, Function.comp_def, Bool.and_comm]

theorem live_sublist (roster : Roster) : roster.live.Sublist roster.made :=
  List.filter_sublist.map _

/-- A roster is closed from the moment on in which the host is to be shut down. -/
theorem closed_serveAll (roster : Roster) (requests : List Request) :
    (roster.serveAll requests).closed = true ↔
      roster.closed = true ∨ .shutdown ∈ requests := by
  induction requests generalizing roster with
  | nil => simp
  | cons request rest ih =>
    have now : (roster.serve request).closed = true ↔
        roster.closed = true ∨ .shutdown = request := by
      cases request with
      | listen owner kind code => cases closed : roster.closed <;> simp [serve, closed, enrol]
      | _ => simp [serve, strike]
    rw [serveAll_cons, ih, now, List.mem_cons, or_assoc]

theorem closed_after (requests : List Request) :
    (after requests).closed = true ↔ .shutdown ∈ requests :=
  (closed_serveAll empty requests).trans (or_iff_right nofun)

/-- Numbers are given out in turn, and only code gets enrolled. -/
structure Sound (roster : Roster) : Prop where
  numbers : roster.made.map (·.id) = List.range' 1 roster.made.length
  coded : ∀ listener ∈ roster.made, ∃ code, listener.hearer = .code code

namespace Sound
variable {roster : Roster}

theorem empty : Roster.empty.Sound := ⟨rfl, nofun⟩

theorem of_same {later : Roster} (sound : roster.Sound) (same : later.made = roster.made) :
    later.Sound :=
  ⟨by rw [same, sound.numbers], same ▸ sound.coded⟩

theorem serve (sound : roster.Sound) (request : Request) : (roster.serve request).Sound := by
  cases request with
  | listen owner kind code =>
    cases closed : roster.closed with
    | true => simpa [Roster.serve, closed] using sound
    | false =>
      simp only [Roster.serve, closed, Bool.false_eq_true, if_false]
      refine ⟨?_, ?_⟩
      · rw [made_enrol, List.map_append, sound.numbers, List.length_append, List.length_singleton,
          List.range'_1_concat]
        simp [nextId, Nat.add_comm]
      · rw [made_enrol]
        exact List.forall_mem_append.mpr
          ⟨sound.coded, List.forall_mem_singleton.mpr ⟨code, rfl⟩⟩
  | unlisten id => exact sound.of_same (made_strike ..)
  | unlistenOwner owner => exact sound.of_same (made_strike ..)
  | _ => exact sound.of_same rfl

theorem serveAll (sound : roster.Sound) (requests : List Request) :
    (roster.serveAll requests).Sound := by
  induction requests generalizing roster with
  | nil => exact sound
  | cons request rest ih => exact ih (sound.serve request)

theorem distinct (sound : roster.Sound) : (roster.made.map (·.id)).Nodup := by
  rw [sound.numbers]
  exact List.nodup_range'

theorem distinct_live (sound : roster.Sound) : (roster.live.map (·.id)).Nodup :=
  sound.distinct.sublist (roster.live_sublist.map _)

/-- A number that has not been given out was never given out before. -/
theorem nextId_fresh (sound : roster.Sound) : roster.nextId ∉ roster.made.map (·.id) := by
  rw [sound.numbers, List.mem_range'_1, nextId]
  omega

end Sound
end Roster

/-- The host has the listeners that its roster has not struck out, gives the next one the
number that the roster says, and is shut down if the roster is closed. -/
structure Follows (host : Host) (roster : Roster) : Prop where
  listeners : host.registry.listeners = roster.live
  next : host.registry.nextListener = roster.nextId
  closed : host.closed = roster.closed

theorem follows_empty (kind : Kind) : (Host.empty kind).Follows .empty := ⟨rfl, rfl, rfl⟩

namespace Follows
variable {host later : Host} {roster : Roster}

theorem of_same (follows : host.Follows roster)
    (registry : later.registry.listeners = host.registry.listeners ∧
      later.registry.nextListener = host.registry.nextListener)
    (closed : later.closed = host.closed) : later.Follows roster :=
  ⟨registry.1.trans follows.listeners, registry.2.trans follows.next,
    closed.trans follows.closed⟩

theorem enrol (follows : host.Follows roster) (owner : String) (kind : HostEventKind)
    (code : CodeId) :
    Follows { host with registry := (host.registry.addListener owner kind (.code code)).1 }
      (roster.enrol ⟨roster.nextId, owner, kind, .code code⟩) where
  listeners := by simp [Registry.addListener, follows.listeners, follows.next]
  next := by simp [Registry.addListener, follows.next, Roster.nextId]
  closed := follows.closed

theorem strike (follows : host.Follows roster) (gone : Listener → Bool) :
    Follows { host with registry := { host.registry with
      listeners := host.registry.listeners.filter (!gone ·) } } (roster.strike gone) where
  listeners := by rw [Roster.live_strike, follows.listeners]
  next := by rw [Roster.nextId, Roster.made_strike, follows.next, Roster.nextId]
  closed := follows.closed

end Follows

theorem addListener_closed {host : Host} (closed : host.closed = true) (owner : String)
    (kind : HostEventKind) (hearer : Hearer) :
    host.addListener owner kind hearer = .error (.closed host.name) := by
  simp [addListener, register, closed]

theorem addListener_open {host : Host} (accepts : host.closed = false) (owner : String)
    (kind : HostEventKind) (hearer : Hearer) :
    host.addListener owner kind hearer =
      .ok ({ host with registry := (host.registry.addListener owner kind hearer).1 },
        host.registry.nextListener) := by
  simp [addListener, register, accepts, Except.map, Registry.addListener]

end Host

/-! ## What is asked of a host -/

section
variable {Memory : Type}

/-- The world with other listeners of the host, and nothing else changed. -/
def World.relist (world : World Memory) (listeners : List Listener) : World Memory :=
  world.alter (·.updateHost fun host => { host with registry := { host.registry with listeners } })

variable (call : Caller Memory) (world : World Memory)

/-- A host that is shut down refuses every listener, and nothing changes. -/
theorem on_listen_closed (closed : world.state.host.closed = true) (owner : String)
    (kind : HostEventKind) (code : CodeId) :
    (perform call (.listen owner kind code)).on world =
      (.ok (.error (.closed world.state.host.name)), world) := by
  simp only [perform, Action.tryHost, Action.on_answer, World.alter,
    Host.addListener_closed closed]

theorem on_listen_open (accepts : world.state.host.closed = false) (owner : String)
    (kind : HostEventKind) (code : CodeId) :
    (perform call (.listen owner kind code)).on world =
      (.ok (.ok world.state.host.registry.nextListener), world.alter (·.updateHost fun host =>
        { host with registry := (host.registry.addListener owner kind (.code code)).1 })) := by
  simp only [perform, Action.tryHost, Action.on_answer, World.alter, State.updateHost,
    Host.addListener_open accepts]

theorem on_unlisten (id : ListenerId) :
    (perform call (.unlisten id)).on world =
      (.ok (world.state.host.registry.listeners.any (·.id = id)),
        world.relist (world.state.host.registry.listeners.filter (·.id ≠ id))) := rfl

theorem on_unlistenOwner (owner : String) :
    (perform call (.unlistenOwner owner)).on world =
      (.ok (world.state.host.registry.listeners.filter (·.owner = owner)).length,
        world.relist (world.state.host.registry.listeners.filter (·.owner ≠ owner))) := rfl

end
end PluginBridge
