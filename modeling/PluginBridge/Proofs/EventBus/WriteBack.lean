import PluginBridge.Proofs.EventBus.Delivery

/-! What a host gets back of a chat event. Its capabilities stay as the host has set them,
and what they rule out cannot be edited, so the fields that are not written back are those
that the host holds already: host and event agree in the end, whatever was edited, refused
or edited back on the way. -/
namespace PluginBridge
variable {Memory : Type}

/-! ## Edits -/

/-- What an edit makes of a chat event. The setters of the event and its view as an event
that can be cancelled come to the same; other edits are for other events. -/
def Chat.edit (chat : Chat) : Edit → Except EditFailure Chat
  | .message text => chat.setMessage text
  | .cancelled flag => chat.setCancelled flag
  | .cancelWith _ | .reason _ => .ok chat

/-- What edits of a chat event leave of the event it was to begin with. -/
structure Chat.Keeps (start chat : Chat) : Prop where
  user : chat.user = start.user
  cancellable : chat.cancellable = start.cancellable
  modifiable : chat.modifiable = start.modifiable
  message : start.modifiable = false → chat.message = start.message
  cancelled : start.cancellable = false → chat.cancelled = start.cancelled

/-- An edit that is refused: the event cannot be edited so, and the failure names it. -/
def Chat.Refuses (chat : Chat) (edit : Edit) (failure : EditFailure) : Prop :=
  (∃ text, edit = .message text ∧ chat.modifiable = false ∧ failure = .notModifiable Chat.name) ∨
    ∃ flag, edit = .cancelled flag ∧ chat.cancellable = false ∧
      failure = .notCancellable Chat.name

namespace Chat
variable {start chat later : Chat}

theorem Keeps.refl (chat : Chat) : chat.Keeps chat :=
  ⟨rfl, rfl, rfl, fun _ => rfl, fun _ => rfl⟩

theorem Keeps.trans (first : start.Keeps chat) (second : chat.Keeps later) :
    start.Keeps later where
  user := second.user.trans first.user
  cancellable := second.cancellable.trans first.cancellable
  modifiable := second.modifiable.trans first.modifiable
  message fixed := (second.message (first.modifiable.trans fixed)).trans (first.message fixed)
  cancelled fixed :=
    (second.cancelled (first.cancellable.trans fixed)).trans (first.cancelled fixed)

theorem keeps_setMessage {text : String} (set : chat.setMessage text = .ok later) :
    chat.Keeps later ∧ later.message = text := by
  unfold setMessage at set
  split at set
  · next modifiable =>
    cases set
    exact ⟨⟨rfl, rfl, rfl, fun fixed => absurd modifiable (by simp [fixed]), fun _ => rfl⟩, rfl⟩
  · cases set

theorem keeps_setCancelled {flag : Bool} (set : chat.setCancelled flag = .ok later) :
    chat.Keeps later ∧ later.cancelled = flag := by
  unfold setCancelled at set
  split at set
  · next cancellable =>
    cases set
    exact ⟨⟨rfl, rfl, rfl, fun _ => rfl, fun fixed => absurd cancellable (by simp [fixed])⟩, rfl⟩
  · cases set

theorem keeps_edit {edit : Edit} (edited : chat.edit edit = .ok later) : chat.Keeps later := by
  cases edit with
  | message text => exact (keeps_setMessage edited).1
  | cancelled flag => exact (keeps_setCancelled edited).1
  | cancelWith reason | reason text =>
    cases edited
    exact .refl chat

/-- Just what the host has ruled out is refused. -/
theorem edit_eq_error_iff {edit : Edit} {failure : EditFailure} :
    chat.edit edit = .error failure ↔ chat.Refuses edit failure := by
  cases edit <;> simp [Chat.edit, setMessage, setCancelled, Refuses] <;> grind

end Chat

theorem Event.apply_chat (edit : Edit) (chat : Chat) :
    Event.apply edit (.chat chat) = (chat.edit edit).map .chat := by
  cases edit <;> rfl

/-- An edit that is refused leaves the event as it is. -/
theorem Event.amend_chat (chat : Chat) (edit : Edit) :
    ∃ left, Role.amend .hear (.chat chat) edit = .chat left ∧ chat.Keeps left ∧
      ∀ failure, chat.edit edit = .error failure → left = chat := by
  simp only [Role.amend, Role.apply, Event.apply_chat]
  cases edited : chat.edit edit with
  | error failure => exact ⟨chat, rfl, .refl chat, fun _ _ => rfl⟩
  | ok left =>
    refine ⟨left, rfl, Chat.keeps_edit edited, fun failure refused => ?_⟩
    cases refused

/-- What any edits of a chat event come to. -/
theorem Event.amends_chat (edits : List Edit) (start : Chat) :
    ∃ chat, edits.foldl (Role.amend .hear) (.chat start) = .chat chat ∧ start.Keeps chat := by
  induction edits generalizing start with
  | nil => exact ⟨start, rfl, .refl start⟩
  | cons edit rest ih =>
    obtain ⟨left, same, keeps, -⟩ := amend_chat start edit
    obtain ⟨chat, further, kept⟩ := ih left
    exact ⟨chat, by rw [List.foldl_cons, same, further], keeps.trans kept⟩

/-! ## Listeners -/

/-- What the listeners of a bus leave is what the edits come to that they have made. -/
theorem Turns.edits {depth : Nat} {world final : World Memory} {event edited : Event}
    {turns : List (Turn Memory)}
    (taken : Turns (callWithin depth) world event turns final edited) :
    ∃ edits : List Edit, edited = edits.foldl (Role.amend .hear) event := by
  induction taken with
  | done world event => exact ⟨[], rfl⟩
  | next made following ih =>
    obtain ⟨inner, code, -, -, left⟩ := made.keepsEdits
    obtain ⟨edits, rfl⟩ := ih
    exact ⟨_ ++ edits, by rw [List.foldl_append, ← left]⟩

theorem Action.dispatch_edits {depth : Nat} {adapter : AdapterId} {event outcome : Event}
    {world after : World Memory}
    (ran : (dispatch (callWithin depth) adapter event).on world = (.ok outcome, after)) :
    ∃ edits : List Edit, outcome = edits.foldl (Role.amend .hear) event := by
  unfold dispatch at ran
  rw [on_bind_ok (on_note ..), on_bind_ok (on_see ..)] at ran
  obtain ⟨turns, final, edited, taken, delivered⟩ := deliver_turns (callWithin depth) _ event _
  rw [ran] at delivered
  obtain ⟨-, ended⟩ | ⟨_, _, stop, _, -, -, ended⟩ := delivered
  · cases ended
    exact taken.edits
  · cases ended

/-! ## Writing back -/

namespace Chat

/-- Host and event agree once the event has been written back to a host that holds this
message and this flag, and no field has been written that need not or must not be. -/
structure WritesBack (chat : Chat) (held : String) (flag : Bool) : Prop where
  message : (chat.writeBack held).message.getD held = chat.message
  cancelled : (chat.writeBack held).cancelled.getD flag = chat.cancelled
  /-- The message is written if it may be and differs from the one that is held. -/
  writesMessage : ∀ text, (chat.writeBack held).message = some text ↔
    chat.modifiable = true ∧ text ≠ held ∧ text = chat.message
  /-- The flag is written whenever it may be. -/
  writesCancelled : ∀ set, (chat.writeBack held).cancelled = some set ↔
    chat.cancellable = true ∧ set = chat.cancelled

theorem Keeps.writesBack {start chat : Chat} (keeps : start.Keeps chat) :
    chat.WritesBack start.message start.cancelled where
  message := by
    have fixed := keeps.message
    rw [← keeps.modifiable] at fixed
    cases modifiable : chat.modifiable with
    | false => simp [writeBack, modifiable, fixed modifiable]
    | true =>
      by_cases same : chat.message = start.message <;> simp [writeBack, modifiable, same]
  cancelled := by
    have fixed := keeps.cancelled
    rw [← keeps.cancellable] at fixed
    cases cancellable : chat.cancellable with
    | false => simp [writeBack, cancellable, fixed cancellable]
    | true => simp [writeBack, cancellable]
  writesMessage text := by
    simp only [writeBack]
    grind
  writesCancelled set := by
    simp only [writeBack]
    grind

end Chat

/-- A chat event tells of a message and a flag that the host holds, and says whether they may
be changed. An edit of such an event is refused exactly if it may not be made, and leaves the
event alone then; one that is accepted sets what it says. Whatever edits are made, by whatever
listeners, accepted or refused, the event stays one of this player with these capabilities, and
what may not be changed stays as the host holds it. So host and event agree once the event has
been written back, for which the message is written only if it may be and is another one, and
the flag only if it may be. -/
theorem written_back_chat_agrees (user : Host.PlayerId) (held : String)
    (flag cancellable modifiable : Bool) :
    let start : Chat := ⟨user, held, flag, cancellable, modifiable⟩
    (∀ (chat : Chat) (edit : Edit),
      Event.apply edit (.chat chat) = (chat.edit edit).map .chat ∧
      (∀ failure, chat.edit edit = .error failure ↔ chat.Refuses edit failure) ∧
      (∀ failure, chat.edit edit = .error failure →
        Role.amend .hear (.chat chat) edit = .chat chat) ∧
      (∀ text left, chat.setMessage text = .ok left → left.message = text) ∧
      ∀ set left, chat.setCancelled set = .ok left → left.cancelled = set) ∧
    (∀ edits : List Edit, ∃ chat, edits.foldl (Role.amend .hear) (.chat start) = .chat chat ∧
      start.Keeps chat ∧ chat.WritesBack held flag ∧
      (HostEvent.chat user held flag).reconciled (.chat chat) =
        .chat user chat.message chat.cancelled) ∧
    ∀ (depth : Nat) (adapter : AdapterId) (world after : World Memory) (outcome : Event),
      (Action.dispatch (callWithin depth) adapter (.chat start)).on world = (.ok outcome, after) →
      ∃ edits : List Edit, outcome = edits.foldl (Role.amend .hear) (.chat start) := by
  intro start
  refine ⟨fun chat edit => ⟨Event.apply_chat edit chat, fun failure => Chat.edit_eq_error_iff,
    fun failure refused => ?_, fun text left set => (Chat.keeps_setMessage set).2,
    fun set left done => (Chat.keeps_setCancelled done).2⟩, fun edits => ?_,
    fun depth adapter world after outcome ran => Action.dispatch_edits ran⟩
  · obtain ⟨left, amended, -, same⟩ := Event.amend_chat chat edit
    rw [amended, same failure refused]
  · obtain ⟨chat, edited, keeps⟩ := Event.amends_chat edits start
    have writes : chat.WritesBack held flag := keeps.writesBack
    refine ⟨chat, edited, keeps, writes, ?_⟩
    simp only [HostEvent.reconciled, writes.message, writes.cancelled]

/-- One listener holds back what is said and then changes it, another changes it back. -/
def fickleShelf : List (Code Unit) :=
  [.listener (.edit (.cancelled true) fun _ => .edit (.message "bye") fun _ => .panic .other),
    .listener (.edit (.message "hi") fun _ => .finish (.ok ()))]

def fickleWorld : World Unit :=
  { state := { State.initial .server ⟨.empty, [], "/", "/"⟩ with
      adapters := [{ Adapter.detached "memory" "CONSOLE" false with
        bus := EventBus.after [.subscribe (some .chat) "late" .monitor 1,
          .subscribe (some .chat) "early" .lowest 0] }] }
    memory := ()
    shelf := fickleShelf }

/-- Nothing is written back of a message that cannot be held back and reads as it did. -/
theorem fickle_chat_agrees : ∃ chat after,
    (Action.dispatch (callWithin 1) 0 (.chat ⟨0, "hi", false, false, true⟩)).on fickleWorld =
      (.ok (.chat chat), after) ∧
    chat.WritesBack "hi" false ∧ chat.writeBack "hi" = ⟨none, none⟩ := by
  obtain ⟨-, each, made⟩ := @written_back_chat_agrees Unit 0 "hi" false false true
  cases ran : (Action.dispatch (callWithin 1) 0 (.chat ⟨0, "hi", false, false, true⟩)).on
      fickleWorld with
  | mk ending after =>
    have ended : ((Action.dispatch (callWithin 1) 0 (.chat ⟨0, "hi", false, false, true⟩)).on
        fickleWorld).1.toOption = some (.chat ⟨0, "hi", false, false, true⟩) := by decide +kernel
    rw [ran] at ended
    cases ending with
    | error stop => cases ended
    | ok outcome =>
      cases Option.some.inj ended
      obtain ⟨edits, same⟩ := made 1 0 fickleWorld after _ ran
      obtain ⟨chat, edited, -, writes, -⟩ := each edits
      cases same.trans edited
      exact ⟨_, after, rfl, writes, by decide⟩

end PluginBridge
