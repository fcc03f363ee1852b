import PluginBridge.Settings.Layer

/-! What layers of settings come to, said without following a table: two tables
unite key by key, and in every other case the upper value takes the place of the
lower one. Laying one layer over another keeps to this, and so does every path: what
is found there is the union of what the layers hold there, except that a layer with
something other than a table above the path hides what lies below. -/
namespace PluginBridge.Settings

/-! ## Tables in order -/

mutual

/-- The keys of a table come in order, and so do those of the tables inside it. -/
def Ordered : Value → Prop
  | .table entries => OrderedEntries entries
  | _ => True

def OrderedEntries : Table → Prop
  | [] => True
  | (key, value) :: rest => (∀ entry ∈ rest, key < entry.1) ∧ Ordered value ∧ OrderedEntries rest

end

theorem OrderedEntries.lookup {entries : Table} (ordered : OrderedEntries entries) {key : String}
    {value : Value} (found : entries.lookup key = some value) : Ordered value := by
  induction entries with
  | nil => cases found
  | cons entry rest ih =>
    obtain ⟨-, first, others⟩ := ordered
    rw [List.lookup_cons] at found
    split at found
    · cases found
      exact first
    · exact ih others found

/-- A key before all others is none of them. -/
theorem lookup_of_before {key : String} {entries : Table}
    (before : ∀ entry ∈ entries, key < entry.1) : entries.lookup key = none := by
  refine List.lookup_eq_none_iff.mpr fun entry member => ?_
  exact bne_iff_ne.mpr fun same => String.lt_irrefl _ (same ▸ before entry member)

/-- If keys come in order, then changing one key replaces its value, or adds one. -/
theorem OrderedEntries.lookup_changeKey {entries : Table} (ordered : OrderedEntries entries)
    (key : String) (change : Value → Value) :
    (changeKey key change entries).lookup key =
      some (change ((entries.lookup key).getD .null)) := by
  induction entries with
  | nil => simp [changeKey]
  | cons entry rest ih =>
    obtain ⟨other, old⟩ := entry
    obtain ⟨before, -, others⟩ := ordered
    simp only [changeKey]
    split
    · next same => simp [same]
    · next different =>
      have differs : (key == other) = false := beq_eq_false_iff_ne.mpr different
      split
      · next less =>
        have absent : rest.lookup key = none :=
          lookup_of_before fun entry member => String.lt_trans less (before entry member)
        simp [List.lookup_cons, differs, absent]
      · simp only [List.lookup_cons, differs, ih others]

theorem key_of_mem_changeKey {key : String} {change : Value → Value} {entries : Table}
    {entry : String × Value} (member : entry ∈ changeKey key change entries) :
    entry.1 = key ∨ ∃ known ∈ entries, entry.1 = known.1 := by
  induction entries with
  | nil => exact .inl (by rw [List.mem_singleton.mp member])
  | cons first rest ih =>
    obtain ⟨other, old⟩ := first
    simp only [changeKey] at member
    split at member
    · obtain rfl | later := List.mem_cons.mp member
      · exact .inl rfl
      · exact .inr ⟨entry, List.mem_cons_of_mem _ later, rfl⟩
    · split at member
      · obtain rfl | later := List.mem_cons.mp member
        · exact .inl rfl
        · exact .inr ⟨entry, later, rfl⟩
      · obtain rfl | later := List.mem_cons.mp member
        · exact .inr ⟨_, List.mem_cons_self, rfl⟩
        · obtain new | ⟨known, there, same⟩ := ih later
          · exact .inl new
          · exact .inr ⟨known, List.mem_cons_of_mem _ there, same⟩

theorem OrderedEntries.changeKey {entries : Table} (ordered : OrderedEntries entries)
    {key : String} {change : Value → Value}
    (keeps : ∀ value, Ordered value → Ordered (change value)) :
    OrderedEntries (changeKey key change entries) := by
  induction entries with
  | nil => exact ⟨by simp, keeps _ trivial, trivial⟩
  | cons entry rest ih =>
    obtain ⟨other, old⟩ := entry
    obtain ⟨before, first, others⟩ := ordered
    simp only [Settings.changeKey]
    split
    · next same =>
      subst same
      exact ⟨before, keeps old first, others⟩
    · next different =>
      split
      · next less =>
        refine ⟨fun known member => ?_, keeps _ trivial, before, first, others⟩
        obtain rfl | later := List.mem_cons.mp member
        · exact less
        · exact String.lt_trans less (before known later)
      · next notLess =>
        have greater : other < key := by
          refine String.not_le.mp fun le => notLess ?_
          exact String.not_le.mp fun ge => different (String.le_antisymm le ge)
        refine ⟨fun known member => ?_, first, ih others⟩
        obtain new | ⟨one, there, same⟩ := key_of_mem_changeKey member
        · exact new ▸ greater
        · exact same ▸ before one there

theorem OrderedEntries.put {entries : Table} (ordered : OrderedEntries entries) (key : String)
    {value : Value} (inside : Ordered value) : OrderedEntries (put key value entries) :=
  ordered.changeKey fun _ _ => inside

mutual

theorem ordered_arranged (value : Value) : Ordered (arranged value) := by
  cases value with
  | table entries => exact ordered_sorted entries
  | _ => trivial

theorem ordered_sorted (entries : Table) : OrderedEntries (sorted entries) := by
  cases entries with
  | nil => trivial
  | cons entry rest => exact (ordered_sorted rest).put entry.1 (ordered_arranged entry.2)

end

theorem Ordered.entriesOf {value : Value} (ordered : Ordered value) :
    OrderedEntries (entriesOf value) := by
  cases value with
  | table entries => exact ordered
  | _ => trivial

mutual

theorem Ordered.overlay (upper : Value) (above : Ordered upper) {lower : Value}
    (below : Ordered lower) : Ordered (overlay upper lower) := by
  cases upper with
  | table entries => exact OrderedEntries.overlay entries above below.entriesOf
  | _ => trivial

theorem OrderedEntries.overlay (upper : Table) (above : OrderedEntries upper) {lower : Table}
    (below : OrderedEntries lower) : OrderedEntries (overlayEntries upper lower) := by
  cases upper with
  | nil => exact below
  | cons entry rest =>
    obtain ⟨-, first, others⟩ := above
    exact OrderedEntries.overlay rest others
      (below.changeKey fun _ known => Ordered.overlay entry.2 first known)

end

/-! ## Laying one value over another -/

/-- What is found in united tables. -/
theorem lookup_overlayEntries {upper lower : Table} (above : OrderedEntries upper)
    (below : OrderedEntries lower) (key : String) :
    (overlayEntries upper lower).lookup key =
      match upper.lookup key with
      | none => lower.lookup key
      | some value => some (overlay value ((lower.lookup key).getD .null)) := by
  induction upper generalizing lower with
  | nil => rfl
  | cons entry rest ih =>
    obtain ⟨other, value⟩ := entry
    obtain ⟨before, first, others⟩ := above
    have changed : OrderedEntries (changeKey other (Settings.overlay value) lower) :=
      below.changeKey fun _ known => first.overlay value known
    rw [overlayEntries, ih others changed]
    by_cases same : key = other
    · subst same
      rw [lookup_of_before before, List.lookup_cons_self]
      exact below.lookup_changeKey key _
    · have differs : (key == other) = false := beq_eq_false_iff_ne.mpr same
      simp only [List.lookup_cons, differs, lookup_changeKey_of_ne same]

/-- A key after all others takes the last place. -/
theorem changeKey_after {key : String} {change : Value → Value} {entries : Table}
    (after : ∀ entry ∈ entries, entry.1 < key) :
    changeKey key change entries = entries ++ [(key, change .null)] := by
  induction entries with
  | nil => rfl
  | cons entry rest ih =>
    obtain ⟨other, old⟩ := entry
    obtain ⟨less, others⟩ := List.forall_mem_cons.mp after
    have different : key ≠ other := fun same => String.lt_irrefl _ (same ▸ less)
    simp [changeKey, different, String.lt_asymm less, ih others]

mutual

/-- Over something other than a table a value stays as it is. -/
theorem Ordered.overlay_plain (upper : Value) (above : Ordered upper) {lower : Value}
    (plain : entriesOf lower = []) : Settings.overlay upper lower = upper := by
  cases upper with
  | table entries =>
    have same : overlayEntries entries [] = [] ++ entries :=
      OrderedEntries.overlay_after entries above (by simp)
    simp only [Settings.overlay, plain, same, List.nil_append]
  | _ => rfl

theorem OrderedEntries.overlay_after (upper : Table) (above : OrderedEntries upper)
    {below : Table} (after : ∀ entry ∈ upper, ∀ known ∈ below, known.1 < entry.1) :
    overlayEntries upper below = below ++ upper := by
  cases upper with
  | nil => simp [overlayEntries]
  | cons entry rest =>
    obtain ⟨key, value⟩ := entry
    obtain ⟨before, first, others⟩ := above
    obtain ⟨now, later⟩ := List.forall_mem_cons.mp after
    have same : Settings.overlay value .null = value := Ordered.overlay_plain value first rfl
    rw [overlayEntries, changeKey_after now, same, OrderedEntries.overlay_after rest others]
    · simp
    · intro entry member known there
      obtain old | new := List.mem_append.mp there
      · exact later entry member known old
      · exact List.mem_singleton.mp new ▸ before entry member

end

/-! ## Unions -/

/-- What a lower and an upper value come to, where there are such values. Two tables
unite key by key. In every other case the upper value stands for itself, and the
lower one only where there is no upper one. -/
inductive Unites : Option Value → Option Value → Option Value → Prop where
  | lower (value : Option Value) : Unites value none value
  | upper (value : Value) : Unites none (some value) (some value)
  | instead {lower upper : Value}
      (apart : ¬ ∃ below above, lower = .table below ∧ upper = .table above) :
      Unites (some lower) (some upper) (some upper)
  | tables {lower upper both : Table}
      (each : ∀ key, Unites (lower.lookup key) (upper.lookup key) (both.lookup key)) :
      Unites (some (.table lower)) (some (.table upper)) (some (.table both))

/-- Over nothing everything stands for itself. -/
theorem Unites.alone (value : Option Value) : Unites none value value := by
  cases value with
  | none => exact .lower none
  | some value => exact .upper value

mutual

theorem Ordered.unites (upper : Value) (above : Ordered upper) {lower : Value}
    (below : Ordered lower) :
    Unites (some lower) (some upper) (some (Settings.overlay upper lower)) := by
  cases upper with
  | table entries =>
    cases lower with
    | table known =>
      refine .tables fun key => ?_
      simp only [Settings.entriesOf, lookup_overlayEntries above below]
      cases given : entries.lookup key with
      | none => exact .lower _
      | some value =>
        cases found : known.lookup key with
        | none =>
          have same : Settings.overlay value .null = value :=
            (above.lookup given).overlay_plain value rfl
          simp only [Option.getD_none, same]
          exact .upper value
        | some old => exact OrderedEntries.unites entries above given (below.lookup found)
    | _ =>
      rw [Ordered.overlay_plain (.table entries) above rfl]
      exact .instead fun ⟨_, _, isTable, _⟩ => nomatch isTable
  | _ => exact .instead fun ⟨_, _, _, isTable⟩ => nomatch isTable

theorem OrderedEntries.unites (upper : Table) (above : OrderedEntries upper) {key : String}
    {value : Value} (given : upper.lookup key = some value) {lower : Value}
    (below : Ordered lower) :
    Unites (some lower) (some value) (some (Settings.overlay value lower)) := by
  cases upper with
  | nil => cases given
  | cons entry rest =>
    obtain ⟨other, first⟩ := entry
    obtain ⟨-, ordered, others⟩ := above
    rw [List.lookup_cons] at given
    split at given
    · obtain rfl := Option.some.inj given
      exact Ordered.unites first ordered below
    · exact OrderedEntries.unites rest others given below

end

/-! ## Along a path -/

/-- Whether a value hides what lies under a path: before the path ends it comes to
something other than a table. -/
def hides : List String → Value → Bool
  | [], _ => false
  | key :: rest, .table entries =>
    match entries.lookup key with
    | some inner => hides rest inner
    | none => false
  | _ :: _, _ => true

theorem findUnder_of_hides {path : List String} {value : Value} (hidden : hides path value = true) :
    findUnder path value = none := by
  induction path generalizing value with
  | nil => cases hidden
  | cons key rest ih =>
    cases value with
    | table entries =>
      simp only [hides] at hidden
      simp only [findUnder]
      cases found : entries.lookup key with
      | none => rfl
      | some inner =>
        rw [found] at hidden
        exact ih hidden
    | _ => rfl

/-- Along a path that the upper value does not hide, values unite as they do at its
beginning; below something that hides it there is nothing. -/
theorem Unites.along {lower upper both : Value}
    (unites : Unites (some lower) (some upper) (some both)) (path : List String) :
    (hides path upper = true → findUnder path both = none) ∧
      (hides path upper = false →
        Unites (findUnder path lower) (findUnder path upper) (findUnder path both)) := by
  induction path generalizing lower upper both with
  | nil => exact ⟨nofun, fun _ => unites⟩
  | cons key rest ih =>
    cases unites with
    | instead apart =>
      refine ⟨findUnder_of_hides, fun seen => ?_⟩
      cases upper with
      | table above =>
        cases lower with
        | table below => exact absurd ⟨below, above, rfl, rfl⟩ apart
        | _ => exact .alone _
      | _ => cases seen
    | tables each =>
      rename_i below above all
      simp only [hides, findUnder]
      have here := each key
      generalize below.lookup key = known at here ⊢
      generalize above.lookup key = given at here ⊢
      generalize all.lookup key = found at here ⊢
      cases here with
      | lower value => exact ⟨nofun, fun _ => .lower _⟩
      | upper value => exact ⟨findUnder_of_hides, fun _ => .alone _⟩
      | instead apart => exact ih (.instead apart)
      | tables each => exact ih (.tables each)

/-- What is found under a path in layers, of which the first lies lowest. -/
inductive Layered (path : List String) : List Value → Option Value → Prop where
  | empty : Layered path [] none
  | hidden {layers : List Value} {upper : Value} {below : Option Value}
      (before : Layered path layers below) (hides : hides path upper = true) :
      Layered path (layers ++ [upper]) none
  | seen {layers : List Value} {upper : Value} {below both : Option Value}
      (before : Layered path layers below) (seen : Settings.hides path upper = false)
      (unites : Unites below (findUnder path upper) both) :
      Layered path (layers ++ [upper]) both

theorem Layered.single (path : List String) (value : Value) :
    Layered path [value] (findUnder path value) := by
  cases hidden : hides path value with
  | true =>
    rw [findUnder_of_hides hidden]
    exact .hidden .empty hidden
  | false => exact .seen .empty hidden (.alone _)

/-- One more layer, laid over those before it. -/
theorem Layered.overlay {path : List String} {layers : List Value} {lower upper : Value}
    (before : Layered path layers (findUnder path lower)) (below : Ordered lower)
    (above : Ordered upper) :
    Layered path (layers ++ [upper]) (findUnder path (Settings.overlay upper lower)) := by
  obtain ⟨none, union⟩ := (above.unites upper below).along path
  cases hidden : hides path upper with
  | true =>
    rw [none hidden]
    exact .hidden before hidden
  | false => exact .seen before hidden (union hidden)

end PluginBridge.Settings
