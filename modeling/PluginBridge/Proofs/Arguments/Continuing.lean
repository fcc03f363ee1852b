import Mathlib.Data.List.Induction
import PluginBridge.Proofs.Arguments.Reading

/-! Lines that are still being typed. What completion takes for the word under the cursor is
what the player goes on with: when more is typed, the line is split into the words before
the cursor and this word with the new characters behind it. The line may end anywhere, in a
gap, in open quotes, behind a backslash or right behind a closing quote. -/
namespace PluginBridge.Arguments

/-- Whether a word is an argument if it ends here. -/
def Word.Begun (word : Word) : Prop :=
  word.finish = [word.read]

theorem Word.begun_push (word : Word) (c : Char) : (word.push c).Begun := by
  simp [Begun, finish, push]

theorem Word.begun_quote (word : Word) : word.quote.Begun := by
  simp [Begun, finish, quote]

theorem awaitsArgument_concat (line : List Char) (c : Char) :
    awaitsArgument (line ++ [c]) = isGap c := by
  simp [awaitsArgument]

namespace Reading

/-- Where the cursor is at the end of a line. -/
inductive Ends (reading : Reading) (line : List Char) : Prop where
  /-- The next character begins a word. -/
  | between (bare : reading.mode = .bare) (gap : awaitsArgument line = true)
      (empty : reading.word = .empty)
  /-- The next character goes on with a word. -/
  | within (begun : reading.word.Begun)
      (inside : reading.mode = .bare → awaitsArgument line = false)

/-- All that a step has to know is that quotes which are open belong to a word. -/
theorem ends_step {reading : Reading} (quoted : reading.mode ≠ .bare → reading.word.Begun)
    (line : List Char) (c : Char) : (reading.step c).Ends (line ++ [c]) := by
  obtain ⟨finished, word, mode⟩ := reading
  have awaits := awaitsArgument_concat line c
  cases mode with
  | escaped => exact .within (word.begun_push c) (by simp [step, push])
  | double =>
    simp only [step]
    split
    · exact .within (quoted (by simp)) (by simp)
    · split
      · next close => exact .within word.begun_quote fun _ => by rw [awaits, close]; rfl
      · exact .within (word.begun_push c) (by simp [push])
  | single =>
    simp only [step]
    split
    · next close => exact .within word.begun_quote fun _ => by rw [awaits, close]; rfl
    · exact .within (word.begun_push c) (by simp [push])
  | bare =>
    simp only [step]
    split
    · exact .within word.begun_quote (by simp [quote])
    · split
      · exact .within word.begun_quote (by simp [quote])
      · split
        · next gap => exact .between rfl (awaits.trans gap) rfl
        · next plain =>
          exact .within (word.begun_push c) fun _ => awaits.trans (Bool.not_eq_true _ ▸ plain)

theorem ends_read (finished : List (List Char)) (line : List Char) :
    ((fresh finished).read line).Ends line := by
  induction line using List.reverseRecOn with
  | nil => exact .between rfl rfl rfl
  | append_singleton line c ih =>
    rw [read_concat]
    refine ends_step (fun inQuotes => ?_) line c
    cases ih with
    | between bare => exact absurd bare inQuotes
    | within begun => exact begun

/-- A character that is no gap, no quote and no backslash. -/
def IsPlain (c : Char) : Prop :=
  c ≠ ' ' ∧ c ≠ '\t' ∧ c ≠ '\x27' ∧ c ≠ '"' ∧ c ≠ '\\'

theorem IsPlain.takes {c : Char} (plain : IsPlain c) {mode : Mode} (regular : mode ≠ .escaped) :
    mode.Takes c := by
  obtain ⟨space, tab, single, double, slash⟩ := plain
  cases mode with
  | bare => exact ⟨single, double, by simp [isGap, space, tab]⟩
  | single => exact single
  | double => exact ⟨slash, double⟩
  | escaped => exact absurd rfl regular

/-- Plain characters go on with the word, whatever the next character means: a backslash takes the
first of them, and quotes that are open the others. -/
theorem read_plain (reading : Reading) {text : List Char} (given : text ≠ [])
    (plain : ∀ c ∈ text, IsPlain c) : ∃ mode, reading.read text =
      ⟨reading.finished, ⟨reading.word.read ++ text, reading.word.quoted⟩, mode⟩ := by
  by_cases regular : reading.mode = .escaped
  · obtain ⟨finished, word, mode⟩ := reading
    cases regular
    cases text with
    | nil => exact absurd rfl given
    | cons c rest =>
      have takes : ∀ other ∈ rest, Mode.double.Takes other := fun other inside =>
        (plain other (List.mem_cons_of_mem c inside)).takes nofun
      refine ⟨.double, (read_of_takes ⟨finished, word.push c, .double⟩ takes).trans ?_⟩
      simp [Word.push]
  · exact ⟨reading.mode, read_of_takes reading fun c inside => (plain c inside).takes regular⟩

theorem arguments_read_plain (reading : Reading) {text : List Char} (given : text ≠ [])
    (plain : ∀ c ∈ text, IsPlain c) :
    (reading.read text).arguments = reading.finished ++ [reading.word.read ++ text] := by
  obtain ⟨mode, reads⟩ := reading.read_plain given plain
  rw [reads]
  simp [arguments, Word.finish, given]

end Reading

/-- The last word for completion is the one that is being read at the end of the line. -/
theorem splitForCompletion_eq_read (line : String) : splitForCompletion line =
    (readingOf line).finished.map String.ofList ++ [String.ofList (readingOf line).word.read] := by
  have ends : (readingOf line).Ends line.toList := Reading.ends_read [] line.toList
  rw [splitForCompletion_eq, split_eq, Reading.arguments, List.map_append]
  cases ends with
  | between bare gap empty => simp [bare, gap, empty, Word.finish, Word.empty]
  | within begun inside =>
    have closed : ((readingOf line).mode = .bare && awaitsArgument line.toList) = false := by
      by_cases bare : (readingOf line).mode = .bare <;> simp [bare, inside]
    have whole : (readingOf line).word.finish = [(readingOf line).word.read] := begun
    simp [closed, whole]

/-- Completion always has a word under the cursor, and when the player goes on typing, no
matter which characters but gaps, quotes and backslashes, the line is split into the words
that completion had before the cursor and the word under it with the new characters behind. -/
theorem completion_sees_the_word_to_come (line : String) :
    ∃ before word, splitForCompletion line = before ++ [word] ∧
      ∀ more, more ≠ "" → (∀ c ∈ more.toList,
          c ≠ ' ' ∧ c ≠ '\t' ∧ c ≠ '\x27' ∧ c ≠ '"' ∧ c ≠ '\\') →
        split (line ++ more) = before ++ [word ++ more] := by
  refine ⟨_, _, splitForCompletion_eq_read line, fun more given plain => ?_⟩
  have characters : more.toList ≠ [] := fun none => given (String.toList_eq_nil_iff.mp none)
  have reads : readingOf (line ++ more) = (readingOf line).read more.toList := by
    rw [readingOf, String.toList_append, Reading.read_append, readingOf]
  rw [split_eq, reads, Reading.arguments_read_plain _ characters plain]
  simp

/-- The line ends behind a backslash, in quotes that follow an argument of nothing. -/
theorem escaped_word_goes_on :
    splitForCompletion "'' \"a \\" = ["", "a "] ∧ split "'' \"a \\go" = ["", "a go"] := by
  obtain ⟨before, word, completes, goesOn⟩ := completion_sees_the_word_to_come "'' \"a \\"
  have there : splitForCompletion "'' \"a \\" = [""] ++ ["a "] := by decide +kernel
  obtain ⟨rfl, same⟩ := List.append_inj' (completes.symm.trans there) rfl
  cases same
  exact ⟨there, goesOn "go" (by decide) (by simp)⟩

end PluginBridge.Arguments
