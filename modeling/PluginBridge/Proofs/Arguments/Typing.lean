import PluginBridge.Proofs.Arguments.Reading

/-! Arguments that are typed and read back. Every list of arguments can be typed, the empty
one and those with quotes and blanks in them included, and in more than one way; whichever
way is chosen for each of them, splitting the line gives the list again. -/
namespace PluginBridge.Arguments

/-! ## What is typed -/

/-- An argument inside double quotes, where a backslash stands before each backslash and
double quote. -/
def escape (argument : List Char) : List Char :=
  argument.flatMap fun c => if c = '\\' ∨ c = '"' then ['\\', c] else [c]

/-- The ways to type an argument. -/
inductive Typed : List Char → List Char → Prop where
  | double (argument : List Char) : Typed argument ('"' :: escape argument ++ ['"'])
  | single {argument : List Char} (unquoted : '\x27' ∉ argument) :
      Typed argument ('\x27' :: argument ++ ['\x27'])
  | bare {argument : List Char} (given : argument ≠ [])
      (plain : ∀ c ∈ argument, c ≠ ' ' ∧ c ≠ '\t' ∧ c ≠ '\x27' ∧ c ≠ '"') :
      Typed argument argument

def IsBlank (gap : List Char) : Prop :=
  ∀ c ∈ gap, c = ' ' ∨ c = '\t'

/-- Arguments as they are typed one behind another. Blanks may follow each of them, and
have to unless it is the last. -/
inductive TypedInLine : List String → List Char → Prop where
  | nothing : TypedInLine [] []
  | next {argument : String} {others : List String} {text gap rest : List Char}
      (typed : Typed argument.toList text) (blank : IsBlank gap)
      (apart : others ≠ [] → gap ≠ []) (behind : TypedInLine others rest) :
      TypedInLine (argument :: others) (text ++ gap ++ rest)

/-- In double quotes, with a space behind each, any arguments can be typed. -/
theorem exists_typedInLine (arguments : List String) : ∃ line, TypedInLine arguments line := by
  induction arguments with
  | nil => exact ⟨[], .nothing⟩
  | cons argument others ih =>
    obtain ⟨line, behind⟩ := ih
    have space : IsBlank [' '] := by simp [IsBlank]
    exact ⟨_, .next (.double argument.toList) space (by simp) behind⟩

/-! ## How it is read -/

theorem isGap_iff {c : Char} : isGap c = true ↔ c = ' ' ∨ c = '\t' := by
  simp [isGap]

namespace Reading

/-- A gap ends the word before it. -/
theorem step_of_isGap {reading : Reading} {c : Char} (bare : reading.mode = .bare)
    (gap : isGap c = true) : reading.step c = fresh reading.arguments := by
  obtain ⟨finished, word, mode⟩ := reading
  cases bare
  obtain rfl | rfl := isGap_iff.mp gap <;> rfl

@[simp] theorem arguments_fresh (finished : List (List Char)) :
    (fresh finished).arguments = finished :=
  List.append_nil finished

/-- Blanks that follow a gap are passed over. -/
theorem read_blank {gap : List Char} (blank : IsBlank gap) (finished : List (List Char)) :
    (fresh finished).read gap = fresh finished := by
  induction gap with
  | nil => rfl
  | cons c rest ih =>
    obtain ⟨first, others⟩ := List.forall_mem_cons.mp blank
    have stays : (fresh finished).step c = fresh finished := by
      rw [step_of_isGap rfl (isGap_iff.mpr first), arguments_fresh]
    rw [read, List.foldl_cons, ← read, stays]
    exact ih others

/-- Blanks behind a word end it. -/
theorem read_blank_behind {reading : Reading} {gap : List Char} (bare : reading.mode = .bare)
    (blank : IsBlank gap) (some : gap ≠ []) : reading.read gap = fresh reading.arguments := by
  cases gap with
  | nil => exact absurd rfl some
  | cons c rest =>
    obtain ⟨first, others⟩ := List.forall_mem_cons.mp blank
    rw [read, List.foldl_cons, ← read, step_of_isGap bare (isGap_iff.mpr first)]
    exact read_blank others _

/-- Inside double quotes, what was escaped is read back. -/
theorem read_escape (finished : List (List Char)) (word : Word) (argument : List Char) :
    read ⟨finished, word, .double⟩ (escape argument) =
      ⟨finished, ⟨word.read ++ argument, word.quoted⟩, .double⟩ := by
  induction argument generalizing word with
  | nil => simp [escape, read]
  | cons c rest ih =>
    have first : read ⟨finished, word, .double⟩ (if c = '\\' ∨ c = '"' then ['\\', c] else [c]) =
        ⟨finished, word.push c, .double⟩ := by
      split
      · rfl
      · next plain =>
        exact step_of_takes ⟨finished, word, .double⟩ (not_or.mp plain)
    rw [escape, List.flatMap_cons, ← escape, read_append, first, ih]
    simp [Word.push]

/-- A typed argument becomes the word, which is there even if the argument is empty. -/
theorem read_typed {argument text : List Char} (typed : Typed argument text)
    (finished : List (List Char)) :
    ∃ word, (fresh finished).read text = ⟨finished, word, .bare⟩ ∧
      word.finish = [argument] := by
  cases typed with
  | double =>
    refine ⟨⟨argument, true⟩, ?_, by simp [Word.finish]⟩
    rw [read_concat, read, List.foldl_cons, ← read]
    exact congrArg (step · '"') (read_escape finished ⟨[], true⟩ argument)
  | single unquoted =>
    refine ⟨⟨argument, true⟩, ?_, by simp [Word.finish]⟩
    rw [read_concat, read, List.foldl_cons, ← read]
    have takes : ∀ c ∈ argument, Mode.single.Takes c := fun c inside same =>
      unquoted (same ▸ inside)
    exact congrArg (step · '\x27') (read_of_takes ⟨finished, ⟨[], true⟩, .single⟩ takes)
  | bare given plain =>
    refine ⟨⟨argument, false⟩, ?_, by simp [Word.finish, given]⟩
    have takes : ∀ c ∈ argument, Mode.bare.Takes c := by
      intro c inside
      obtain ⟨space, tab, single, double⟩ := plain c inside
      exact ⟨single, double, by simp [isGap, space, tab]⟩
    exact read_of_takes (fresh finished) takes

/-- A typed line adds its arguments to those that were finished before. Where nothing stands behind
an argument there is no next one. -/
theorem arguments_of_typedInLine {arguments : List String} {line : List Char}
    (typed : TypedInLine arguments line) (finished : List (List Char)) :
    ((fresh finished).read line).arguments = finished ++ arguments.map String.toList := by
  induction typed generalizing finished with
  | nothing => simp [read]
  | @next argument others text gap rest typed blank apart behind ih =>
    obtain ⟨word, reads, whole⟩ := read_typed typed finished
    have ends : (⟨finished, word, .bare⟩ : Reading).arguments = finished ++ [argument.toList] :=
      congrArg (finished ++ ·) whole
    rw [read_append, read_append, reads]
    by_cases empty : gap = []
    · obtain rfl : others = [] := Decidable.not_not.mp fun more => apart more empty
      cases behind
      rw [empty]
      exact ends
    · rw [read_blank_behind rfl blank empty, ends, ih]
      simp

end Reading

/-- Every list of arguments can be typed, and however each of them is typed, in double quotes
with backslashes, in single quotes if it has none, or bare if it has characters and neither
blanks nor quotes, with whatever blanks before, between and behind them: the line is split
into these arguments. -/
theorem typed_arguments_are_read_back (arguments : List String) :
    (∃ line, TypedInLine arguments line) ∧
    ∀ lead line, IsBlank lead → TypedInLine arguments line →
      split (String.ofList (lead ++ line)) = arguments := by
  refine ⟨exists_typedInLine arguments, fun lead line blank typed => ?_⟩
  have reads : readingOf (String.ofList (lead ++ line)) = (Reading.fresh []).read line := by
    rw [readingOf, String.toList_ofList, Reading.read_append, Reading.read_blank blank]
  rw [split_eq, reads, Reading.arguments_of_typedInLine typed, List.nil_append, List.map_map]
  simp [Function.comp_def]

/-- An empty argument, one with both quotes in it and a bare one with a backslash. -/
theorem mixed_arguments_are_read_back :
    TypedInLine ["", "it's \"so\"", "a\\b"] "''\t \"it's \\\"so\\\"\" a\\b ".toList ∧
      split (String.ofList ([' '] ++ "''\t \"it's \\\"so\\\"\" a\\b ".toList)) =
        ["", "it's \"so\"", "a\\b"] := by
  have unquoted : Typed "a\\b".toList "a\\b".toList := .bare (by simp) (by simp)
  have inDouble : Typed "it's \"so\"".toList "\"it's \\\"so\\\"\"".toList := .double _
  have inSingle : Typed "".toList "''".toList := .single (by simp)
  have space : IsBlank [' '] := by simp [IsBlank]
  have tab : IsBlank ['\t', ' '] := by simp [IsBlank]
  have typed : TypedInLine ["", "it's \"so\"", "a\\b"]
      "''\t \"it's \\\"so\\\"\" a\\b ".toList :=
    .next inSingle tab (by simp)
      (.next inDouble space (by simp) (.next unquoted space (by simp) .nothing))
  exact ⟨typed, (typed_arguments_are_read_back _).2 _ _ space typed⟩

end PluginBridge.Arguments
