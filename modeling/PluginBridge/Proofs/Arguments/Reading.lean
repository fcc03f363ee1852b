import PluginBridge.Arguments

/-! A line is read one character at a time. What has been read so far is all that the
characters to come depend on, so a line can be taken apart anywhere: reading goes on behind
its first part from where that part has left it. -/
namespace PluginBridge.Arguments

/-- How far a line has been read: the arguments that are finished, the one being read, and
what the next character means. -/
structure Reading where
  finished : List (List Char)
  word : Word
  mode : Mode

/-- Whether a character is one of the word and nothing more. -/
def Mode.Takes : Mode → Char → Prop
  | .bare, c => c ≠ '\x27' ∧ c ≠ '"' ∧ isGap c = false
  | .single, c => c ≠ '\x27'
  | .double, c => c ≠ '\\' ∧ c ≠ '"'
  | .escaped, _ => False

namespace Reading

/-- Nothing has been read behind these arguments. -/
def fresh (finished : List (List Char)) : Reading :=
  ⟨finished, .empty, .bare⟩

def push (reading : Reading) (mode : Mode) (c : Char) : Reading :=
  ⟨reading.finished, reading.word.push c, mode⟩

def quote (reading : Reading) (mode : Mode) : Reading :=
  ⟨reading.finished, reading.word.quote, mode⟩

/-- The arguments, if the line ends here. -/
def arguments (reading : Reading) : List (List Char) :=
  reading.finished ++ reading.word.finish

def step (reading : Reading) (c : Char) : Reading :=
  match reading.mode with
  | .escaped => reading.push .double c
  | .double =>
    if c = '\\' then ⟨reading.finished, reading.word, .escaped⟩
    else if c = '"' then reading.quote .bare
    else reading.push .double c
  | .single => if c = '\x27' then reading.quote .bare else reading.push .single c
  | .bare =>
    if c = '\x27' then reading.quote .single
    else if c = '"' then reading.quote .double
    else if isGap c then fresh reading.arguments
    else reading.push .bare c

/-- Reads on. -/
def read (reading : Reading) (line : List Char) : Reading :=
  line.foldl step reading

theorem read_append (reading : Reading) (first second : List Char) :
    reading.read (first ++ second) = (reading.read first).read second :=
  List.foldl_append

theorem read_concat (reading : Reading) (line : List Char) (c : Char) :
    reading.read (line ++ [c]) = (reading.read line).step c :=
  List.foldl_append

theorem step_of_takes (reading : Reading) {c : Char} (takes : reading.mode.Takes c) :
    reading.step c = reading.push reading.mode c := by
  obtain ⟨finished, word, mode⟩ := reading
  cases mode with
  | bare =>
    obtain ⟨single, double, plain⟩ := takes
    simp only [step, if_neg single, if_neg double, plain, Bool.false_eq_true, if_false]
  | single => exact if_neg takes
  | double => exact (if_neg takes.1).trans (if_neg takes.2)
  | escaped => cases takes

/-- Characters that are taken as they stand are added to the word. -/
theorem read_of_takes (reading : Reading) {text : List Char}
    (takes : ∀ c ∈ text, reading.mode.Takes c) :
    reading.read text =
      ⟨reading.finished, ⟨reading.word.read ++ text, reading.word.quoted⟩, reading.mode⟩ := by
  induction text generalizing reading with
  | nil => simp [read]
  | cons c rest ih =>
    obtain ⟨first, others⟩ := List.forall_mem_cons.mp takes
    rw [read, List.foldl_cons, ← read, step_of_takes reading first,
      ih (reading.push reading.mode c) others]
    simp [push, Word.push]

/-- Scanning a character is a step. -/
theorem scan_cons (reading : Reading) (c : Char) (rest : List Char) :
    reading.finished ++ (scan reading.mode reading.word (c :: rest)).1 =
        (reading.step c).finished ++ (scan (reading.step c).mode (reading.step c).word rest).1 ∧
      (scan reading.mode reading.word (c :: rest)).2 =
        (scan (reading.step c).mode (reading.step c).word rest).2 := by
  obtain ⟨finished, word, mode⟩ := reading
  cases mode with
  | escaped => exact ⟨rfl, rfl⟩
  | double =>
    simp only [scan, step]
    split
    · exact ⟨rfl, rfl⟩
    · split <;> exact ⟨rfl, rfl⟩
  | single =>
    simp only [scan, step]
    split <;> exact ⟨rfl, rfl⟩
  | bare =>
    simp only [scan, step]
    split
    · exact ⟨rfl, rfl⟩
    · split
      · exact ⟨rfl, rfl⟩
      · split
        · exact ⟨(List.append_assoc ..).symm, rfl⟩
        · exact ⟨rfl, rfl⟩

/-- What is scanned from some point on is what reading makes of the rest. -/
theorem scan_eq_read (reading : Reading) (line : List Char) :
    reading.finished ++ (scan reading.mode reading.word line).1 = (reading.read line).arguments ∧
      (scan reading.mode reading.word line).2 = (reading.read line).mode := by
  induction line generalizing reading with
  | nil =>
    obtain ⟨finished, word, mode⟩ := reading
    cases mode <;> exact ⟨rfl, rfl⟩
  | cons c rest ih =>
    obtain ⟨arguments, mode⟩ := scan_cons reading c rest
    rw [arguments, mode]
    exact ih (reading.step c)

end Reading

/-- A line that has been read to its end. -/
def readingOf (line : String) : Reading :=
  (Reading.fresh []).read line.toList

theorem split_eq (line : String) : split line = (readingOf line).arguments.map String.ofList :=
  congrArg (List.map String.ofList) (Reading.scan_eq_read (.fresh []) line.toList).1

theorem splitForCompletion_eq (line : String) :
    splitForCompletion line = split line ++
      if (readingOf line).mode = .bare && awaitsArgument line.toList then [""] else [] := by
  have ending : (scan .bare .empty line.toList).2 = (readingOf line).mode :=
    (Reading.scan_eq_read (.fresh []) line.toList).2
  simp only [splitForCompletion, split, ending]
  split <;> simp

end PluginBridge.Arguments
