import Mathlib.Data.List.DropRight
import PluginBridge.Document.Yaml
import PluginBridge.Text.Segments
import PluginBridge.Proofs.Text.Unquoting

/-! YAML, read back, as far as descriptors go: records of texts and of lists of texts. The reader
cuts a file where a line is not indented, and reads texts in each of the four styles by the rules
of YAML, whatever the text; it does not know which style is chosen when. Every record of this
kind is read as itself. -/
namespace PluginBridge.Document.Yaml
open Text

/-! ## Reading texts -/

/-- The escapes between double quotes. -/
def escapes : Escapes
  | ['0'] => .character (Char.ofNat 0)
  | ['a'] => .character (Char.ofNat 7)
  | ['b'] => .character (Char.ofNat 8)
  | ['t'] => .character '\t'
  | ['n'] => .character '\n'
  | ['v'] => .character (Char.ofNat 11)
  | ['f'] => .character (Char.ofNat 12)
  | ['r'] => .character '\r'
  | ['e'] => .character (Char.ofNat 27)
  | ['"'] => .character '"'
  | ['\\'] => .character '\\'
  | ['N'] => .character (Char.ofNat 0x85)
  | ['_'] => .character (Char.ofNat 0xA0)
  | ['L'] => .character (Char.ofNat 0x2028)
  | ['P'] => .character (Char.ofNat 0x2029)
  | 'x' :: digits => .numbered 2 digits
  | 'u' :: digits => .numbered 4 digits
  | 'U' :: digits => .numbered 8 digits
  | _ => .nothing

/-- A text without quotes: nothing in it means anything else, and it is no null, truth value or
number. -/
def bare? (text : List Char) : Option String :=
  if text.any isBreak || text.head?.any isEdge || text.getLast?.any isEdge || leadsAstray text ||
      turnsAstray text || isReserved (String.ofList text) then none
  else some (String.ofList text)

/-- Line ends that stay when lines are joined. The others become blanks. -/
def isSeparator (c : Char) : Bool :=
  c.toNat == 0x2028 || c.toNat == 0x2029

/-- A text up to the single quote that ends its last line. A quote in it is written twice, the
indentation of its lines is no part of it, and no line in it ends in a gap. -/
def single? (fresh : Bool) : List Char → Option (List Char)
  | [] => none
  | c :: rest =>
    if c = '\x27' then
      match rest with
      | '\x27' :: more => (single? false more).map ('\x27' :: ·)
      | ['\n'] => some []
      | _ => none
    else if c = ' ' && fresh then single? true rest
    else if c = ' ' && rest.head?.any isBreak then none
    else if isSeparator c then (single? true rest).map (c :: ·)
    else if isBreak c then none
    else (single? false rest).map (c :: ·)

/-- The lines of a block without their indentation, of which so many blanks are still to come. An
empty line has none. -/
def undented? (margin : Nat) : List Char → Option (List Char)
  | [] => some []
  | c :: rest =>
    if isBreak c then (undented? 2 rest).map (c :: ·)
    else if margin = 0 then (undented? 0 rest).map (c :: ·)
    else if c = ' ' then undented? (margin - 1) rest
    else none

/-- The text without the line ends after it, apart from so many. -/
def chomped (kept : Nat) (text : List Char) : List Char :=
  text.rdropWhile isBreak ++ (text.rtakeWhile isBreak).take kept

/-- A block, from the marks behind its bar. Without a mark for the indentation this is the one of
the first line. -/
def block? (chars : List Char) : Option (List Char) := do
  let marks := chars.takeWhile (!isBreak ·)
  let text ← undented? 2 (chars.dropWhile (!isBreak ·)).tail
  if text.head?.any isEdge && !marks.contains '2' then none
  else if marks.contains '+' then some text
  else if marks.contains '-' then some (chomped 0 text)
  else some (chomped 1 text)

/-- A text in double quotes, from behind the first of them. -/
def double? (chars : List Char) : Option (List Char) :=
  match unquote? escapes none chars with
  | some (value, ['\n']) => some value
  | _ => none

/-- What stands behind a colon or a dash, up to the end of its last line. -/
def held? : List Char → Option Document
  | ' ' :: first :: rest =>
    if first = '\x27' then (single? false rest).map (.text ∘ String.ofList)
    else if first = '"' then (double? rest).map (.text ∘ String.ofList)
    else if first = '|' then (block? rest).map (.text ∘ String.ofList)
    else if first = '[' then if rest = [']', '\n'] then some (.list []) else none
    else if rest.getLast? = some '\n' then (bare? (first :: rest.dropLast)).map .text
    else none
  | _ => none

/-! ## Reading records -/

/-- A file, cut where a line is not indented. -/
def blocks (fresh : Bool) : List Char → List (List Char)
  | [] => [[]]
  | c :: rest =>
    let further := extendFirst c (blocks (isBreak c) rest)
    if fresh && !isEdge c then [] :: further else further

/-- The value of a field, from what stands behind its colon and from the items below. -/
def value? (behind : List Char) (items : List Document) : Option Document :=
  if items.isEmpty then held? behind
  else if behind = ['\n'] then some (.list items)
  else none

/-- The fields of a record, and the items before the first of them. -/
def entries? : List (List Char) → Option (List Document × List (String × Document))
  | [] => some ([], [])
  | block :: rest => do
    let (items, entries) ← entries? rest
    if block.head? = some '-' then
      let item ← held? block.tail
      return (item :: items, entries)
    else
      let name ← bare? (block.takeWhile (· != ':'))
      let value ← value? (block.dropWhile (· != ':')).tail items
      return ([], (name, value) :: entries)

/-- The record in a file. -/
def read? (text : String) : Option Document :=
  match entries? (blocks false text.toList) with
  | some ([], entries) => some (.fields entries)
  | _ => none

/-! ## Texts

### Double quotes -/

/-- Only controls, line ends and some code points without a character are escaped. -/
theorem code_of_escaped {c : Char} (plain : (isPrintable c && !isBreak c) = false) :
    c.toNat < 0xA0 ∨ c.toNat ∈ [0x2028, 0x2029, 0xFEFF, 0xFFFE, 0xFFFF] := by
  rw [Bool.and_eq_false_iff, Bool.not_eq_false'] at plain
  rcases plain with hidden | ends
  · have valid := isScalar_toNat c
    simp only [CodePoint.isScalar, Bool.or_eq_true, Bool.and_eq_true, decide_eq_true_eq] at valid
    simp only [isPrintable, Bool.or_eq_false_iff, Bool.and_eq_false_iff, beq_eq_false_iff_ne,
      bne_eq_false_iff_eq, decide_eq_false_iff_not] at hidden
    simp only [List.mem_cons, List.not_mem_nil, or_false]
    omega
  · simp only [isBreak, Bool.or_eq_true, beq_iff_eq] at ends
    rcases ends with (((rfl | rfl) | code) | code) | code
    all_goals first | decide | simp [code]

/-- What holds of the characters that stand for themselves and of the forms of the few others
holds of every form. -/
theorem escapeChar_spelt (test : Char → List Char → Bool)
    (plain : ∀ c, 0xA0 ≤ c.toNat → isBreak c = false → test c [c] = true)
    (low : ∀ code < 0xA0, test (Char.ofNat code) (escapeChar (Char.ofNat code)) = true)
    (high : ∀ code ∈ [0x2028, 0x2029, 0xFEFF, 0xFFFE, 0xFFFF],
      test (Char.ofNat code) (escapeChar (Char.ofNat code)) = true) (c : Char) :
    test c (escapeChar c) = true := by
  by_cases small : c.toNat < 0xA0
  · simpa using low c.toNat small
  cases same : isPrintable c && !isBreak c with
  | true =>
    have quote : c ≠ '"' := by
      rintro rfl
      exact small (by decide)
    have slash : c ≠ '\\' := by
      rintro rfl
      exact small (by decide)
    have whole : isBreak c = false := by simp_all
    have form : escapeChar c = [c] := by simp [escapeChar, quote, slash, same]
    exact form ▸ plain c (by omega) whole
  | false => simpa using high c.toNat ((code_of_escaped same).resolve_left small)

theorem standsFor_escapeChar (c : Char) : standsFor escapes c (escapeChar c) = true := by
  refine escapeChar_spelt (standsFor escapes) (fun c large _ => ?_) (by decide +kernel)
    (by decide +kernel) c
  have slash : c ≠ '\\' := by
    rintro rfl
    exact absurd large (by decide)
  have quote : c ≠ '"' := by
    rintro rfl
    exact absurd large (by decide)
  rw [standsFor.eq_2 _ _ _ slash]
  simpa using quote

theorem isBreak_of_mem_escapeChar {c letter : Char} (member : letter ∈ escapeChar c) :
    isBreak letter = false := by
  have whole := escapeChar_spelt (fun _ form => form.all (!isBreak ·))
    (fun c _ inner => by simp [inner]) (by decide +kernel) (by decide +kernel) c
  simpa using List.all_eq_true.mp whole letter member

theorem double?_doubleQuoted (text : List Char) :
    double? (text.flatMap escapeChar ++ ['"', '\n']) = some text := by
  have read : unquote? escapes none (text.flatMap escapeChar ++ '"' :: ['\n']) =
      some (text, ['\n']) :=
    unquote?_flatMap (fun c _ => standsFor_escapeChar c) ['\n']
  simp [double?, read]

/-! ### Single quotes -/

theorem hasPair_cons (first second : Char → Bool) (c : Char) (rest : List Char) :
    hasPair first second (c :: rest) =
      ((first c && rest.head?.any second) || hasPair first second rest) := by
  cases rest <;> simp [hasPair]

theorem head?_singleBody (text rest : List Char) :
    (singleBody 2 false text ++ '\x27' :: rest).head?.any isBreak = text.head?.any isBreak := by
  cases text with
  | nil => rfl
  | cons c others =>
    by_cases ends : isBreak c = true
    · simp [singleBody, ends]
    · by_cases quote : c = '\x27' <;> simp_all [singleBody]

/-- A character of a text between single quotes. -/
theorem single?_cons {c : Char} (inner : isBreak c = false) (fresh : Bool)
    (start : fresh = true → c ≠ ' ') {rest : List Char}
    (closing : c = ' ' → rest.head?.any isBreak = false) :
    single? fresh ((if c = '\x27' then ['\x27', '\x27'] else [c]) ++ rest) =
      (single? false rest).map (c :: ·) := by
  by_cases quote : c = '\x27'
  · subst quote
    simp [single?]
  · have separator : isSeparator c = false := by
      simp only [isBreak, Bool.or_eq_false_iff] at inner
      simp [isSeparator, inner]
    have solid : ¬ (c = ' ' ∧ fresh = true) := fun ⟨gap, line⟩ => start line gap
    have close : ¬ (c = ' ' ∧ rest.head?.any isBreak = true) := fun ⟨gap, ends⟩ =>
      Bool.false_ne_true ((closing gap).symm.trans ends)
    rw [if_neg quote, List.singleton_append, single?.eq_def]
    simp [quote, separator, inner, solid, close]

/-- The text between single quotes is read back where no gap stands next to a line end, as gaps
there are no part of a text. -/
theorem single?_singleBody {text : List Char} (separators : ∀ c ∈ text, isBreak c → isSeparator c)
    (before : hasPair isSpace isBreak text = false) (behind : hasPair isBreak isSpace text = false)
    (broken : Bool) (start : broken = true → text.head?.any isSpace = false) :
    single? broken (singleBody 2 broken text ++ ['\x27', '\n']) = some text := by
  induction text generalizing broken with
  | nil => cases broken <;> simp [singleBody, single?]
  | cons c rest ih =>
    obtain ⟨first, others⟩ := List.forall_mem_cons.mp separators
    rw [hasPair_cons, Bool.or_eq_false_iff, Bool.and_eq_false_iff] at before behind
    by_cases ends : isBreak c = true
    · have separator := first ends
      have next := ih others before.2 behind.2 true fun _ =>
        behind.1.resolve_left (by simp [ends])
      have quote : c ≠ '\x27' := by
        rintro rfl
        exact absurd separator (by decide)
      have gap : c ≠ ' ' := by
        rintro rfl
        exact absurd separator (by decide)
      rw [singleBody, if_pos ends, List.cons_append, single?.eq_def]
      simp [quote, gap, separator, next]
    · have next := ih others before.2 behind.2 false nofun
      have inner : isBreak c = false := by simpa using ends
      have closing (gap : c = ' ') :
          (singleBody 2 false rest ++ ['\x27', '\n']).head?.any isBreak = false := by
        rw [head?_singleBody]
        exact before.1.resolve_left (by simp [isSpace, gap])
      rw [singleBody, if_neg ends, List.append_assoc, List.append_assoc]
      cases broken with
      | false =>
        have read := single?_cons inner false nofun closing
        simp [read, next]
      | true =>
        have solid : c ≠ ' ' := by simpa [isSpace] using start rfl
        have margin (chars : List Char) : single? true (' ' :: chars) = single? true chars := by
          rw [single?.eq_def]
          simp
        have read := single?_cons inner true (fun _ => solid) closing
        simp [margin, read, next]

/-! ### Blocks -/

theorem blockBody_concat (indent : Nat) (fresh : Bool) (text : List Char) {c : Char}
    (ends : isBreak c = true) :
    blockBody indent fresh (text ++ [c]) = blockBody indent fresh text ++ [c] := by
  induction text generalizing fresh with
  | nil => simp [blockBody, ends]
  | cons first rest ih =>
    simp only [List.cons_append, blockBody, ih]
    split <;> simp

theorem undented?_blockBody (fresh : Bool) (text : List Char) :
    undented? (if fresh then 2 else 0) (blockBody 2 fresh text) = some text := by
  induction text generalizing fresh with
  | nil => simp [blockBody, undented?]
  | cons c rest ih =>
    have start := ih true
    have inside := ih false
    by_cases ends : isBreak c = true
    · simp_all [blockBody, undented?]
    · have gap : isBreak ' ' = false := by decide
      cases fresh <;> simp_all [blockBody, undented?]

theorem getLast?_blockBody (indent : Nat) (fresh : Bool) (text : List Char) :
    (blockBody indent fresh text).getLast? = text.getLast? := by
  induction text generalizing fresh with
  | nil => rfl
  | cons c rest ih =>
    rw [blockBody, List.getLast?_cons, ← ih true]
    split
    · rw [List.getLast?_cons]
    · rw [List.getLast?_append_of_ne_nil _ (List.cons_ne_nil _ _), List.getLast?_cons, ih, ih]

/-- A block ends its last line. -/
theorem endLine_block (front : List Char) {text : List Char} (given : text ≠ []) :
    endLine (front ++ '\n' :: blockBody 2 true text) =
      front ++ '\n' :: blockBody 2 true (endLine text) := by
  have last : (front ++ '\n' :: blockBody 2 true text).getLast? = text.getLast? := by
    rw [List.getLast?_append_of_ne_nil _ (List.cons_ne_nil _ _), List.getLast?_cons,
      getLast?_blockBody, List.getLast?_eq_some_getLast given, Option.getD_some]
  rw [endLine, endLine, last]
  split
  · rfl
  · simp [blockBody_concat 2 true text (show isBreak '\n' = true by decide)]

theorem head?_endLine {text : List Char} (given : text ≠ []) :
    (endLine text).head? = text.head? := by
  rw [endLine]
  split
  · rfl
  · exact List.head?_append_of_ne_nil _ given

theorem marks_whole (text : List Char) :
    ∀ mark ∈ indentHint text ++ endingHint text, isBreak mark = false := by
  unfold indentHint endingHint
  split_ifs <;> (repeat' split) <;> simp [isBreak]

theorem block?_of_marks {marks : List Char} (plain : ∀ c ∈ marks, isBreak c = false)
    (text : List Char) :
    block? (marks ++ '\n' :: blockBody 2 true text) =
      if text.head?.any isEdge && !marks.contains '2' then none
      else if marks.contains '+' then some text
      else if marks.contains '-' then some (chomped 0 text)
      else some (chomped 1 text) := by
  have line : isBreak '\n' = true := by decide
  have lines := undented?_blockBody true text
  have front : (marks ++ '\n' :: blockBody 2 true text).takeWhile (!isBreak ·) = marks :=
    takeWhile_of_ends (by simpa using plain) (by simp [line])
  have back : (marks ++ '\n' :: blockBody 2 true text).dropWhile (!isBreak ·) =
      '\n' :: blockBody 2 true text :=
    dropWhile_of_ends (by simpa using plain) (by simp [line])
  simp only [if_true] at lines
  simp only [block?, front, back, List.tail_cons, lines, Option.bind_eq_bind, Option.bind_some]

theorem chomped_concat (kept : Nat) {text : List Char} {c : Char} (ends : isBreak c = true)
    (solid : text.getLast?.any isBreak = false) :
    chomped kept (text ++ [c]) = text ++ [c].take kept := by
  have last (given : text ≠ []) : ¬ isBreak (text.getLast given) = true := by
    simpa [List.getLast?_eq_some_getLast given] using solid
  rw [chomped, List.rdropWhile_concat_pos _ _ _ ends, List.rtakeWhile_concat_pos _ _ _ ends,
    List.rdropWhile_eq_self_iff.mpr last, List.rtakeWhile_eq_nil_iff.mpr last, List.nil_append]

theorem endingHint_concat (init : List Char) (last : Char) :
    endingHint (init ++ [last]) =
      if !isBreak last then ['-'] else if init.getLast?.all isBreak then ['+'] else [] := by
  rw [endingHint, List.reverse_concat]
  rcases List.eq_nil_or_concat init with rfl | ⟨front, before, rfl⟩
  · simp
  · simp

theorem contains_indentHint {mark : Char} (other : mark ≠ '2') (text marks : List Char) :
    (indentHint text ++ marks).contains mark = marks.contains mark := by
  rw [indentHint]
  split_ifs <;> simp [other]

/-- An edge in front of a text comes with a mark. -/
theorem indentHint_marks (text marks : List Char) :
    (text.head?.any isEdge && !(indentHint text ++ marks).contains '2') = false := by
  rw [indentHint]
  cases edge : text.head?.any isEdge <;> simp

/-- The marks of a block tell how many of the line ends behind its text belong to it. -/
theorem block?_block {text : List Char} (given : text ≠ []) :
    block? (indentHint text ++ endingHint text ++ '\n' :: blockBody 2 true (endLine text)) =
      some text := by
  obtain ⟨init, last, rfl⟩ := (List.eq_nil_or_concat text).resolve_left given
  rw [List.concat_eq_append] at given ⊢
  rw [block?_of_marks (marks_whole _), head?_endLine given, indentHint_marks,
    if_neg Bool.false_ne_true, contains_indentHint (by decide), contains_indentHint (by decide),
    endingHint_concat, endLine, List.getLast?_concat, Option.any_some]
  cases ends : isBreak last with
  | false =>
    have closed : chomped 0 (init ++ [last] ++ ['\n']) = init ++ [last] :=
      (chomped_concat 0 (by decide) (by simp [ends])).trans (List.append_nil _)
    simpa using closed
  | true =>
    cases more : init.getLast?.all isBreak with
    | true => simp
    | false =>
      have solid : init.getLast?.any isBreak = false := by
        cases before : init.getLast? <;> simp_all
      simp [chomped_concat 1 ends solid]

/-! ## Lines -/

/-- No line begins unindented. -/
def goesOn (fresh : Bool) : List Char → Bool
  | [] => true
  | c :: rest => !(fresh && !isEdge c) && goesOn (isBreak c) rest

theorem goesOn_append {front : List Char} (whole : ∀ c ∈ front, isBreak c = false)
    (rest : List Char) : goesOn false (front ++ rest) = goesOn false rest := by
  induction front with
  | nil => rfl
  | cons c front ih =>
    obtain ⟨first, others⟩ := List.forall_mem_cons.mp whole
    simp [goesOn, first, ih others]

theorem goesOn_of_whole {line : List Char} (whole : ∀ c ∈ line, isBreak c = false) :
    goesOn false line = true := by
  simpa [goesOn] using goesOn_append whole []

theorem goesOn_endLine (fresh : Bool) (line : List Char) :
    goesOn fresh (endLine line) = goesOn fresh line := by
  have closed : goesOn fresh (line ++ ['\n']) = goesOn fresh line := by
    have edge : isEdge '\n' = true := by decide
    induction line generalizing fresh with
    | nil => simp [goesOn, edge]
    | cons c rest ih => simp [goesOn, ih]
  rw [endLine]
  split
  · rfl
  · exact closed

theorem endLine_of_whole {line : List Char} (whole : line.getLast?.any isBreak = false) :
    endLine line = line ++ ['\n'] := by
  simp [endLine, whole]

/-! ## Styles -/

theorem style_eq_block {value : String} (chosen : style value = .block) : value.toList ≠ [] := by
  simp only [style] at chosen
  split_ifs at chosen with line
  exact List.ne_nil_of_mem (by simpa using line)

theorem style_eq_single {value : String} (chosen : style value = .single) :
    allowsSingleQuotes value.toList = true ∧ '\n' ∉ value.toList := by
  simp only [style] at chosen
  split_ifs at chosen with line _ _ allowed
  exact ⟨allowed, by simpa using line⟩

theorem style_eq_bare {value : String} (chosen : style value = .bare) :
    allowsBare value.toList = true ∧ isReserved value = false := by
  simp only [style] at chosen
  split_ifs at chosen with _ _ allowed
  simpa using allowed

theorem toList_ne_nil {value : String} (free : isReserved value = false) : value.toList ≠ [] := by
  intro empty
  obtain rfl : value = "" := String.toList_eq_nil_iff.mp empty
  exact absurd free (by decide +kernel)

theorem bare?_toList {value : String} (allowed : allowsBare value.toList = true)
    (free : isReserved value = false) : bare? value.toList = some value := by
  simp only [allowsBare, Bool.and_eq_true, Bool.not_eq_true'] at allowed
  simp [bare?, allowed, free]

/-- A form stands for a text where it is read as the text and none of its lines begins
unindented. -/
structure Stands (value : String) (form : List Char) : Prop where
  read : held? (endLine (' ' :: form)) = some (.text value)
  goesOn : goesOn false (' ' :: form) = true

theorem Stands.bare {value : String} (allowed : allowsBare value.toList = true)
    (free : isReserved value = false) : Stands value value.toList := by
  have read := bare?_toList allowed free
  simp only [allowsBare, Bool.and_eq_true, Bool.not_eq_true'] at allowed
  obtain ⟨⟨⟨⟨⟨⟨-, lines⟩, -⟩, -⟩, leads⟩, -⟩, -⟩ := allowed
  have whole : ∀ c ∈ ' ' :: value.toList, isBreak c = false :=
    List.forall_mem_cons.mpr ⟨by decide, by simpa using lines⟩
  refine ⟨?_, goesOn_of_whole whole⟩
  have last : (' ' :: value.toList).getLast?.any isBreak = false := by
    rw [List.getLast?_eq_some_getLast (List.cons_ne_nil _ _), Option.any_some]
    exact whole _ (List.getLast_mem _)
  rw [endLine_of_whole last]
  obtain ⟨first, rest, spelled⟩ := List.exists_cons_of_ne_nil (toList_ne_nil free)
  rw [spelled] at read leads ⊢
  simp only [leadsAstray, leadingMarks, Bool.or_eq_false_iff, List.contains_eq_mem,
    decide_eq_false_iff_not, List.mem_cons, not_or] at leads
  simp [held?, leads, read]

theorem goesOn_singleBody (broken : Bool) (text : List Char) :
    goesOn broken (singleBody 2 broken text ++ ['\x27']) = true := by
  have gap : isBreak ' ' = false ∧ isEdge ' ' = true := by decide
  have quote : isBreak '\x27' = false := by decide
  induction text generalizing broken with
  | nil => cases broken <;> simp [singleBody, goesOn, gap]
  | cons c rest ih =>
    by_cases ends : isBreak c = true
    · simp [singleBody, ends, goesOn, isEdge, ih]
    · by_cases doubled : c = '\x27' <;> cases broken <;>
        simp_all [singleBody, goesOn]

theorem Stands.single {value : String} (allowed : allowsSingleQuotes value.toList = true)
    (line : '\n' ∉ value.toList) : Stands value (singleQuoted 2 value.toList) := by
  have same : ' ' :: singleQuoted 2 value.toList =
      ' ' :: '\x27' :: singleBody 2 false value.toList ++ ['\x27'] := by
    simp [singleQuoted]
  simp only [allowsSingleQuotes, needsEscapes, Bool.and_eq_true, Bool.not_eq_true',
    Bool.or_eq_false_iff] at allowed
  obtain ⟨⟨printable, before⟩, behind⟩ := allowed
  have separators : ∀ c ∈ value.toList, isBreak c → isSeparator c := by
    intro c member ends
    have shown : isPrintable c = true := by simpa using List.any_eq_false.mp printable c member
    simp only [isBreak, Bool.or_eq_true, beq_iff_eq] at ends
    rcases ends with (((rfl | rfl) | code) | code) | code
    · exact absurd member line
    · exact absurd shown (by decide)
    · simp [isPrintable, code] at shown
    · simp [isSeparator, code]
    · simp [isSeparator, code]
  refine ⟨?_, ?_⟩
  · rw [same, endLine_of_whole (by rw [List.getLast?_concat]; decide)]
    have read := single?_singleBody separators before behind false nofun
    simp [held?, read]
  · rw [same, List.cons_append, List.cons_append]
    exact goesOn_singleBody false value.toList

theorem Stands.double (value : String) : Stands value (doubleQuoted value.toList) := by
  have same : ' ' :: doubleQuoted value.toList =
      ' ' :: '"' :: value.toList.flatMap escapeChar ++ ['"'] := by
    simp [doubleQuoted]
  refine ⟨?_, ?_⟩
  · rw [same, endLine_of_whole (by rw [List.getLast?_concat]; decide)]
    have read := double?_doubleQuoted value.toList
    simp [held?, read]
  · rw [same]
    refine goesOn_of_whole fun c member => ?_
    simp only [List.cons_append, List.mem_cons, List.mem_append, List.mem_flatMap,
      List.not_mem_nil, or_false] at member
    rcases member with rfl | rfl | ⟨_, _, inside⟩ | rfl
    · decide
    · decide
    · exact isBreak_of_mem_escapeChar inside
    · decide

theorem goesOn_blockBody (fresh : Bool) (text : List Char) :
    goesOn fresh (blockBody 2 fresh text) = true := by
  have gap : isBreak ' ' = false ∧ isEdge ' ' = true := by decide
  induction text generalizing fresh with
  | nil => simp [blockBody, goesOn]
  | cons c rest ih =>
    by_cases ends : isBreak c = true
    · simp [blockBody, ends, goesOn, isEdge, ih]
    · cases fresh <;> simp_all [blockBody, goesOn]

theorem Stands.block {value : String} (given : value.toList ≠ []) :
    Stands value (Yaml.block 2 value.toList) := by
  have same : ' ' :: Yaml.block 2 value.toList = (' ' :: '|' :: (indentHint value.toList ++
      endingHint value.toList)) ++ '\n' :: blockBody 2 true value.toList := by
    simp [Yaml.block]
  refine ⟨?_, ?_⟩
  · rw [same, endLine_block _ given]
    have read := block?_block given
    rw [List.append_assoc] at read
    simp [held?, read]
  · rw [same, goesOn_append fun c member => ?_]
    · exact goesOn_blockBody true value.toList
    · rcases List.mem_cons.mp member with rfl | member
      · decide
      rcases List.mem_cons.mp member with rfl | member
      · decide
      exact marks_whole _ c member

/-- Each text is read back in the style that is chosen for it. -/
theorem stands_scalar (value : String) : Stands value (scalar 2 value) := by
  unfold scalar
  cases chosen : style value with
  | bare =>
    obtain ⟨allowed, free⟩ := style_eq_bare chosen
    exact .bare allowed free
  | single =>
    obtain ⟨allowed, line⟩ := style_eq_single chosen
    exact .single allowed line
  | double => exact .double value
  | block => exact .block (style_eq_block chosen)

/-! ## Blocks of a file -/

theorem blocks_cons {fresh : Bool} {c : Char} (inside : (!(fresh && !isEdge c)) = true)
    (rest : List Char) : blocks fresh (c :: rest) = extendFirst c (blocks (isBreak c) rest) := by
  rw [Bool.not_eq_true'] at inside
  rw [blocks, inside, if_neg Bool.false_ne_true]

theorem blocks_of_goesOn {fresh : Bool} {lines : List Char} (whole : goesOn fresh lines = true) :
    blocks fresh lines = [lines] := by
  induction lines generalizing fresh with
  | nil => rfl
  | cons c rest ih =>
    rw [goesOn, Bool.and_eq_true] at whole
    rw [blocks_cons whole.1, ih whole.2, extendFirst]

/-- A file is cut behind a line where the next one is not indented. -/
theorem blocks_append {fresh : Bool} {lines : List Char} (whole : goesOn fresh lines = true)
    (ends : lines.getLast?.any isBreak = true) {next : Char} (begins : isEdge next = false)
    (rest : List Char) :
    blocks fresh (lines ++ next :: rest) = lines :: blocks false (next :: rest) := by
  induction lines generalizing fresh with
  | nil => cases ends
  | cons c more ih =>
    rw [goesOn, Bool.and_eq_true] at whole
    rw [List.cons_append, blocks_cons whole.1]
    by_cases last : more = []
    · subst last
      have line : isBreak c = true := by simpa using ends
      have cut : blocks true (next :: rest) = [] :: blocks false (next :: rest) := by
        simp [blocks, begins]
      rw [List.nil_append, line, cut, extendFirst]
    · rw [List.getLast?_cons_of_ne_nil last] at ends
      rw [ih whole.2 ends, extendFirst]

/-- Lines of which only the first is not indented. -/
structure IsBlock (lines : List Char) : Prop where
  begins : ∃ first rest, lines = first :: rest ∧ isEdge first = false
  goesOn : goesOn false lines = true
  ends : lines.getLast?.any isBreak = true

theorem IsBlock.of_line {front : List Char}
    (begins : ∃ first rest, front = first :: rest ∧ isEdge first = false)
    (whole : ∀ c ∈ front, isBreak c = false) (line : List Char)
    (indented : Yaml.goesOn false line = true) :
    IsBlock (front ++ endLine line) where
  begins := by
    obtain ⟨first, rest, rfl, edge⟩ := begins
    exact ⟨first, rest ++ endLine line, rfl, edge⟩
  goesOn := by rw [goesOn_append whole, goesOn_endLine, indented]
  ends := by
    have closed : (endLine line).getLast?.any isBreak = true := by
      rw [endLine]
      split
      · assumption
      · rw [List.getLast?_concat]
        decide
    have given : endLine line ≠ [] := by
      intro none
      simp [none] at closed
    rw [List.getLast?_append_of_ne_nil _ given, closed]

/-- Blocks behind each other are cut apart. -/
theorem blocks_flatten {first : List Char} {others : List (List Char)}
    (each : ∀ lines ∈ first :: others, IsBlock lines) :
    blocks false (first :: others).flatten = first :: others := by
  induction others generalizing first with
  | nil => simpa using blocks_of_goesOn (each first List.mem_cons_self).goesOn
  | cons second others ih =>
    obtain ⟨head, tail⟩ := List.forall_mem_cons.mp each
    have further := ih tail
    obtain ⟨next, rest, rfl, edge⟩ := (tail second List.mem_cons_self).begins
    rw [List.flatten_cons, List.cons_append] at further
    rw [List.flatten_cons, List.flatten_cons, List.cons_append,
      blocks_append head.goesOn head.ends edge, further]

/-! ## Records -/

/-- A name that is written as it stands, is not taken for an item, and ends at the first colon. -/
def isKey (name : String) : Bool :=
  style name = .bare && !name.toList.contains ':' && name.toList.head? != some '-'

/-- What a field may hold. -/
inductive IsPlain : Document → Prop where
  | text (value : String) : IsPlain (.text value)
  | texts (values : List String) : IsPlain (texts values)

/-- A field of a flat record. -/
structure IsField (entry : String × Document) : Prop where
  name : isKey entry.1 = true
  value : IsPlain entry.2

theorem isField_text {name value : String} :
    IsField (name, .text value) ↔ isKey name = true :=
  ⟨(·.name), fun key => ⟨key, .text value⟩⟩

theorem isField_texts {name : String} {values : List String} :
    IsField (name, texts values) ↔ isKey name = true :=
  ⟨(·.name), fun key => ⟨key, .texts values⟩⟩

/-- The blocks of a field. -/
def parts : String × Document → List (List Char)
  | (name, .list (item :: rest)) =>
    (name.toList ++ endLine [':']) :: (item :: rest).map fun item => '-' :: renderItem 0 item
  | (name, value) => [name.toList ++ ':' :: renderValue 0 value]

theorem renderItems_eq (items : List Document) :
    renderItems 0 items = (items.map fun item => '-' :: renderItem 0 item).flatten := by
  induction items with
  | nil => rfl
  | cons item rest ih => simp [renderItems, margin, ih]

section
variable {name : String}

theorem scalar_of_isKey (key : isKey name = true) : scalar 2 name = name.toList := by
  simp only [isKey, Bool.and_eq_true, decide_eq_true_eq] at key
  simp [scalar, key]

theorem bare?_of_isKey (key : isKey name = true) : bare? name.toList = some name := by
  simp only [isKey, Bool.and_eq_true, decide_eq_true_eq] at key
  obtain ⟨allowed, free⟩ := style_eq_bare key.1.1
  exact bare?_toList allowed free

theorem whole_of_isKey (key : isKey name = true) : ∀ c ∈ name.toList, isBreak c = false := by
  have read := bare?_of_isKey key
  rw [bare?] at read
  split_ifs at read with astray
  simp_all

theorem begins_of_isKey (key : isKey name = true) :
    ∃ first rest, name.toList = first :: rest ∧ isEdge first = false ∧ first ≠ '-' := by
  simp only [isKey, Bool.and_eq_true, decide_eq_true_eq, bne_iff_ne] at key
  obtain ⟨⟨chosen, -⟩, dash⟩ := key
  obtain ⟨allowed, free⟩ := style_eq_bare chosen
  obtain ⟨first, rest, spelled⟩ := List.exists_cons_of_ne_nil (toList_ne_nil free)
  rw [spelled] at allowed dash
  simp only [allowsBare, Bool.and_eq_true, Bool.not_eq_true'] at allowed
  exact ⟨first, rest, spelled, by simpa using allowed.1.1.1.1.2, by simpa using dash⟩

theorem renderField_eq (key : isKey name = true) (value : Document) :
    scalar 2 name ++ [':'] ++ renderValue 0 value = (parts (name, value)).flatten := by
  rw [scalar_of_isKey key]
  unfold parts
  split
  · next item rest same =>
    cases same
    simp [renderValue, renderItems_eq, endLine, isBreak]
  · next other _ same =>
    cases same
    simp

end

theorem renderFields_eq {entries : List (String × Document)}
    (fields : ∀ entry ∈ entries, IsField entry) :
    renderFields 0 entries = (entries.flatMap parts).flatten := by
  induction entries with
  | nil => rfl
  | cons entry rest ih =>
    obtain ⟨name, value⟩ := entry
    obtain ⟨field, others⟩ := List.forall_mem_cons.mp fields
    rw [renderFields, List.flatMap_cons, List.flatten_append, ← renderField_eq field.name,
      ← ih others]
    simp [margin]

theorem isBlock_of_mem_parts {entry : String × Document} (field : IsField entry)
    {lines : List Char} (member : lines ∈ parts entry) : IsBlock lines := by
  obtain ⟨name, value⟩ := entry
  obtain ⟨key, plain⟩ := field
  obtain ⟨first, rest, spelled, edge, -⟩ := begins_of_isKey key
  have begins : ∃ first rest, name.toList ++ [':'] = first :: rest ∧ isEdge first = false :=
    ⟨first, rest ++ [':'], by rw [spelled, List.cons_append], edge⟩
  have whole : ∀ c ∈ name.toList ++ [':'], isBreak c = false := by
    simpa [or_imp, forall_and, isBreak] using whole_of_isKey key
  cases plain with
  | text value =>
    have line := IsBlock.of_line begins whole _ (stands_scalar value).goesOn
    simp_all [parts, renderValue]
  | texts values =>
    cases values with
    | nil =>
      have line := IsBlock.of_line begins whole " []".toList (by decide)
      simp_all [parts, renderValue, endLine, isBreak]
    | cons value others =>
      have title := IsBlock.of_line ⟨first, rest, spelled, edge⟩ (whole_of_isKey key) [':']
        (by decide)
      have dash : ∀ c ∈ ['-'], isBreak c = false := by simp [isBreak]
      have item (value : String) : IsBlock ('-' :: renderItem 0 (.text value)) :=
        .of_line ⟨'-', [], rfl, by decide⟩ dash _ (stands_scalar value).goesOn
      simp only [List.map_cons, parts, List.mem_cons, List.mem_map] at member
      rcases member with rfl | rfl | ⟨_, ⟨other, -, rfl⟩, rfl⟩
      · exact title
      · exact item value
      · exact item other

theorem entries?_items (values : List String) {others : List (List Char)}
    {more : List (String × Document)} (read : entries? others = some ([], more)) :
    entries? (((values.map .text).map fun item => '-' :: renderItem 0 item) ++ others) =
      some (values.map .text, more) := by
  induction values with
  | nil => exact read
  | cons value rest ih =>
    have held : held? (renderItem 0 (.text value)) = some (.text value) :=
      (stands_scalar value).read
    rw [List.map_cons, List.map_cons, List.cons_append, entries?, ih]
    simp [held]

/-- A block begins with its name, which the first colon ends. -/
theorem entries?_cons {name : String} (key : isKey name = true) {behind : List Char}
    {others : List (List Char)} {items : List Document} {more : List (String × Document)}
    (read : entries? others = some (items, more)) {value : Document}
    (found : value? behind items = some value) :
    entries? ((name.toList ++ ':' :: behind) :: others) = some ([], (name, value) :: more) := by
  obtain ⟨first, rest, spelled, -, dash⟩ := begins_of_isKey key
  have named := bare?_of_isKey key
  simp only [isKey, Bool.and_eq_true, Bool.not_eq_true', List.contains_eq_mem,
    decide_eq_false_iff_not] at key
  have plain : ∀ c ∈ name.toList, (c != ':') = true := by
    intro c member
    rw [bne_iff_ne]
    rintro rfl
    exact key.1.2 member
  have start : (name.toList ++ ':' :: behind).head? ≠ some '-' := by simpa [spelled] using dash
  have front : (name.toList ++ ':' :: behind).takeWhile (· != ':') = name.toList :=
    takeWhile_of_ends plain (by simp)
  have back : (name.toList ++ ':' :: behind).dropWhile (· != ':') = ':' :: behind :=
    dropWhile_of_ends plain (by simp)
  simp only [entries?, read, Option.bind_eq_bind, Option.bind_some, if_neg start, front, back,
    named, List.tail_cons, found, Option.pure_def]

theorem entries?_parts {entry : String × Document} (field : IsField entry)
    {others : List (List Char)} {more : List (String × Document)}
    (read : entries? others = some ([], more)) :
    entries? (parts entry ++ others) = some ([], entry :: more) := by
  obtain ⟨name, value⟩ := entry
  obtain ⟨key, plain⟩ := field
  cases plain with
  | text value => exact entries?_cons key read (stands_scalar value).read
  | texts values =>
    cases values with
    | nil =>
      have empty : held? (renderValue 0 (.list [])) = some (.list []) := by
        simp [renderValue, held?]
      exact entries?_cons key read empty
    | cons value rest =>
      have items := entries?_items (value :: rest) read
      have title : endLine [':'] = [':', '\n'] := by decide
      rw [List.map_cons, parts, title, ← List.map_cons, List.cons_append]
      exact entries?_cons key items (by simp [value?])

theorem entries?_flatMap {entries : List (String × Document)}
    (fields : ∀ entry ∈ entries, IsField entry) :
    entries? (entries.flatMap parts) = some ([], entries) := by
  induction entries with
  | nil => rfl
  | cons entry rest ih =>
    obtain ⟨field, others⟩ := List.forall_mem_cons.mp fields
    exact entries?_parts field (ih others)

/-- A record of texts and of lists of texts is read back from its file. -/
theorem read?_file {entries : List (String × Document)} (given : entries ≠ [])
    (fields : ∀ entry ∈ entries, IsField entry) :
    read? (file (.fields entries)) = some (.fields entries) := by
  have spelt : (file (.fields entries)).toList = (entries.flatMap parts).flatten := by
    obtain ⟨entry, rest, rfl⟩ := List.exists_cons_of_ne_nil given
    rw [file, String.toList_ofList, renderFields_eq fields]
  have each : ∀ lines ∈ entries.flatMap parts, IsBlock lines := by
    intro lines member
    obtain ⟨entry, among, inside⟩ := List.mem_flatMap.mp member
    exact isBlock_of_mem_parts (fields entry among) inside
  have found := entries?_flatMap fields
  have cut : blocks false (entries.flatMap parts).flatten = entries.flatMap parts := by
    cases shape : entries.flatMap parts with
    | nil =>
      rw [shape] at found
      cases found
      exact absurd rfl given
    | cons block more => exact blocks_flatten (shape ▸ each)
  rw [read?, spelt, cut, found]

end PluginBridge.Document.Yaml
