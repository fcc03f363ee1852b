import PluginBridge.Proofs.EntryPoint.Reading
import PluginBridge.Proofs.Text.Unquoting

/-! Generated source, scanned. The scanner knows words and marks that stand apart, string literals
with and without escapes, and brackets, which have to match; it does not know how tokens are
printed. It finds in the text of an entry point just the tokens that were printed. -/
namespace PluginBridge.EntryPoint
open Manifest Plugin Text

/-! ## The scanner -/

/-- The escapes of string literals. -/
def literalEscapes : Escapes
  | ['"'] => .character '"'
  | ['\x27'] => .character '\x27'
  | ['\\'] => .character '\\'
  | ['0'] => .character (Char.ofNat 0)
  | ['n'] => .character '\n'
  | ['r'] => .character '\r'
  | ['t'] => .character '\t'
  | ['u'] => .begun
  | 'u' :: '\x7b' :: digits =>
    if digits.getLast? = some '\x7d' then .ofDigits digits.dropLast else .begun
  | 'x' :: digits => .numbered 2 digits
  | _ => .nothing

def Bracket.opening : Bracket → Char
  | .round => '('
  | .square => '['
  | .curly => '\x7b'

def Bracket.closing : Bracket → Char
  | .round => ')'
  | .square => ']'
  | .curly => '\x7d'

/-- The bracket that a character opens. -/
def opened? (c : Char) : Option Bracket :=
  [Bracket.round, .square, .curly].find? (·.opening = c)

def isClosing (c : Char) : Bool :=
  [Bracket.round, .square, .curly].any (·.closing = c)

def isGap (c : Char) : Bool :=
  c == ' ' || c == '\n'

/-- What words and marks are made of. -/
def isSpelling (c : Char) : Bool :=
  !isGap c && !isClosing c && (opened? c).isNone && c != '"' && c != '/'

/-- The tokens up to a bracket that closes none of theirs, and the text from there. -/
def tokensFrom? : Nat → List Char → Option (List Token × List Char)
  | _, [] => some ([], [])
  | 0, _ :: _ => none
  | fuel + 1, c :: rest =>
    if isGap c then tokensFrom? fuel rest
    else if isClosing c then some ([], c :: rest)
    else if c = '"' then do
      let (value, behind) ← unquote? literalEscapes none rest
      (tokensFrom? fuel behind).map (Prod.map (.text (String.ofList value) :: ·) id)
    else if c = 'r' && rest.head? = some '"' then
      match rest.tail.dropWhile (· != '"') with
      | [] => none
      | _ :: behind =>
        let value := String.ofList (rest.tail.takeWhile (· != '"'))
        (tokensFrom? fuel behind).map (Prod.map (.raw value :: ·) id)
    else
      match opened? c with
      | some bracket => do
        let (content, behind) ← tokensFrom? fuel rest
        if behind.head? = some bracket.closing then
          (tokensFrom? fuel behind.tail).map (Prod.map (.group bracket content :: ·) id)
        else none
      | none =>
        if isSpelling c then
          let word := String.ofList (c :: rest.takeWhile isSpelling)
          (tokensFrom? fuel (rest.dropWhile isSpelling)).map (Prod.map (.plain word :: ·) id)
        else none

/-- The text behind a comment on the first line. -/
def afterComment : List Char → List Char
  | '/' :: '/' :: rest => rest.dropWhile (· != '\n')
  | text => text

/-- The tokens of a source. -/
def scan? (source : String) : Option (List Token) :=
  match tokensFrom? source.toList.length (afterComment source.toList) with
  | some (tokens, []) => some tokens
  | _ => none

/-! ## String literals -/

theorem comesTo_digits (c : Char) {before digits : List Char}
    (inside : ∀ digit ∈ digits, digit ≠ '\x7d')
    (ends : Escaped.ofDigits (before ++ digits) = .character c) :
    comesTo literalEscapes c ('u' :: '\x7b' :: before) (digits ++ ['\x7d']) = true := by
  induction digits generalizing before with
  | nil =>
    rw [List.append_nil] at ends
    simp [comesTo, literalEscapes, ends]
  | cons digit rest ih =>
    obtain ⟨first, others⟩ := List.forall_mem_cons.mp inside
    have goes : literalEscapes ('u' :: '\x7b' :: before ++ [digit]) = .begun := by
      simp [literalEscapes, first]
    rw [List.cons_append, comesTo, goes]
    exact ih others (by simpa using ends)

theorem standsFor_escapeChar (c : Char) : standsFor literalEscapes c (escapeChar c) = true := by
  unfold escapeChar
  split_ifs with tab feed back quote slash null visible
  · subst tab
    decide
  · subst feed
    decide
  · subst back
    decide
  · subst quote
    decide
  · subst slash
    decide
  · have same : c = Char.ofNat 0 := by rw [← null, Char.ofNat_toNat]
    subst same
    decide
  · simp [standsFor, quote]
  · have plain : ∀ digit ∈ hexDigits c.toNat, digit ≠ '\x7d' := by
      rintro digit member rfl
      exact absurd (isDigitIn_of_mem_hexDigits member) (by decide)
    exact comesTo_digits c plain (ofDigits_hexDigits c)

/-- A string literal is read up to its closing quote. A null is spelt in two ways, by what comes
next. -/
theorem unquote?_literalBody (text rest : List Char) :
    unquote? literalEscapes none (literalBody text ++ '"' :: rest) = some (text, rest) := by
  induction text with
  | nil => simp [literalBody, unquote?]
  | cons c others ih =>
    have stands : ∃ form, standsFor literalEscapes c form = true ∧
        literalBody (c :: others) = form ++ literalBody others := by
      rw [literalBody]
      split_ifs with null
      · have same : c = Char.ofNat 0 := by
          rw [Bool.and_eq_true, decide_eq_true_eq] at null
          rw [← null.1, Char.ofNat_toNat]
        subst same
        exact ⟨_, by decide, rfl⟩
      · exact ⟨_, standsFor_escapeChar c, rfl⟩
    obtain ⟨form, stands, spelt⟩ := stands
    rw [spelt, List.append_assoc, unquote?_of_standsFor stands, ih]
    rfl

/-! ## Tokens -/

mutual

/-- Whether a token is printed so that it can be told from its neighbours. -/
def Token.isSpelt : Token → Bool
  | .plain spelling => !spelling.toList.isEmpty && spelling.toList.all isSpelling
  | .text _ => true
  | .raw value => value.toList.all (· != '"')
  | .group _ content => areSpelt content

def Token.areSpelt : List Token → Bool
  | [] => true
  | token :: rest => token.isSpelt && areSpelt rest

end

open Token (areSpelt)

theorem areSpelt_append (front back : List Token) :
    areSpelt (front ++ back) = (areSpelt front && areSpelt back) := by
  induction front with
  | nil => simp [areSpelt]
  | cons token rest ih => simp [areSpelt, ih, Bool.and_assoc]

/-- Here no word goes on: a gap, the end of a bracket or the end of the source. -/
def Parts (chars : List Char) : Prop :=
  ∀ c, chars.head? = some c → isSpelling c = false ∧ c ≠ '"'

/-- What is printed is found, with the gaps around it, up to where a bracket closes. -/
def Scans (fuel : Nat) : Prop :=
  ∀ (before : List Char) (tokens : List Token) (behind rest : List Char),
    (∀ c ∈ before, isGap c = true) → areSpelt tokens = true → (∀ c ∈ behind, isGap c = true) →
    (∀ c, rest.head? = some c → isClosing c = true) →
    (before ++ ((Token.spellAll tokens).toList ++ (behind ++ rest))).length ≤ fuel →
      tokensFrom? fuel (before ++ ((Token.spellAll tokens).toList ++ (behind ++ rest))) =
        some (tokens, rest)

theorem isGap_parts {c : Char} (gap : isGap c = true) : isSpelling c = false ∧ c ≠ '"' := by
  refine ⟨by simp [isSpelling, gap], ?_⟩
  rintro rfl
  cases gap

theorem isClosing_parts {c : Char} (closing : isClosing c = true) :
    isSpelling c = false ∧ c ≠ '"' := by
  refine ⟨by simp [isSpelling, closing], ?_⟩
  rintro rfl
  exact absurd closing (by decide)

section
variable {fuel : Nat} {rest : List Char}

theorem scan_plain {spelling : String} (spelt : (Token.plain spelling).isSpelt = true)
    (parts : Parts rest) :
    tokensFrom? (fuel + 1) (spelling.toList ++ rest) =
      (tokensFrom? fuel rest).map (Prod.map (.plain spelling :: ·) id) := by
  simp only [Token.isSpelt, Bool.and_eq_true, Bool.not_eq_true', List.all_eq_true] at spelt
  obtain ⟨given, word⟩ := spelt
  have back : String.ofList spelling.toList = spelling := String.ofList_toList
  cases letters : spelling.toList with
  | nil => simp [letters] at given
  | cons c others =>
    rw [letters] at word back
    obtain ⟨first, following⟩ := List.forall_mem_cons.mp word
    have apart : isGap c = false ∧ isClosing c = false ∧ opened? c = none ∧ c ≠ '"' := by
      simp only [isSpelling, Bool.and_eq_true, Bool.not_eq_true', Option.isNone_iff_eq_none,
        bne_iff_ne] at first
      exact ⟨first.1.1.1.1, first.1.1.1.2, first.1.1.2, first.1.2⟩
    obtain ⟨gap, closing, opening, quote⟩ := apart
    have unquoted : (others ++ rest).head? ≠ some '"' := by
      cases others with
      | nil => exact fun quoted => (parts '"' quoted).2 rfl
      | cons next more =>
        rintro quoted
        obtain rfl := Option.some.inj quoted
        exact absurd (following '"' List.mem_cons_self) (by decide)
    have taken : (others ++ rest).takeWhile isSpelling = others :=
      takeWhile_of_ends following fun next same => (parts next same).1
    have left : (others ++ rest).dropWhile isSpelling = rest :=
      dropWhile_of_ends following fun next same => (parts next same).1
    have raw : (c = 'r' && (others ++ rest).head? = some '"') = false := by
      rw [decide_eq_false unquoted, Bool.and_false]
    rw [List.cons_append, tokensFrom?, if_neg (by simp [gap]), if_neg (by simp [closing]),
      if_neg quote, raw, if_neg Bool.false_ne_true]
    simp [opening, first, taken, left, back]

theorem scan_text (value : String) :
    tokensFrom? (fuel + 1) ((Token.text value).spell.toList ++ rest) =
      (tokensFrom? fuel rest).map (Prod.map (.text value :: ·) id) := by
  have spelt : (Token.text value).spell.toList ++ rest =
      '"' :: (literalBody value.toList ++ '"' :: rest) := by simp [Token.spell, stringLiteral]
  rw [spelt, tokensFrom?, if_neg (by decide), if_neg (by decide), if_pos rfl,
    unquote?_literalBody]
  simp

theorem scan_raw {value : String} (spelt : (Token.raw value).isSpelt = true) :
    tokensFrom? (fuel + 1) ((Token.raw value).spell.toList ++ rest) =
      (tokensFrom? fuel rest).map (Prod.map (.raw value :: ·) id) := by
  have inside : ∀ c ∈ value.toList, (c != '"') = true := List.all_eq_true.mp spelt
  have form : (Token.raw value).spell.toList ++ rest =
      'r' :: '"' :: (value.toList ++ '"' :: rest) := by simp [Token.spell]
  have taken : (value.toList ++ '"' :: rest).takeWhile (· != '"') = value.toList :=
    takeWhile_of_ends inside (by simp)
  have left : (value.toList ++ '"' :: rest).dropWhile (· != '"') = '"' :: rest :=
    dropWhile_of_ends inside (by simp)
  rw [form, tokensFrom?, if_neg (by decide), if_neg (by decide), if_neg (by decide),
    if_pos (by simp)]
  simp [taken, left]

/-- What stands in brackets is scanned, and then what stands behind them. -/
theorem scan_bracket {inside : List Char} (bracket : Bracket) {content : List Token}
    (scanned : tokensFrom? fuel (inside ++ bracket.closing :: rest) =
      some (content, bracket.closing :: rest)) :
    tokensFrom? (fuel + 1) (bracket.opening :: (inside ++ bracket.closing :: rest)) =
      (tokensFrom? fuel rest).map (Prod.map (.group bracket content :: ·) id) := by
  have opens : isGap bracket.opening = false ∧ isClosing bracket.opening = false ∧
      opened? bracket.opening = some bracket ∧ bracket.opening ≠ '"' ∧
        bracket.opening ≠ 'r' := by
    cases bracket <;> decide
  obtain ⟨gap, closing, opening, quote, raw⟩ := opens
  rw [tokensFrom?]
  simp [gap, closing, opening, quote, raw, scanned]

theorem scan_group (scans : Scans fuel) {bracket : Bracket} {content : List Token}
    (spelt : areSpelt content = true)
    (enough : ((Token.group bracket content).spell.toList ++ rest).length ≤ fuel + 1) :
    tokensFrom? (fuel + 1) ((Token.group bracket content).spell.toList ++ rest) =
      (tokensFrom? fuel rest).map (Prod.map (.group bracket content :: ·) id) := by
  have form : ∃ before behind : List Char, (∀ c ∈ before, isGap c = true) ∧
      (∀ c ∈ behind, isGap c = true) ∧ (Token.group bracket content).spell.toList ++ rest =
        bracket.opening :: (before ++ ((Token.spellAll content).toList ++
          (behind ++ bracket.closing :: rest))) := by
    cases bracket with
    | round | square =>
      refine ⟨[], [], by simp, by simp, ?_⟩
      simp [Token.spell, Token.enclose, Bracket.opening, Bracket.closing]
    | curly =>
      by_cases empty : Token.spellAll content = ""
      · refine ⟨[], [' '], by simp, by simp [isGap], ?_⟩
        simp [Token.spell, Token.enclose, Bracket.opening, Bracket.closing, empty]
      · refine ⟨[' '], [' '], by simp [isGap], by simp [isGap], ?_⟩
        simp [Token.spell, Token.enclose, Bracket.opening, Bracket.closing, empty]
  obtain ⟨before, behind, lead, trail, form⟩ := form
  rw [form, List.length_cons] at enough
  have closes : ∀ c, (bracket.closing :: rest).head? = some c → isClosing c = true := by
    rintro c same
    obtain rfl := Option.some.inj same
    cases bracket <;> decide
  have scanned := scans before content behind (bracket.closing :: rest) lead spelt trail closes
    (by omega)
  rw [form]
  simp only [← List.append_assoc] at scanned ⊢
  exact scan_bracket bracket scanned

theorem scan_token (scans : Scans fuel) {token : Token} (spelt : token.isSpelt = true)
    (parts : Parts rest) (enough : (token.spell.toList ++ rest).length ≤ fuel + 1) :
    tokensFrom? (fuel + 1) (token.spell.toList ++ rest) =
      (tokensFrom? fuel rest).map (Prod.map (token :: ·) id) := by
  cases token with
  | plain spelling => exact scan_plain spelt parts
  | text value => exact scan_text value
  | raw value => exact scan_raw spelt
  | group bracket content => exact scan_group scans spelt enough

end

theorem spell_ne_nil {token : Token} (spelt : token.isSpelt = true) : token.spell.toList ≠ [] := by
  cases token with
  | plain spelling =>
    simp only [Token.isSpelt, Bool.and_eq_true, Bool.not_eq_true', List.isEmpty_eq_false_iff]
      at spelt
    exact spelt.1
  | text value => simp [Token.spell, stringLiteral]
  | raw value => simp [Token.spell]
  | group bracket content =>
    cases bracket <;> simp only [Token.spell, Token.enclose]
    case curly => split <;> simp
    all_goals simp

/-- Neighbours are printed with a gap between them. -/
theorem spellAll_cons (token : Token) (others : List Token) :
    ∃ gap, (∀ c ∈ gap, isGap c = true) ∧ (others = [] ∨ gap ≠ []) ∧
      (Token.spellAll (token :: others)).toList =
        token.spell.toList ++ (gap ++ (Token.spellAll others).toList) := by
  cases others with
  | nil => exact ⟨[], by simp, .inl rfl, by simp [Token.spellAll]⟩
  | cons next more => exact ⟨[' '], by simp [isGap], .inr (by simp), by simp [Token.spellAll]⟩

theorem parts_of_gaps {gaps rest : List Char} (gap : ∀ c ∈ gaps, isGap c = true)
    (parts : Parts rest) : Parts (gaps ++ rest) := by
  cases gaps with
  | nil => exact parts
  | cons first others =>
    rintro c same
    obtain rfl := Option.some.inj same
    exact isGap_parts (gap first List.mem_cons_self)

/-- Where a bracket closes, or at the end of the source, there are no more tokens. -/
theorem scan_end {fuel : Nat} {rest : List Char}
    (closes : ∀ c, rest.head? = some c → isClosing c = true) (enough : rest.length ≤ fuel) :
    tokensFrom? fuel rest = some ([], rest) := by
  cases rest with
  | nil => simp [tokensFrom?]
  | cons c others =>
    obtain ⟨less, rfl⟩ := Nat.exists_eq_add_of_le' (Nat.le_trans (by simp) enough : 1 ≤ fuel)
    have closing := closes c rfl
    have gap : isGap c = false := by
      simp only [isGap, Bool.or_eq_false_iff, beq_eq_false_iff_ne]
      constructor <;> rintro rfl <;> exact absurd closing (by decide)
    simp [tokensFrom?, gap, closing]

theorem scan_tokens {fuel : Nat} (scans : Scans fuel) {token : Token} {others : List Token}
    {behind rest : List Char} (spelt : areSpelt (token :: others) = true)
    (trail : ∀ c ∈ behind, isGap c = true)
    (closes : ∀ c, rest.head? = some c → isClosing c = true)
    (enough : ((Token.spellAll (token :: others)).toList ++ (behind ++ rest)).length ≤ fuel + 1) :
    tokensFrom? (fuel + 1) ((Token.spellAll (token :: others)).toList ++ (behind ++ rest)) =
      some (token :: others, rest) := by
  obtain ⟨gap, gaps, between, form⟩ := spellAll_cons token others
  simp only [Token.areSpelt, Bool.and_eq_true] at spelt
  have some := List.length_pos_iff.mpr (spell_ne_nil spelt.1)
  have ends : Parts rest := fun c same => isClosing_parts (closes c same)
  have parts : Parts (gap ++ ((Token.spellAll others).toList ++ (behind ++ rest))) := by
    rcases between with rfl | given
    · simpa [Token.spellAll] using parts_of_gaps gaps (parts_of_gaps trail ends)
    · obtain ⟨first, more, rfl⟩ := List.exists_cons_of_ne_nil given
      rintro c same
      obtain rfl := Option.some.inj same
      exact isGap_parts (gaps first List.mem_cons_self)
  rw [form] at enough ⊢
  simp only [List.append_assoc] at enough ⊢
  have left := scans gap others behind rest gaps spelt.2 trail closes (by
    rw [List.length_append] at enough
    omega)
  rw [scan_token scans spelt.1 parts enough, left]
  rfl

theorem scans (fuel : Nat) : Scans fuel := by
  induction fuel with
  | zero =>
    intro before tokens behind rest lead spelt trail closes enough
    simp only [List.length_append] at enough
    obtain rfl := List.eq_nil_of_length_eq_zero (show before.length = 0 by omega)
    obtain rfl := List.eq_nil_of_length_eq_zero (show behind.length = 0 by omega)
    cases tokens with
    | nil => exact scan_end closes (by simpa [Token.spellAll] using enough)
    | cons token others =>
      obtain ⟨gap, -, -, form⟩ := spellAll_cons token others
      simp only [Token.areSpelt, Bool.and_eq_true] at spelt
      have some := List.length_pos_iff.mpr (spell_ne_nil spelt.1)
      rw [form, List.length_append] at enough
      omega
  | succ fuel ih =>
    intro before tokens behind rest lead spelt trail closes enough
    cases before with
    | cons first more =>
      obtain ⟨gap, others⟩ := List.forall_mem_cons.mp lead
      rw [List.cons_append, tokensFrom?, if_pos gap]
      exact ih more tokens behind rest others spelt trail closes
        (Nat.le_of_succ_le_succ (by simpa using enough))
    | nil =>
      cases tokens with
      | cons token others => exact scan_tokens ih spelt trail closes enough
      | nil =>
        cases behind with
        | nil => exact scan_end closes (by simpa [Token.spellAll] using enough)
        | cons first more =>
          obtain ⟨gap, others⟩ := List.forall_mem_cons.mp trail
          have further := ih [] [] more rest lead spelt others closes
            (by simpa [Token.spellAll] using enough)
          simpa [Token.spellAll, tokensFrom?, gap] using further

/-! ## Entry points -/

theorem areSpelt_plain {words : List String}
    (spelt : ∀ word ∈ words, (Token.plain word).isSpelt = true) :
    areSpelt (words.map .plain) = true := by
  induction words with
  | nil => rfl
  | cons word rest ih =>
    obtain ⟨first, others⟩ := List.forall_mem_cons.mp spelt
    simp [areSpelt, first, ih others]

/-- Whether characters can stand as one word. -/
def isWord (chars : List Char) : Bool :=
  !chars.isEmpty && chars.all isSpelling

theorem areSpelt_phrase {chars : List Char} (words : (cutAt ' ' chars).all isWord = true) :
    areSpelt (phrase (String.ofList chars)) = true := by
  rw [phrase, piecesAt, String.toList_ofList]
  refine areSpelt_plain (List.forall_mem_map.mpr fun piece member => ?_)
  rw [Token.isSpelt, String.toList_ofList]
  exact List.all_eq_true.mp words piece member

theorem areSpelt_nil : areSpelt [] = true := by
  rfl

theorem areSpelt_commas {items : List (List Token)} (spelt : ∀ item ∈ items, areSpelt item = true) :
    areSpelt (commas items) = true := by
  induction items using commas.induct with
  | case1 => rfl
  | case2 item => exact spelt item (by simp)
  | case3 item next rest ih =>
    obtain ⟨first, others⟩ := List.forall_mem_cons.mp spelt
    have comma : areSpelt [.plain ","] = true := by decide
    rw [commas, areSpelt_append, areSpelt_append, first, comma, ih others]
    rfl

theorem areSpelt_group (bracket : Bracket) (content : List Token) :
    areSpelt [.group bracket content] = areSpelt content := by
  rw [areSpelt, Token.isSpelt, areSpelt, Bool.and_true]

theorem areSpelt_call (head : String) (arguments : List Token) :
    areSpelt (call head arguments) = (areSpelt (phrase head) && areSpelt arguments) := by
  rw [call, round, areSpelt_append, areSpelt_group]

theorem areSpelt_ownedText (value : String) : areSpelt (ownedText value) = true := by
  have path : areSpelt (phrase ":: std :: string :: String :: from") = true :=
    areSpelt_phrase (by decide)
  rw [ownedText, round, areSpelt_append, areSpelt_group, path]
  rfl

theorem areSpelt_absent : areSpelt absent = true :=
  areSpelt_phrase (by decide)

theorem areSpelt_present (content : List Token) :
    areSpelt (present content) = areSpelt content := by
  have path : areSpelt (phrase ":: core :: option :: Option :: Some") = true :=
    areSpelt_phrase (by decide)
  rw [present, round, areSpelt_append, areSpelt_group, path, Bool.true_and]

theorem areSpelt_optionalText (value : Option String) : areSpelt (optionalText value) = true := by
  cases value with
  | none => exact areSpelt_absent
  | some text => rw [optionalText, areSpelt_present, areSpelt_ownedText]

theorem areSpelt_vector {items : List (List Token)} (spelt : ∀ item ∈ items, areSpelt item = true) :
    areSpelt (vector items) = true := by
  have path : areSpelt (phrase ":: std :: vec !") = true := areSpelt_phrase (by decide)
  rw [vector, square, areSpelt_append, areSpelt_group, path, areSpelt_commas spelt]
  rfl

theorem areSpelt_field {name : List Char} {value : List Token}
    (named : (cutAt ' ' (name ++ [' ', ':'])).all isWord = true) (spelt : areSpelt value = true) :
    areSpelt (field (String.ofList name) value) = true := by
  have joined : String.ofList name ++ " :" = String.ofList (name ++ [' ', ':']) :=
    String.ofList_append.symm
  have comma : areSpelt [.plain ","] = true := by decide
  rw [field, areSpelt_append, areSpelt_append, joined, areSpelt_phrase named, spelt, comma]
  rfl

theorem areSpelt_requirementLiteral (requirement : Requirement) :
    areSpelt (requirementLiteral requirement) = true := by
  have path : areSpelt (phrase ":: chameleon_runtime :: PluginDependency") = true :=
    areSpelt_phrase (by decide)
  have soft : areSpelt [.plain (if requirement.soft then "true" else "false")] = true := by
    cases requirement.soft <;> decide
  have fields : areSpelt (requirementFields requirement) = true := by
    rw [requirementFields, areSpelt_append, Bool.and_eq_true]
    exact ⟨areSpelt_field (by decide) (areSpelt_ownedText _), areSpelt_field (by decide) soft⟩
  rw [requirementLiteral_eq, curly, areSpelt_append, areSpelt_group, path, fields]
  rfl

theorem areSpelt_dataLiteral (data : Data) : areSpelt (dataLiteral data) = true := by
  have path : areSpelt (phrase ":: chameleon_runtime :: PluginData") = true :=
    areSpelt_phrase (by decide)
  have authors : areSpelt (vector (data.authors.map ownedText)) = true := by
    refine areSpelt_vector (List.forall_mem_map.mpr fun author _ => ?_)
    exact areSpelt_ownedText author
  have dependencies : areSpelt (vector (data.dependencies.map requirementLiteral)) = true := by
    refine areSpelt_vector (List.forall_mem_map.mpr fun requirement _ => ?_)
    exact areSpelt_requirementLiteral requirement
  have fields : areSpelt (dataFields data) = true := by
    simp only [dataFields, areSpelt_append, Bool.and_eq_true, and_assoc]
    refine ⟨areSpelt_field (by decide) (areSpelt_ownedText _),
      areSpelt_field (by decide) (areSpelt_ownedText _),
      areSpelt_field (by decide) (areSpelt_ownedText _),
      areSpelt_field (by decide) authors,
      areSpelt_field (by decide) (areSpelt_optionalText _),
      areSpelt_field (by decide) (areSpelt_optionalText _),
      areSpelt_field (by decide) dependencies,
      areSpelt_field (by decide) (areSpelt_optionalText _)⟩
  rw [dataLiteral_eq, curly, areSpelt_append, areSpelt_group, path, fields]
  rfl

theorem areSpelt_note {line : List Char} (plain : line.all (· != '"') = true) :
    areSpelt (note (String.ofList line)) = true := by
  have mark : areSpelt (phrase "#") = true := areSpelt_phrase (by decide)
  have doc : areSpelt (phrase "doc =") = true := areSpelt_phrase (by decide)
  rw [note, square, areSpelt_append, areSpelt_group, areSpelt_append, mark, doc]
  simpa [areSpelt, Token.isSpelt] using plain

theorem areSpelt_logError (message : String) : areSpelt (logError message) = true := by
  have path : areSpelt (phrase ":: chameleon_runtime :: tracing :: error !") = true :=
    areSpelt_phrase (by decide)
  have cause : areSpelt (phrase "error = % error ,") = true := areSpelt_phrase (by decide)
  have ended : areSpelt (phrase ";") = true := areSpelt_phrase (by decide)
  rw [logError, areSpelt_append, areSpelt_call, areSpelt_append, path, cause, ended]
  rfl

theorem areSpelt_failed (content : List Token) :
    areSpelt (failed content) = areSpelt content := by
  have path : areSpelt (phrase ":: core :: result :: Result :: Err") = true :=
    areSpelt_phrase (by decide)
  have cause : areSpelt (phrase "error") = true := areSpelt_phrase (by decide)
  have arrow : areSpelt (phrase "=>") = true := areSpelt_phrase (by decide)
  rw [failed, areSpelt_append, areSpelt_append, areSpelt_call, curly, areSpelt_group, path,
    cause, arrow]
  rfl

theorem areSpelt_ifFailed (method : String) (content : List Token) :
    areSpelt (ifFailed method content) = (areSpelt (phrase method) && areSpelt content) := by
  have path : areSpelt (phrase "if let :: core :: result :: Result :: Err") = true :=
    areSpelt_phrase (by decide)
  have cause : areSpelt (phrase "error") = true := areSpelt_phrase (by decide)
  have equals : areSpelt (phrase "=") = true := areSpelt_phrase (by decide)
  rw [ifFailed, areSpelt_append, areSpelt_append, areSpelt_append, areSpelt_call,
    areSpelt_call, curly, areSpelt_group, path, cause, equals]
  simp [areSpelt]

theorem areSpelt_typeDeclaration {type : Token} {adapter : List Token}
    (named : type.isSpelt = true) (spelt : areSpelt adapter = true) :
    areSpelt (typeDeclaration type adapter) = true := by
  simp only [typeDeclaration, curly, areSpelt_append, areSpelt, Token.isSpelt, named, spelt,
    Bool.and_true, Bool.true_and, Bool.and_eq_true]
  refine ⟨⟨areSpelt_note (by decide), ?_⟩, ?_, ?_⟩
  all_goals exact areSpelt_phrase (by decide)

theorem areSpelt_constructor {adapter : List Token} (spelt : areSpelt adapter = true) :
    areSpelt (constructor adapter) = true := by
  have platform : areSpelt (phrase "platform") = true := areSpelt_phrase (by decide)
  have given : areSpelt (field "platform" (present (phrase "platform"))) = true :=
    areSpelt_field (by decide) (by rw [areSpelt_present, platform])
  have core : areSpelt (field "core" absent) = true :=
    areSpelt_field (by decide) areSpelt_absent
  simp only [constructor, areSpelt_call, areSpelt_append, curly, areSpelt_group, spelt, given,
    core, Bool.and_true, Bool.and_eq_true]
  and_intros
  all_goals exact areSpelt_phrase (by decide)

theorem areSpelt_enableMethod {main : List Token} (spelt : areSpelt main = true) (data : Data) :
    areSpelt (enableMethod main data) = true := by
  simp only [enableMethod, curly, areSpelt_append, areSpelt_group, areSpelt_call, areSpelt_nil,
    spelt, areSpelt_dataLiteral, areSpelt_present, areSpelt_failed, areSpelt_logError,
    areSpelt_ifFailed, Bool.and_true, Bool.true_and, Bool.and_eq_true]
  refine ⟨⟨⟨areSpelt_note (by decide), areSpelt_note (by decide)⟩, ?_⟩, ?_⟩
  all_goals
    and_intros
    all_goals exact areSpelt_phrase (by decide)

theorem areSpelt_disableMethod : areSpelt disableMethod = true := by
  simp only [disableMethod, curly, areSpelt_append, areSpelt_group, areSpelt_call, areSpelt_nil,
    areSpelt_present, areSpelt_logError, areSpelt_ifFailed, Bool.and_true, Bool.and_eq_true]
  and_intros
  all_goals exact areSpelt_phrase (by decide)

theorem areSpelt_coreMethod : areSpelt coreMethod = true := by
  simp only [coreMethod, curly, areSpelt_append, areSpelt_group, areSpelt_call, areSpelt_nil,
    Bool.and_true, Bool.and_eq_true]
  refine ⟨⟨⟨areSpelt_note (by decide), ?_⟩, ?_⟩, ?_⟩
  all_goals
    and_intros
    all_goals exact areSpelt_phrase (by decide)

theorem areSpelt_program {type : Token} {adapter main : List Token} (data : Data)
    (named : type.isSpelt = true) (adapted : areSpelt adapter = true)
    (spelt : areSpelt main = true) : areSpelt (program type adapter main data) = true := by
  have implementation : areSpelt (phrase "impl") = true := areSpelt_phrase (by decide)
  simp only [program, curly, areSpelt_append, areSpelt, Token.isSpelt, named, implementation,
    areSpelt_typeDeclaration named adapted, areSpelt_constructor adapted,
    areSpelt_enableMethod spelt, areSpelt_disableMethod, areSpelt_coreMethod, Bool.and_self]

/-! ## Names -/

/-- A name is spelt with letters, digits and underscores. -/
theorem isSpelt_of_isIdentifier {name : String} (identifier : Reference.isIdentifier name = true) :
    (Token.plain name).isSpelt = true := by
  have letters (c : Char) (inside : Reference.continuesIdentifier c = true) :
      isSpelling c = true := by
    have apart (other : Char) (never : Reference.continuesIdentifier other = false) :
        c ≠ other := by
      rintro rfl
      rw [inside] at never
      cases never
    simp [isSpelling, isGap, isClosing, opened?, Bracket.opening, Bracket.closing,
      apart ' ' (by decide), apart '\n' (by decide), apart '"' (by decide), apart '/' (by decide),
      (apart '(' (by decide)).symm, (apart ')' (by decide)).symm, (apart '[' (by decide)).symm,
      (apart ']' (by decide)).symm, (apart '\x7b' (by decide)).symm,
      (apart '\x7d' (by decide)).symm]
  simp only [Reference.isIdentifier, Bool.and_eq_true] at identifier
  have word := identifier.1.1
  cases spelled : name.toList with
  | nil => simp [spelled, Reference.isWord] at word
  | cons first rest =>
    simp only [spelled, Reference.isWord, Bool.and_eq_true, List.all_eq_true] at word
    have start : Reference.continuesIdentifier first = true := by
      have starts := word.1
      simp only [Reference.startsIdentifier, Bool.or_eq_true] at starts
      simp only [Reference.continuesIdentifier, Char.isAlphanum, Bool.or_eq_true]
      exact starts.imp_left .inl
    simp only [Token.isSpelt, spelled, List.isEmpty_cons, List.all_cons, Bool.and_eq_true,
      List.all_eq_true]
    exact ⟨rfl, letters first start, fun c member => letters c (word.2 c member)⟩

theorem name?_eq_some {text : String} {token : Token} (named : name? text = some token) :
    Reference.isIdentifier text = true ∧ token = .plain text := by
  unfold name? at named
  split at named
  · exact ⟨‹_›, (Option.some.inj named).symm⟩
  · cases named

theorem mapM_name?_eq_some {texts : List String} {names : List Token}
    (named : texts.mapM name? = some names) :
    (∀ text ∈ texts, Reference.isIdentifier text = true) ∧ names = texts.map .plain := by
  induction texts generalizing names with
  | nil =>
    cases named
    exact ⟨by simp, rfl⟩
  | cons text rest ih =>
    rw [List.mapM_cons] at named
    obtain ⟨first, head, named⟩ := Option.bind_eq_some_iff.mp named
    obtain ⟨others, tail, named⟩ := Option.bind_eq_some_iff.mp named
    cases named
    obtain ⟨identifier, rfl⟩ := name?_eq_some head
    obtain ⟨identifiers, rfl⟩ := ih tail
    exact ⟨List.forall_mem_cons.mpr ⟨identifier, identifiers⟩, rfl⟩

/-- An entry point that can be printed is the program for its names, and the scanner can tell
its tokens apart. -/
theorem tokens?_eq_some {metadata : Metadata} {platform : Platform} {tokens : List Token}
    (printed : tokens? metadata platform = some tokens) :
    Reference.isIdentifier (metadata.entryType platform) = true ∧ areSpelt tokens = true ∧
      ∃ (adapter : List Token) (main : List String),
        adapter = phrase "::" ++ [.plain platform.adapterPackage] ++ phrase "::" ++
          [.plain platform.adapterType] ∧
        tokens = program (.plain (metadata.entryType platform)) adapter (main.map .plain)
          (data metadata platform) := by
  unfold tokens? at printed
  obtain ⟨type, typed, printed⟩ := Option.bind_eq_some_iff.mp printed
  obtain ⟨package, packed, printed⟩ := Option.bind_eq_some_iff.mp printed
  obtain ⟨adapter, adapted, printed⟩ := Option.bind_eq_some_iff.mp printed
  obtain ⟨main, mained, printed⟩ := Option.bind_eq_some_iff.mp printed
  obtain ⟨identifier, rfl⟩ := name?_eq_some typed
  obtain ⟨packageName, rfl⟩ := name?_eq_some packed
  obtain ⟨adapterName, rfl⟩ := name?_eq_some adapted
  obtain ⟨segmentNames, rfl⟩ := mapM_name?_eq_some mained
  have mark : phrase "::" = [.plain "::"] := by rfl
  have colons : (Token.plain "::").isSpelt = true := by decide
  have path : ((Reference.segments metadata.main).map Token.plain).flatMap
      (fun segment => phrase "::" ++ [segment]) =
        ((Reference.segments metadata.main).flatMap fun segment => ["::", segment]).map .plain := by
    rw [List.map_flatMap, List.flatMap_map, mark]
    rfl
  have words : areSpelt (((Reference.segments metadata.main).flatMap
      fun segment => ["::", segment]).map .plain) = true := by
    refine areSpelt_plain (List.forall_mem_flatMap.mpr fun segment member => ?_)
    exact List.forall_mem_cons.mpr ⟨colons, List.forall_mem_singleton.mpr
      (isSpelt_of_isIdentifier (segmentNames segment member))⟩
  have host : areSpelt (phrase "::" ++ [.plain platform.adapterPackage] ++ phrase "::" ++
      [.plain platform.adapterType]) = true := by
    simp [mark, areSpelt, colons, isSpelt_of_isIdentifier packageName,
      isSpelt_of_isIdentifier adapterName]
  obtain rfl := Option.some.inj printed
  rw [path]
  exact ⟨identifier, areSpelt_program _ (isSpelt_of_isIdentifier identifier) host words,
    _, _, rfl, rfl⟩

/-- The source of an entry point is scanned as the tokens that were printed, whatever the texts
in it. -/
theorem scan?_source {metadata : Metadata} {platform : Platform} {source : String}
    (printed : source? metadata platform = some source) :
    ∃ tokens, tokens? metadata platform = some tokens ∧ scan? source = some tokens := by
  obtain ⟨tokens, found, rfl⟩ := Option.map_eq_some_iff.mp printed
  obtain ⟨-, spelt, -⟩ := tokens?_eq_some found
  refine ⟨tokens, found, ?_⟩
  have spelled : (header ++ Token.spellAll tokens ++ "\n").toList =
      header.toList ++ ((Token.spellAll tokens).toList ++ ['\n']) := by simp
  have behind (rest : List Char) : afterComment (header.toList ++ rest) = '\n' :: rest := by
    rw [header, String.toList_ofList]
    rfl
  have scanned := scans ((header ++ Token.spellAll tokens ++ "\n").toList.length) ['\n'] tokens
    ['\n'] [] (by simp [isGap]) spelt (by simp [isGap]) (by simp) (by
      have some : 0 < header.toList.length := by
        rw [header, String.toList_ofList]
        decide
      simp only [spelled, List.length_append, List.length_singleton, List.length_nil]
      omega)
  rw [List.singleton_append, List.append_nil] at scanned
  rw [scan?, spelled, behind, ← spelled, scanned]

end PluginBridge.EntryPoint
