import PluginBridge.Document
import PluginBridge.Proofs.Text.Unquoting

/-! JSON, read back. The reader knows texts with their escapes, the two flags, lists and records,
with gaps wherever JSON allows them, and nothing of how documents are printed. Every document
that is printed is read as itself. -/
namespace PluginBridge.Document.Json
open Text

/-! ## Reading -/

def isGap (c : Char) : Bool :=
  c == ' ' || c == '\n' || c == '\r' || c == '\t'

def skip (text : List Char) : List Char :=
  text.dropWhile isGap

/-- The escapes of JSON, apart from characters that are given in two halves. -/
def escapes : Escapes
  | ['"'] => .character '"'
  | ['\\'] => .character '\\'
  | ['/'] => .character '/'
  | ['b'] => .character (Char.ofNat 8)
  | ['f'] => .character (Char.ofNat 12)
  | ['n'] => .character '\n'
  | ['r'] => .character '\r'
  | ['t'] => .character '\t'
  | 'u' :: digits => .numbered 4 digits
  | _ => .nothing

def flag? (chars : List Char) : Option (Document × List Char) :=
  match "true".toList.isPrefixOf? chars with
  | some behind => some (.flag true, behind)
  | none => ("false".toList.isPrefixOf? chars).map (.flag false, ·)

mutual

/-- The value at the start of a text, and what stands behind it. -/
def value? : Nat → List Char → Option (Document × List Char)
  | fuel + 1, c :: rest =>
    if c = '"' then (unquote? escapes none rest).map (Prod.map (.text ∘ String.ofList) id)
    else if c = '[' then
      match skip rest with
      | ']' :: behind => some (.list [], behind)
      | inside => (items? fuel inside).map (Prod.map .list id)
    else if c = '\x7b' then
      match skip rest with
      | '\x7d' :: behind => some (.fields [], behind)
      | inside => (entries? fuel inside).map (Prod.map .fields id)
    else flag? (c :: rest)
  | _, _ => none

/-- The items of a list up to its closing bracket. -/
def items? : Nat → List Char → Option (List Document × List Char)
  | 0, _ => none
  | fuel + 1, chars => do
    let (item, rest) ← value? fuel chars
    match skip rest with
    | ',' :: more => (items? fuel (skip more)).map (Prod.map (item :: ·) id)
    | ']' :: behind => some ([item], behind)
    | _ => none

/-- The fields of a record up to its closing brace. -/
def entries? : Nat → List Char → Option (List (String × Document) × List Char)
  | 0, _ => none
  | fuel + 1, '"' :: chars => do
    let (name, rest) ← unquote? escapes none chars
    match skip rest with
    | ':' :: held =>
      let (value, rest) ← value? fuel (skip held)
      match skip rest with
      | ',' :: more =>
        (entries? fuel (skip more)).map (Prod.map ((String.ofList name, value) :: ·) id)
      | '\x7d' :: behind => some ([(String.ofList name, value)], behind)
      | _ => none
    | _ => none
  | _, _ => none

end

/-- The document in a text that holds nothing else. -/
def read? (text : String) : Option Document :=
  match value? text.toList.length (skip text.toList) with
  | some (document, behind) => if (skip behind).isEmpty then some document else none
  | none => none

/-! ## Texts -/

theorem standsFor_escapeChar (c : Char) : standsFor escapes c (escapeChar c) = true := by
  by_cases control : c.toNat < 0x20
  · have all : ∀ code < 0x20,
        standsFor escapes (Char.ofNat code) (escapeChar (Char.ofNat code)) = true := by decide
    simpa using all c.toNat control
  by_cases quote : c = '"'
  · subst quote
    decide
  by_cases slash : c = '\\'
  · subst slash
    decide
  have apart (other : Char) (low : other.toNat < 0x20) : c ≠ other := by
    rintro rfl
    exact control low
  have bell : c.toNat ≠ 8 := by omega
  have page : c.toNat ≠ 12 := by omega
  have same : escapeChar c = [c] := by
    simp [escapeChar, quote, slash, apart '\n' (by decide), apart '\r' (by decide),
      apart '\t' (by decide), bell, page, control]
  simp [same, standsFor, quote]

theorem toList_spell (text : String) (rest : List Char) :
    (spell text).toList ++ rest = '"' :: (text.toList.flatMap escapeChar ++ '"' :: rest) := by
  simp [spell]

theorem unquote?_spell (text : String) (rest : List Char) :
    unquote? escapes none (text.toList.flatMap escapeChar ++ '"' :: rest) =
      some (text.toList, rest) :=
  unquote?_flatMap (fun c _ => standsFor_escapeChar c) rest

/-! ## Documents -/

/-- The start of a text is neither a gap nor the end of a list or record. -/
def Opens (chars : List Char) : Prop :=
  ∃ first rest, chars = first :: rest ∧ isGap first = false ∧ first ≠ ']' ∧ first ≠ '\x7d'

theorem opens_spell (name : String) (rest : List Char) : Opens ((spell name).toList ++ rest) :=
  ⟨'"', _, toList_spell name rest, by decide, by decide, by decide⟩

theorem opens_render (depth : Nat) (document : Document) (rest : List Char) :
    Opens ((render depth document).toList ++ rest) := by
  unfold render
  split
  · exact opens_spell _ rest
  · next value => cases value <;> simp [Opens, isGap]
  all_goals simp [Opens, isGap]

theorem skip_cons {c : Char} (solid : isGap c = false) (rest : List Char) :
    skip (c :: rest) = c :: rest := by
  simp [skip, solid]

theorem skip_of_opens {chars : List Char} (opens : Opens chars) : skip chars = chars := by
  obtain ⟨first, rest, rfl, solid, -⟩ := opens
  exact skip_cons solid rest

/-- A line break is skipped, with the indentation behind it. -/
theorem skip_lineBreak (depth : Nat) (chars : List Char) :
    skip ((lineBreak depth).toList ++ chars) = skip chars := by
  have gaps : ∀ c ∈ (lineBreak depth).toList, isGap c = true := by
    intro c member
    simp only [lineBreak, String.toList_ofList, List.mem_cons, List.mem_replicate] at member
    rcases member with rfl | ⟨-, rfl⟩ <;> decide
  exact List.dropWhile_append_of_pos gaps

/-- What stands behind the first item of a list. -/
def behindItem (depth : Nat) (more : List Document) (rest : List Char) : List Char :=
  (renderItems (depth + 1) more).toList ++ ((lineBreak depth).toList ++ ']' :: rest)

/-- What stands behind the first field of a record. -/
def behindField (depth : Nat) (more : List (String × Document)) (rest : List Char) : List Char :=
  (renderFields (depth + 1) more).toList ++ ((lineBreak depth).toList ++ '\x7d' :: rest)

theorem toList_render_list (depth : Nat) (item : Document) (more : List Document)
    (rest : List Char) :
    (render depth (.list (item :: more))).toList ++ rest = '[' :: ((lineBreak (depth + 1)).toList ++
      ((render (depth + 1) item).toList ++ behindItem depth more rest)) := by
  simp [render, behindItem]

theorem behindItem_cons (depth : Nat) (next : Document) (others : List Document)
    (rest : List Char) :
    behindItem depth (next :: others) rest = ',' :: ((lineBreak (depth + 1)).toList ++
      ((render (depth + 1) next).toList ++ behindItem depth others rest)) := by
  simp [renderItems, behindItem]

theorem toList_render_fields (depth : Nat) (name : String) (value : Document)
    (more : List (String × Document)) (rest : List Char) :
    (render depth (.fields ((name, value) :: more))).toList ++ rest =
      '\x7b' :: ((lineBreak (depth + 1)).toList ++ ((spell name).toList ++ ':' :: ' ' ::
        ((render (depth + 1) value).toList ++ behindField depth more rest))) := by
  simp [render, behindField]

theorem behindField_cons (depth : Nat) (name : String) (value : Document)
    (others : List (String × Document)) (rest : List Char) :
    behindField depth ((name, value) :: others) rest =
      ',' :: ((lineBreak (depth + 1)).toList ++ ((spell name).toList ++ ':' :: ' ' ::
        ((render (depth + 1) value).toList ++ behindField depth others rest))) := by
  simp [renderFields, behindField]

theorem length_behindItem (depth : Nat) (more : List Document) :
    0 < (behindItem depth more []).length := by
  simp only [behindItem, List.length_append, List.length_singleton]
  omega

theorem length_behindField (depth : Nat) (more : List (String × Document)) :
    0 < (behindField depth more []).length := by
  simp only [behindField, List.length_append, List.length_singleton]
  omega

/-- Documents are read from where they stand, with fuel for all their characters. -/
def ReadsValues (fuel : Nat) : Prop :=
  ∀ (depth : Nat) (document : Document) (rest : List Char),
    (render depth document).toList.length ≤ fuel →
      value? fuel ((render depth document).toList ++ rest) = some (document, rest)

/-- So are the items of a list up to its end. -/
def ReadsItems (fuel : Nat) : Prop :=
  ∀ (depth : Nat) (item : Document) (more : List Document) (rest : List Char),
    (render (depth + 1) item).toList.length + (behindItem depth more []).length ≤ fuel →
      items? fuel ((render (depth + 1) item).toList ++ behindItem depth more rest) =
        some (item :: more, rest)

/-- So are the fields of a record. -/
def ReadsFields (fuel : Nat) : Prop :=
  ∀ (depth : Nat) (name : String) (value : Document) (more : List (String × Document))
    (rest : List Char),
    (render (depth + 1) value).toList.length + (behindField depth more []).length ≤ fuel →
      entries? fuel ((spell name).toList ++ ':' :: ' ' ::
        ((render (depth + 1) value).toList ++ behindField depth more rest)) =
          some ((name, value) :: more, rest)

section
variable {fuel : Nat}

theorem ReadsItems.succ (values : ReadsValues fuel) (items : ReadsItems fuel) :
    ReadsItems (fuel + 1) := by
  intro depth item more rest enough
  have short : (render (depth + 1) item).toList.length ≤ fuel := by
    have ends := length_behindItem depth more
    omega
  rw [items?, values _ _ _ short]
  cases more with
  | nil =>
    have ends : behindItem depth [] rest = (lineBreak depth).toList ++ ']' :: rest := by
      simp [behindItem, renderItems]
    simp [ends, skip_lineBreak, skip_cons, isGap]
  | cons next others =>
    rw [behindItem_cons] at enough
    simp only [List.length_cons, List.length_append] at enough
    have listed := items depth next others rest (by omega)
    have opens := opens_render (depth + 1) next (behindItem depth others rest)
    simp [behindItem_cons, skip_lineBreak, skip_of_opens opens, listed, skip_cons, isGap]

theorem ReadsFields.succ (values : ReadsValues fuel) (fields : ReadsFields fuel) :
    ReadsFields (fuel + 1) := by
  intro depth name value more rest enough
  have short : (render (depth + 1) value).toList.length ≤ fuel := by
    have ends := length_behindField depth more
    omega
  have opens := opens_render (depth + 1) value (behindField depth more rest)
  have gap (chars : List Char) : skip (' ' :: chars) = skip chars := by simp [skip, isGap]
  rw [toList_spell, entries?, unquote?_spell]
  simp only [Option.bind_eq_bind, Option.bind_some, skip_cons (show isGap ':' = false by decide),
    gap, skip_of_opens opens, values _ _ _ short, String.ofList_toList]
  cases more with
  | nil =>
    have ends : behindField depth [] rest = (lineBreak depth).toList ++ '\x7d' :: rest := by
      simp [behindField, renderFields]
    simp [ends, skip_lineBreak, skip_cons, isGap]
  | cons next others =>
    obtain ⟨key, held⟩ := next
    rw [behindField_cons] at enough
    simp only [List.length_cons, List.length_append] at enough
    have listed := fields depth key held others rest (by omega)
    have opens := opens_spell key (':' :: ' ' ::
      ((render (depth + 1) held).toList ++ behindField depth others rest))
    simp [behindField_cons, skip_lineBreak, skip_of_opens opens, listed, skip_cons, isGap]

theorem ReadsValues.succ (items : ReadsItems fuel) (fields : ReadsFields fuel) :
    ReadsValues (fuel + 1) := by
  intro depth document rest enough
  cases document with
  | text value =>
    rw [render, toList_spell, value?, if_pos rfl, unquote?_spell]
    simp
  | flag value => cases value <;> simp [render, value?, flag?, List.isPrefixOf?]
  | list held =>
    cases held with
    | nil => simp [render, value?, skip, isGap]
    | cons item more =>
      have size := congrArg List.length (toList_render_list depth item more [])
      simp only [List.length_cons, List.length_append, List.append_nil] at size
      have listed := items depth item more rest (by omega)
      have opens := opens_render (depth + 1) item (behindItem depth more rest)
      rw [toList_render_list, value?, skip_lineBreak, skip_of_opens opens]
      obtain ⟨first, others, same, -, apart, -⟩ := opens
      rw [same] at listed ⊢
      simp [apart, listed]
  | fields held =>
    cases held with
    | nil => simp [render, value?, skip, isGap]
    | cons entry more =>
      obtain ⟨name, value⟩ := entry
      have size := congrArg List.length (toList_render_fields depth name value more [])
      simp only [List.length_cons, List.length_append, List.append_nil] at size
      have listed := fields depth name value more rest (by omega)
      have opens := opens_spell name (':' :: ' ' ::
        ((render (depth + 1) value).toList ++ behindField depth more rest))
      rw [toList_render_fields, value?, skip_lineBreak, skip_of_opens opens]
      obtain ⟨first, others, same, -, -, apart⟩ := opens
      rw [same] at listed ⊢
      simp [apart, listed]

end

theorem reads (fuel : Nat) : ReadsValues fuel ∧ ReadsItems fuel ∧ ReadsFields fuel := by
  induction fuel with
  | zero =>
    refine ⟨fun depth document rest enough => ?_, fun depth item more rest enough => ?_,
      fun depth name value more rest enough => ?_⟩
    · obtain ⟨c, chars, opens, -⟩ := opens_render depth document []
      rw [List.append_nil] at opens
      simp [opens] at enough
    · have ends := length_behindItem depth more
      omega
    · have ends := length_behindField depth more
      omega
  | succ fuel ih =>
    obtain ⟨values, items, fields⟩ := ih
    exact ⟨.succ items fields, .succ values items, .succ values fields⟩

/-- Every document is read back from its file. -/
theorem read?_file (document : Document) : read? (file document) = some document := by
  have opens := opens_render 0 document ['\n']
  have spelt : (file document).toList = (render 0 document).toList ++ ['\n'] := by simp [file]
  have value := (reads (file document).toList.length).1 0 document ['\n'] (by simp [spelt])
  rw [← spelt] at opens value
  rw [read?, skip_of_opens opens, value]
  simp [skip, isGap]

end PluginBridge.Document.Json
