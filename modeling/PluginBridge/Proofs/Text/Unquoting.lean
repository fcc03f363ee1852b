import Mathlib.Data.List.Basic
import PluginBridge.Text.Digit
import PluginBridge.Text.Quoted

/-! Quoted text, read back. A reader goes from the opening quote to the closing one and asks the
escapes of its format what the letters behind a backslash stand for. What it finds is the text
that was quoted, if each character was given a form that stands for it. -/
namespace PluginBridge.Text

section
variable {continues : Char → Bool} {front rest : List Char}

/-- What goes on with characters of one class is taken up to where the class ends. -/
theorem takeWhile_of_ends (inside : ∀ c ∈ front, continues c = true)
    (ends : ∀ c, rest.head? = some c → continues c = false) :
    (front ++ rest).takeWhile continues = front := by
  rw [List.takeWhile_append_of_pos inside]
  cases rest with
  | nil => simp
  | cons next more => simp [ends next rfl]

theorem dropWhile_of_ends (inside : ∀ c ∈ front, continues c = true)
    (ends : ∀ c, rest.head? = some c → continues c = false) :
    (front ++ rest).dropWhile continues = rest := by
  rw [List.dropWhile_append_of_pos inside]
  cases rest with
  | nil => rfl
  | cons next more => simp [ends next rfl]

end

/-- What letters behind a backslash come to. -/
inductive Escaped where
  /-- No escape begins so. -/
  | nothing
  /-- An escape goes on. -/
  | begun
  | character (c : Char)
deriving DecidableEq

/-- The escapes of a format. -/
abbrev Escapes := List Char → Escaped

namespace Escaped

/-- The character with this number in base sixteen. -/
def ofDigits (digits : List Char) : Escaped :=
  if !digits.isEmpty && digits.all (isDigitIn 16) && CodePoint.isScalar (numberIn 16 digits) then
    .character (Char.ofNat (numberIn 16 digits))
  else .nothing

/-- The character with a number of so many digits. -/
def numbered (width : Nat) (digits : List Char) : Escaped :=
  if digits.length < width then .begun else ofDigits digits

end Escaped

/-- The text up to the closing quote, and what stands behind that. The letters of an escape that
has begun are known. -/
def unquote? (escapes : Escapes) : Option (List Char) → List Char → Option (List Char × List Char)
  | _, [] => none
  | none, c :: rest =>
    if c = '"' then some ([], rest)
    else if c = '\\' then unquote? escapes (some []) rest
    else (unquote? escapes none rest).map (Prod.map (c :: ·) id)
  | some letters, c :: rest =>
    match escapes (letters ++ [c]) with
    | .nothing => none
    | .begun => unquote? escapes (some (letters ++ [c])) rest
    | .character read => (unquote? escapes none rest).map (Prod.map (read :: ·) id)

/-- Letters that go on with an escape come to a character with the last of them. -/
def comesTo (escapes : Escapes) (c : Char) (before : List Char) : List Char → Bool
  | [] => false
  | next :: rest =>
    match escapes (before ++ [next]) with
    | .nothing => false
    | .begun => comesTo escapes c (before ++ [next]) rest
    | .character read => read = c && rest.isEmpty

/-- Whether a form stands for a character between quotes. -/
def standsFor (escapes : Escapes) (c : Char) : List Char → Bool
  | '\\' :: letters => comesTo escapes c [] letters
  | [plain] => plain = c && plain != '"'
  | _ => false

section
variable {escapes : Escapes} {c : Char}

theorem unquote?_of_comesTo {before letters : List Char}
    (comes : comesTo escapes c before letters = true) (rest : List Char) :
    unquote? escapes (some before) (letters ++ rest) =
      (unquote? escapes none rest).map (Prod.map (c :: ·) id) := by
  induction letters generalizing before with
  | nil => cases comes
  | cons next others ih =>
    rw [comesTo] at comes
    rw [List.cons_append, unquote?]
    cases found : escapes (before ++ [next]) with
    | nothing => simp [found] at comes
    | begun =>
      rw [found] at comes
      exact ih comes
    | character read =>
      simp only [found, Bool.and_eq_true, decide_eq_true_eq, List.isEmpty_iff] at comes
      obtain ⟨rfl, rfl⟩ := comes
      rfl

/-- A form that stands for a character is read as this character. -/
theorem unquote?_of_standsFor {form : List Char} (stands : standsFor escapes c form = true)
    (rest : List Char) :
    unquote? escapes none (form ++ rest) =
      (unquote? escapes none rest).map (Prod.map (c :: ·) id) := by
  unfold standsFor at stands
  split at stands
  · next letters =>
    rw [List.cons_append, unquote?, if_neg (by decide), if_pos rfl]
    exact unquote?_of_comesTo stands rest
  · next plain escaped =>
    simp only [Bool.and_eq_true, decide_eq_true_eq, bne_iff_ne] at stands
    obtain ⟨rfl, inside⟩ := stands
    rw [List.singleton_append, unquote?, if_neg inside, if_neg escaped]
  · cases stands

/-- A quoted text is read back, and what stands behind it is left. -/
theorem unquote?_flatMap {form : Char → List Char} {text : List Char}
    (stands : ∀ c ∈ text, standsFor escapes c (form c) = true) (rest : List Char) :
    unquote? escapes none (text.flatMap form ++ '"' :: rest) = some (text, rest) := by
  induction text with
  | nil => simp [unquote?]
  | cons first others ih =>
    obtain ⟨head, tail⟩ := List.forall_mem_cons.mp stands
    rw [List.flatMap_cons, List.append_assoc, unquote?_of_standsFor head, ih tail]
    rfl

end

/-! ## Numbers -/

theorem hexValue?_digitChar {digit : Nat} (small : digit < 16) :
    hexValue? (Nat.digitChar digit) = some digit := by
  have all : ∀ digit < 16, hexValue? (Nat.digitChar digit) = some digit := by decide
  exact all digit small

theorem numberIn_concat (base : Nat) (digits : List Char) (c : Char) :
    numberIn base (digits ++ [c]) = numberIn base digits * base + (hexValue? c).getD 0 := by
  rw [numberIn, List.foldl_append]
  rfl

/-- The digits of a number in base sixteen spell it. -/
theorem numberIn_hexDigits (number : Nat) : numberIn 16 (hexDigits number) = number := by
  induction number using Nat.strongRecOn with
  | ind number ih =>
    unfold hexDigits at ih ⊢
    by_cases small : number < 16
    · rw [Nat.toDigits_of_lt_base small]
      simp [numberIn, hexValue?_digitChar small]
    · have low : number % 16 < 16 := Nat.mod_lt _ (by omega)
      rw [Nat.toDigits_of_base_le (by omega) (by omega), numberIn_concat, ih _ (by omega),
        hexValue?_digitChar low, Option.getD_some]
      omega

theorem isDigitIn_of_mem_hexDigits {number : Nat} {c : Char} (member : c ∈ hexDigits number) :
    isDigitIn 16 c = true := by
  induction number using Nat.strongRecOn with
  | ind number ih =>
    unfold hexDigits at ih member
    have last {digit : Nat} (small : digit < 16) : isDigitIn 16 (Nat.digitChar digit) = true := by
      simp [isDigitIn, hexValue?_digitChar small, small]
    by_cases small : number < 16
    · rw [Nat.toDigits_of_lt_base small, List.mem_singleton] at member
      exact member ▸ last small
    · rw [Nat.toDigits_of_base_le (by omega) (by omega)] at member
      rcases List.mem_append.mp member with front | back
      · exact ih _ (by omega) front
      · rw [List.mem_singleton.mp back]
        exact last (Nat.mod_lt _ (by omega))

theorem isScalar_toNat (c : Char) : CodePoint.isScalar c.toNat = true := by
  have valid := c.valid
  simp only [UInt32.isValidChar, Nat.isValidChar] at valid
  simp only [CodePoint.isScalar, Bool.or_eq_true, Bool.and_eq_true, decide_eq_true_eq]
  exact valid.imp_right fun high => ⟨by have := high.1; exact this, high.2⟩

/-- The number of a character is read as the character. -/
theorem ofDigits_hexDigits (c : Char) : Escaped.ofDigits (hexDigits c.toNat) = .character c := by
  have given : (hexDigits c.toNat).isEmpty = false := by
    simp [hexDigits, Nat.toDigits_ne_nil]
  have digits : (hexDigits c.toNat).all (isDigitIn 16) = true :=
    List.all_eq_true.mpr fun _ member => isDigitIn_of_mem_hexDigits member
  simp [Escaped.ofDigits, given, digits, numberIn_hexDigits, isScalar_toNat]

end PluginBridge.Text
