/-! Texts cut at a single character. Cutting yields at least one piece, and the
pieces joined by the character give the text back. -/
namespace PluginBridge.Text

/-- Puts a character in front of the first piece. -/
def extendFirst (c : Char) : List (List Char) → List (List Char)
  | [] => [[c]]
  | first :: rest => (c :: first) :: rest

/-- The pieces between the occurrences of the cutting character. -/
def cutAt (separator : Char) : List Char → List (List Char)
  | [] => [[]]
  | c :: rest =>
    if c = separator then [] :: cutAt separator rest else extendFirst c (cutAt separator rest)

/-- The pieces of a text as texts. -/
def piecesAt (separator : Char) (text : String) : List String :=
  (cutAt separator text.toList).map String.ofList

theorem extendFirst_ne_nil (c : Char) (pieces : List (List Char)) :
    extendFirst c pieces ≠ [] := by
  cases pieces <;> simp [extendFirst]

theorem cutAt_ne_nil (separator : Char) (text : List Char) : cutAt separator text ≠ [] := by
  cases text with
  | nil => simp [cutAt]
  | cons c rest =>
    rw [cutAt]
    split
    · exact List.cons_ne_nil _ _
    · exact extendFirst_ne_nil c _

/-- A character put in front of the first piece stands in front of the joined text. -/
theorem intercalate_extendFirst (separator : List Char) (c : Char) {pieces : List (List Char)}
    (nonempty : pieces ≠ []) :
    separator.intercalate (extendFirst c pieces) = c :: separator.intercalate pieces := by
  obtain ⟨first, rest, rfl⟩ := List.exists_cons_of_ne_nil nonempty
  cases rest with
  | nil => simp [extendFirst, List.intercalate]
  | cons second others => simp [extendFirst, List.intercalate, List.intersperse]

/-- An empty first piece stands for the separator behind it. -/
theorem intercalate_nil_cons (separator : List Char) {pieces : List (List Char)}
    (nonempty : pieces ≠ []) :
    separator.intercalate ([] :: pieces) = separator ++ separator.intercalate pieces := by
  obtain ⟨first, rest, rfl⟩ := List.exists_cons_of_ne_nil nonempty
  simp [List.intercalate, List.intersperse]

/-- A text with the cutting character in it has the pieces before that one, then those
behind it. -/
theorem cutAt_append (separator : Char) (front back : List Char) :
    cutAt separator (front ++ separator :: back) =
      cutAt separator front ++ cutAt separator back := by
  induction front with
  | nil => simp [cutAt]
  | cons c rest ih =>
    rw [List.cons_append, cutAt, cutAt, ih]
    split
    · rfl
    · obtain ⟨first, others, pieces⟩ := List.exists_cons_of_ne_nil (cutAt_ne_nil separator rest)
      simp [pieces, extendFirst]

/-- Joining the pieces with the cutting character restores the text. -/
theorem intercalate_cutAt (separator : Char) (text : List Char) :
    [separator].intercalate (cutAt separator text) = text := by
  induction text with
  | nil => rfl
  | cons c rest ih =>
    have nonempty := cutAt_ne_nil separator rest
    by_cases same : c = separator
    · rw [cutAt, if_pos same, intercalate_nil_cons _ nonempty, ih, same, List.singleton_append]
    · rw [cutAt, if_neg same, intercalate_extendFirst _ c nonempty, ih]

end PluginBridge.Text
