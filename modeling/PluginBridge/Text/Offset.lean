/-! Places in a text, counted in the bytes of its UTF-8 form. A place inside a
character cuts nothing off: there is no text before or after it. -/
namespace PluginBridge.Text

/-- The text after its first bytes. -/
def dropBytes? : Nat → List Char → Option (List Char)
  | 0, text => some text
  | _ + 1, [] => none
  | count + 1, c :: rest =>
    if c.utf8Size ≤ count + 1 then dropBytes? (count + 1 - c.utf8Size) rest else none

/-- The first bytes of a text. -/
def takeBytes? : Nat → List Char → Option (List Char)
  | 0, _ => some []
  | _ + 1, [] => none
  | count + 1, c :: rest =>
    if c.utf8Size ≤ count + 1 then (takeBytes? (count + 1 - c.utf8Size) rest).map (c :: ·)
    else none

/-- The text from one place up to another. -/
def slice? (first last : Nat) (text : List Char) : Option (List Char) :=
  (dropBytes? first text).bind (takeBytes? (last - first))

/-- The characters of a text with the places where they begin. -/
def places : Nat → List Char → List (Nat × Char)
  | _, [] => []
  | place, c :: rest => (place, c) :: places (place + c.utf8Size) rest

/-- Nothing is lost where a text is cut. -/
theorem takeBytes?_append_dropBytes? {count : Nat} {text first rest : List Char}
    (taken : takeBytes? count text = some first) (dropped : dropBytes? count text = some rest) :
    first ++ rest = text := by
  fun_induction takeBytes? count text generalizing first rest with
  | case1 => simp_all [dropBytes?]
  | case2 => simp at taken
  | case3 count c text fits ih =>
    obtain ⟨front, front_taken, rfl⟩ := Option.map_eq_some_iff.1 taken
    simp only [dropBytes?, fits, if_true] at dropped
    simp [ih front_taken dropped]
  | case4 => simp at taken

end PluginBridge.Text
