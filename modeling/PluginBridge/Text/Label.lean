/-! Labels are names that a player types: command names, sub-command names,
player names and server names. Two labels are the same when they differ only in
the case of ASCII letters, so the comparison is one of folded spellings. -/
namespace PluginBridge.Text

/-- The spelling with every ASCII capital made small. -/
def fold (label : String) : List Char :=
  label.toList.map Char.toLower

/-- Whether two labels name the same thing. -/
def sameLabel (left right : String) : Bool :=
  fold left == fold right

/-- Whether a label begins as the player has typed so far. -/
def completes (typed label : String) : Bool :=
  (fold typed).isPrefixOf (fold label)

/-- Whether something with a name and aliases answers to a label. -/
def answers (name : String) (aliases : List String) (label : String) : Bool :=
  (name :: aliases).any fun known => sameLabel known label

theorem sameLabel_iff {left right : String} :
    sameLabel left right = true ↔ fold left = fold right := by
  simp [sameLabel]

@[simp] theorem sameLabel_refl (label : String) : sameLabel label label = true := by
  simp [sameLabel]

theorem sameLabel_comm (left right : String) : sameLabel left right = sameLabel right left := by
  exact BEq.comm

theorem sameLabel_trans {first second third : String} (left : sameLabel first second = true)
    (right : sameLabel second third = true) : sameLabel first third = true := by
  simp only [sameLabel_iff] at *
  exact left.trans right

end PluginBridge.Text
