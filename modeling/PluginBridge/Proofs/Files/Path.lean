import PluginBridge.Files.Path

/-! Paths put together. A relative path inside a folder is followed after the names of
the folder, from where the folder's path starts. -/
namespace PluginBridge.Files

theorem names_append (folder entry : String) :
    names (folder ++ "/" ++ entry) = names folder ++ names entry := by
  have spelled : (folder ++ "/" ++ entry).toList = folder.toList ++ '/' :: entry.toList := by
    simp
  rw [names, Text.piecesAt, spelled, Text.cutAt_append, List.map_append, List.filter_append]
  rfl

theorem names_join (folder : String) {entry : String} (relative : isAbsolute entry = false) :
    names (join folder entry) = names folder ++ names entry := by
  unfold join
  rw [relative, Bool.false_or]
  split
  · next empty =>
    rw [String.isEmpty_iff.mp empty]
    rfl
  · split
    · next slash =>
      obtain ⟨front, spelled⟩ := List.getLast?_eq_some_iff.mp (beq_iff_eq.mp slash)
      have same : folder = String.ofList front ++ "/" := by
        rw [← String.toList_inj, spelled]
        simp
      have nothing : names "" = [] := by rfl
      have trailing := names_append (String.ofList front) ""
      rw [String.append_empty, nothing, List.append_nil] at trailing
      rw [same, names_append, trailing]
    · exact names_append folder entry

/-- Whether a path starts at the root is up to the folder it begins with. -/
theorem isAbsolute_join (folder : String) {entry : String} (relative : isAbsolute entry = false) :
    isAbsolute (join folder entry) = isAbsolute folder := by
  unfold join
  rw [relative, Bool.false_or]
  split
  · next empty =>
    rw [String.isEmpty_iff.mp empty, relative]
    rfl
  · next given =>
    have head (more : String) : isAbsolute (folder ++ more) = isAbsolute folder := by
      cases spelled : folder.toList with
      | nil => simp_all
      | cons first rest => simp [isAbsolute, spelled]
    split
    · exact head entry
    · rw [String.append_assoc]
      exact head _

end PluginBridge.Files
