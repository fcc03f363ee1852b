import Mathlib.Logic.Function.Basic
import PluginBridge.Files.Tree

/-! What files hold. The contents of a tree are a function of its places, and each change
of the tree is a change of this function at a single place, or none at all: folders and
temporary files hold nothing that a place would show. -/
namespace PluginBridge.Files

/-- Where names lead, if everything along them is there: two points lead back. -/
def Place.along (place : Place) : List String → Place
  | [] => place
  | name :: rest => if name = ".." then Place.along place.dropLast rest else
      Place.along (place ++ [name]) rest

theorem Place.along_append (place : Place) (first second : List String) :
    place.along (first ++ second) = (place.along first).along second := by
  fun_induction Place.along place first with
  | case1 => rfl
  | case2 place rest ih => simpa [Place.along] using ih
  | case3 place name rest plain ih => simpa [Place.along, plain] using ih

theorem Place.along_plain (place : Place) {names : List String} (plain : ".." ∉ names) :
    place.along names = place ++ names := by
  induction names generalizing place with
  | nil => simp [Place.along]
  | cons name rest ih =>
    obtain ⟨first, others⟩ := not_or.mp (mt List.mem_cons.mpr plain)
    rw [Place.along, if_neg (Ne.symm first), ih _ others, List.append_assoc, List.singleton_append]

/-- The folders that names lead through, from a place. -/
def Place.through (place : Place) : List String → List Place
  | [] => []
  | name :: rest =>
    if name = ".." then Place.through place.dropLast rest
    else (place ++ [name]) :: Place.through (place ++ [name]) rest

namespace Tree

theorem lookup_cons_eq_ite (place : Place) (entry : Entry) (entries : List (Place × Entry))
    (other : Place) : ((place, entry) :: entries).lookup other =
      if other = place then some entry else entries.lookup other := by
  by_cases same : other = place
  · simp [same]
  · have differs : (other == place) = false := beq_eq_false_iff_ne.mpr same
    simp [List.lookup_cons, differs, same]

theorem lookup_putEntry (place : Place) (entry : Entry) (entries : List (Place × Entry))
    (other : Place) : (putEntry place entry entries).lookup other =
      if other = place then some entry else entries.lookup other := by
  induction entries with
  | nil => exact lookup_cons_eq_ite place entry [] other
  | cons first rest ih =>
    obtain ⟨key, old⟩ := first
    rw [putEntry]
    split
    · next same =>
      rw [lookup_cons_eq_ite, lookup_cons_eq_ite, same]
      split <;> rfl
    · next different =>
      rw [lookup_cons_eq_ite, lookup_cons_eq_ite, ih]
      by_cases hit : other = key
      · rw [if_pos hit, if_pos hit, if_neg (hit ▸ different)]
      · rw [if_neg hit, if_neg hit]

theorem lookup_erased (place : Place) (entries : List (Place × Entry)) (other : Place) :
    (entries.filter fun (key, _) => key ≠ place).lookup other =
      if other = place then none else entries.lookup other := by
  induction entries with
  | nil => simp
  | cons first rest ih =>
    obtain ⟨key, old⟩ := first
    rw [List.filter_cons, lookup_cons_eq_ite]
    by_cases gone : key = place
    · rw [if_neg (by simpa using gone), ih]
      by_cases hit : other = place
      · rw [if_pos hit, if_pos hit]
      · rw [if_neg hit, if_neg hit, if_neg (gone ▸ hit)]
    · rw [if_pos (by simpa using gone), lookup_cons_eq_ite, ih]
      by_cases hit : other = key
      · rw [if_pos hit, if_pos hit, if_neg (hit ▸ gone)]
      · rw [if_neg hit, if_neg hit]

theorem find?_put {place : Place} (inside : place ≠ []) (tree : Tree) (entry : Entry)
    (other : Place) : (tree.put place entry).find? other =
      if other = place then some entry else tree.find? other := by
  by_cases root : other = []
  · simp [find?, root, Ne.symm inside]
  · simp [find?, put, root, lookup_putEntry]

/-- A file that is put at a place is what the place holds from then on. -/
theorem contents?_put_file {place : Place} (inside : place ≠ []) (tree : Tree)
    (bytes : ByteArray) : (tree.put place (.file bytes)).contents? =
      Function.update tree.contents? place (some bytes) := by
  funext other
  by_cases same : other = place <;> simp [contents?, find?_put inside, same]

/-- A new folder holds nothing. -/
theorem contents?_put_folder {place : Place} (inside : place ≠ []) {tree : Tree}
    (missing : tree.find? place = none) : (tree.put place .folder).contents? = tree.contents? := by
  funext other
  by_cases same : other = place <;> simp [contents?, find?_put inside, same, missing]

theorem find?_erase {place : Place} (inside : place ≠ []) (tree : Tree) (other : Place) :
    (tree.erase place).find? other = if other = place then none else tree.find? other := by
  by_cases root : other = []
  · simp [find?, root, Ne.symm inside]
  · simp only [find?, erase, root, lookup_erased, if_false]

theorem contents?_erase {place : Place} (inside : place ≠ []) (tree : Tree) :
    (tree.erase place).contents? = Function.update tree.contents? place none := by
  funext other
  rw [contents?, find?_erase inside]
  by_cases same : other = place
  · simp [same]
  · simp [same, contents?]

/-- Making folders leaves alone what files hold, and leads where the names lead. -/
theorem makeAlong_keeps (tree : Tree) (place : Place) (names : List String) :
    (tree.makeAlong place names).1.contents? = tree.contents? ∧
      (tree.makeAlong place names).1.temporaries = tree.temporaries ∧
      (tree.makeAlong place names).1.next = tree.next ∧
      ∀ arrived ∈ (tree.makeAlong place names).2, arrived = place.along names := by
  fun_induction makeAlong tree place names with
  | case1 => simp [Place.along]
  | case2 tree place rest ih => simpa [Place.along] using ih
  | case3 tree place name rest plain there ih => simpa [Place.along, plain] using ih
  | case4 => simp
  | case5 tree place name rest plain missing allowed ih =>
    obtain ⟨held, waiting, number, arrives⟩ := ih
    refine ⟨held.trans (contents?_put_folder (by simp) missing), waiting, number, ?_⟩
    simpa [Place.along, plain] using arrives
  | case6 => simp

/-! ## Folders -/

theorem isFolder_iff {tree : Tree} {place : Place} :
    tree.isFolder place = true ↔ tree.find? place = some .folder := by
  unfold isFolder
  split <;> simp_all

/-- Something keeps a folder from being made at a place: a file is there, or the name is not
allowed, unless the folder is there all the same. -/
def Bars (tree : Tree) (place : Place) : Prop :=
  (∃ bytes, tree.find? place = some (.file bytes)) ∨
    tree.find? place = none ∧ ∃ name ∈ place.getLast?, allowsName name = false

theorem not_bars_of_isFolder {tree : Tree} {place : Place} (there : tree.isFolder place = true) :
    ¬ tree.Bars place := by
  have found := isFolder_iff.mp there
  rintro (⟨bytes, file⟩ | ⟨missing, -⟩) <;> simp_all

/-- A tree with more folders, among them none that something keeps from being made. -/
structure Grown (tree after : Tree) : Prop where
  folders : ∀ place, tree.isFolder place = true → after.isFolder place = true
  bars : ∀ place, after.Bars place ↔ tree.Bars place

theorem Grown.refl (tree : Tree) : tree.Grown tree :=
  ⟨fun _ there => there, fun _ => Iff.rfl⟩

theorem Grown.trans {tree middle after : Tree} (first : tree.Grown middle)
    (second : middle.Grown after) : tree.Grown after :=
  ⟨fun place there => second.folders place (first.folders place there),
    fun place => (second.bars place).trans (first.bars place)⟩

theorem find?_of_entries {tree after : Tree} (same : after.entries = tree.entries) :
    after.find? = tree.find? := by
  funext place
  rw [find?, find?, same]

theorem isFolder_of_entries {tree after : Tree} (same : after.entries = tree.entries) :
    after.isFolder = tree.isFolder := by
  funext place
  rw [isFolder, isFolder, find?_of_entries same]

theorem Grown.of_entries {tree after : Tree} (same : after.entries = tree.entries) :
    tree.Grown after :=
  ⟨fun place there => by rwa [isFolder_of_entries same],
    fun place => by rw [Bars, Bars, find?_of_entries same]⟩

theorem isFolder_put_folder (tree : Tree) (place : Place) (name : String) (other : Place) :
    (tree.put (place ++ [name]) .folder).isFolder other = true ↔
      other = place ++ [name] ∨ tree.isFolder other = true := by
  rw [isFolder_iff, find?_put (by simp), isFolder_iff]
  by_cases same : other = place ++ [name] <;> simp [same]

theorem grown_put_folder {tree : Tree} {place : Place} {name : String}
    (missing : tree.find? (place ++ [name]) = none) (allowed : allowsName name = true) :
    tree.Grown (tree.put (place ++ [name]) .folder) := by
  refine ⟨fun other there => (isFolder_put_folder ..).mpr (.inr there), fun other => ?_⟩
  unfold Bars
  rw [find?_put (by simp)]
  by_cases same : other = place ++ [name] <;> simp [same, missing, allowed]

/-- Where a folder cannot be made, those before it stay. -/
theorem grown_makeAlong (tree : Tree) (place : Place) (names : List String) :
    tree.Grown (tree.makeAlong place names).1 := by
  fun_induction makeAlong tree place names with
  | case1 => exact .refl _
  | case2 tree place rest ih => exact ih
  | case3 tree place name rest plain there ih => exact ih
  | case4 => exact .refl _
  | case5 tree place name rest plain missing allowed ih =>
    exact (grown_put_folder missing allowed).trans ih
  | case6 => exact .refl _

/-- Folders can be made along names unless something bars one of them. -/
theorem makeAlong_eq_none_iff (tree : Tree) (place : Place) (names : List String) :
    (tree.makeAlong place names).2 = none ↔ ∃ folder ∈ place.through names, tree.Bars folder := by
  fun_induction makeAlong tree place names with
  | case1 => simp [Place.through]
  | case2 tree place rest ih => simpa [Place.through] using ih
  | case3 tree place name rest plain there ih =>
    have free := not_bars_of_isFolder (isFolder_iff.mpr there)
    simp [ih, Place.through, plain, free]
  | case4 tree place name rest plain bytes there =>
    have bars : tree.Bars (place ++ [name]) := .inl ⟨bytes, there⟩
    simp [Place.through, plain, bars]
  | case5 tree place name rest plain missing allowed ih =>
    have free : ¬ tree.Bars (place ++ [name]) := by simp [Bars, missing, allowed]
    simp [ih, Place.through, plain, free, (grown_put_folder missing allowed).bars]
  | case6 tree place name rest plain missing refused =>
    have bars : tree.Bars (place ++ [name]) :=
      .inr ⟨missing, name, by simp, by simpa using refused⟩
    simp [Place.through, plain, bars]

/-- Once folders have been made along names, these are there and no others are new. -/
theorem isFolder_makeAlong {tree : Tree} {place : Place} {names : List String}
    (made : (tree.makeAlong place names).2 ≠ none) (other : Place) :
    (tree.makeAlong place names).1.isFolder other = true ↔
      tree.isFolder other = true ∨ other ∈ place.through names := by
  fun_induction makeAlong tree place names with
  | case1 => simp [Place.through]
  | case2 tree place rest ih => simpa [Place.through] using ih made
  | case3 tree place name rest plain there ih =>
    have folder := isFolder_iff.mpr there
    rw [ih made, Place.through, if_neg plain, List.mem_cons]
    grind
  | case4 => exact absurd rfl made
  | case5 tree place name rest plain missing allowed ih =>
    rw [ih made, isFolder_put_folder, Place.through, if_neg plain, List.mem_cons]
    grind
  | case6 => exact absurd rfl made

/-- A file at a place where no folder is takes nothing from the folders. -/
theorem isFolder_put_file {tree : Tree} {place : Place} (inside : place ≠ [])
    (free : tree.isFolder place = false) (bytes : ByteArray) :
    (tree.put place (.file bytes)).isFolder = tree.isFolder := by
  funext other
  by_cases same : other = place
  · rw [same, free, isFolder, find?_put inside, if_pos rfl]
  · rw [isFolder, find?_put inside, if_neg same, isFolder]

theorem isFolder_erase {tree : Tree} {place : Place} (inside : place ≠ [])
    (free : tree.isFolder place = false) : (tree.erase place).isFolder = tree.isFolder := by
  funext other
  by_cases same : other = place
  · rw [same, free, isFolder, find?_erase inside, if_pos rfl]
  · rw [isFolder, find?_erase inside, if_neg same, isFolder]

end Tree
end PluginBridge.Files
