import Mathlib.Data.Bool.AllAny
import PluginBridge.Proofs.Manifest.Validity
import PluginBridge.Proofs.Settings.Layering

/-! Settings of plugins in environment variables. The name of a variable is cut at double
underscores from the left, so the id of a plugin comes out of it as it went in if it has no
double underscore and does not end in one half of it. Then the variable reaches the plugin's
section; otherwise it leads elsewhere and the section is what the file gives. -/
namespace PluginBridge.Settings
open Text
open Manifest (isIdCharacter)
open Manifest.Metadata (idFault)

namespace Environment

/-- A text in ASCII capitals. -/
def capitals (text : String) : String := String.ofList (text.toList.map Char.toUpper)

/-- The variable that stands for a setting of a plugin. -/
def variableFor (id key : String) : String :=
  "CHAMELEON_PLUGINS__" ++ capitals id ++ "__" ++ capitals key

/-- Whether a variable of some name is read at all. -/
def takesPart (stem name : String) : Bool :=
  (dropStem? stem (String.ofList (trim name.toList))).isSome

/-! ## Variables that are not read -/

theorem layerOf_filter (stem : String) (environment : List (String × String)) (below : Table) :
    layerOf stem (environment.filter (takesPart stem ·.1)) below =
      layerOf stem environment below := by
  induction environment generalizing below with
  | nil => rfl
  | cons entry rest ih =>
    obtain ⟨name, text⟩ := entry
    cases part : dropStem? stem (String.ofList (trim name.toList)) with
    | none =>
      have skipped : key? stem name = none := by rw [key?, part]
      rw [List.filter_cons_of_neg (by simp [takesPart, part]), layerOf, skipped, ih]
    | some following =>
      rw [List.filter_cons_of_pos (by simp [takesPart, part]), layerOf, layerOf]
      cases key? stem name with
      | none => exact ih below
      | some key => exact ih _

/-- If one variable alone is read, it makes up the layer. -/
theorem layer_of_alone {stem : String} {environment : List (String × String)}
    {entry : String × String} (alone : environment.filter (takesPart stem ·.1) = [entry]) :
    layer stem environment = layerOf stem [entry] [] := by
  unfold layer
  generalize sorted : environment.mergeSort (fun x y => _) = order
  have perm : order.Perm environment := sorted ▸ List.mergeSort_perm ..
  have only : (order.filter (takesPart stem ·.1)).Perm [entry] := alone ▸ perm.filter _
  rw [← layerOf_filter, List.perm_singleton.mp only]

/-! ## Double underscores -/

/-- Two underscores stand next to each other. -/
def Paired (text : List Char) : Prop := ['_', '_'] <:+: text

instance (text : List Char) : Decidable (Paired text) :=
  inferInstanceAs (Decidable (['_', '_'] <:+: text))

theorem paired_cons {c : Char} {text : List Char} :
    Paired (c :: text) ↔ (c = '_' ∧ text.head? = some '_') ∨ Paired text := by
  unfold Paired
  rw [List.infix_cons_iff]
  refine or_congr_left ?_
  cases text with
  | nil => simp
  | cons next rest => simp [List.cons_prefix_cons, eq_comm]

theorem separate_cons {c : Char} {text : List Char}
    (apart : ¬ (c = '_' ∧ text.head? = some '_')) : separate (c :: text) = c :: separate text :=
  separate.eq_2 c text fun _ first second => apart ⟨first, second ▸ rfl⟩

/-- What a text begins with is the same before a pair of underscores and before one. -/
theorem head?_append_pair (front rest : List Char) :
    (front ++ '_' :: '_' :: rest).head? = (front ++ ['_']).head? := by
  cases front <;> rfl

/-- A text without a pair of underscores, not even with one more behind it, is kept up to the
pair that follows it. -/
theorem separate_append {front : List Char} (single : ¬ Paired (front ++ ['_']))
    (rest : List Char) :
    separate (front ++ '_' :: '_' :: rest) = front ++ '.' :: separate rest := by
  induction front with
  | nil => rfl
  | cons c front ih =>
    rw [List.cons_append, paired_cons, not_or] at single
    obtain ⟨apart, later⟩ := single
    rw [← head?_append_pair front rest] at apart
    rw [List.cons_append, separate_cons apart, ih later, List.cons_append]

theorem separate_plain {text : List Char} (plain : '_' ∉ text) : separate text = text := by
  induction text with
  | nil => rfl
  | cons c rest ih =>
    obtain ⟨other, others⟩ := not_or.mp (mt List.mem_cons.mpr plain)
    rw [separate_cons fun same => other same.1.symm, ih others]

/-- A text with a pair of underscores has a first one. -/
theorem Paired.first {text : List Char} (paired : Paired text) :
    ∃ front rest, text = front ++ '_' :: '_' :: rest ∧ ¬ Paired (front ++ ['_']) := by
  induction text with
  | nil => exact absurd paired (by decide)
  | cons c text ih =>
    by_cases here : c = '_' ∧ text.head? = some '_'
    · obtain ⟨rfl, next⟩ := here
      obtain ⟨rest, rfl⟩ := List.head?_eq_some_iff.mp next
      exact ⟨[], rest, rfl, by decide⟩
    · obtain ⟨front, rest, rfl, single⟩ := ih ((paired_cons.mp paired).resolve_left here)
      refine ⟨c :: front, rest, rfl, ?_⟩
      rw [head?_append_pair] at here
      rw [List.cons_append, paired_cons, not_or]
      exact ⟨here, single⟩

/-! ## Letter case -/

/-- The characters of dotted keys that are made of ids. -/
def isDotted (c : Char) : Bool := isIdCharacter c || c == '.'

theorem isDotted_ascii {c : Char} (dotted : isDotted c = true) : c.toNat < 128 := by
  have bound {top : Char} (inside : c ≤ top) : c.toNat ≤ top.toNat := inside
  rw [isDotted, Bool.or_eq_true, Manifest.Metadata.isIdCharacter_iff] at dotted
  obtain (⟨-, letter⟩ | ⟨-, digit⟩ | rfl | rfl) | dot := dotted
  · exact Nat.lt_of_le_of_lt (bound letter) (by decide)
  · exact Nat.lt_of_le_of_lt (bound digit) (by decide)
  · decide
  · decide
  · rw [beq_iff_eq.mp dot]
    decide

/-- A capital is not taken for a blank or a separator, and is made small again. -/
theorem isDotted_capital {c : Char} (dotted : isDotted c = true) :
    c.toUpper.toLower = c ∧ isBlank c.toUpper = false ∧ (c.toUpper = '.' ↔ c = '.') ∧
      (c.toUpper = '_' ↔ c = '_') := by
  have table : ∀ code < 128, isDotted (Char.ofNat code) = true →
      (Char.ofNat code).toUpper.toLower = Char.ofNat code ∧
        isBlank (Char.ofNat code).toUpper = false ∧
        ((Char.ofNat code).toUpper = '.' ↔ Char.ofNat code = '.') ∧
        ((Char.ofNat code).toUpper = '_' ↔ Char.ofNat code = '_') := by decide +kernel
  have checked := table c.toNat (isDotted_ascii dotted)
  rw [Char.ofNat_toNat] at checked
  exact checked dotted

theorem mem_separate {c : Char} {text : List Char} (member : c ∈ separate text) :
    c ∈ text ∨ c = '.' := by
  fun_induction separate text with
  | case1 rest ih =>
    obtain rfl | later := List.mem_cons.mp member
    · exact .inr rfl
    · obtain old | dot := ih later
      · exact .inl (List.mem_cons_of_mem _ (List.mem_cons_of_mem _ old))
      · exact .inr dot
  | case2 first rest _ ih =>
    obtain rfl | later := List.mem_cons.mp member
    · exact .inl List.mem_cons_self
    · exact (ih later).imp_left (List.mem_cons_of_mem _)
  | case3 => cases member

/-- Capitals do not matter for where a text is separated. -/
theorem separate_capitals {text : List Char} (dotted : ∀ c ∈ text, isDotted c = true) :
    separate (text.map Char.toUpper) = (separate text).map Char.toUpper := by
  fun_induction separate text with
  | case1 rest ih =>
    obtain ⟨-, others⟩ := List.forall_mem_cons.mp dotted
    exact congrArg ('.' :: ·) (ih (List.forall_mem_cons.mp others).2)
  | case2 c rest apart ih =>
    obtain ⟨first, others⟩ := List.forall_mem_cons.mp dotted
    rw [List.map_cons, separate_cons, ih others, List.map_cons]
    rintro ⟨capital, head⟩
    cases rest with
    | nil => cases head
    | cons next rest =>
      have second : next.toUpper = '_' := Option.some.inj head
      have small := (isDotted_capital (others next List.mem_cons_self)).2.2.2.mp second
      exact apart rest ((isDotted_capital first).2.2.2.mp capital) (small ▸ rfl)
  | case3 => rfl

/-- Nor for where it is cut. -/
theorem cutAt_capitals {text : List Char} (dotted : ∀ c ∈ text, isDotted c = true) :
    cutAt '.' (text.map Char.toUpper) = (cutAt '.' text).map (·.map Char.toUpper) := by
  induction text with
  | nil => rfl
  | cons c rest ih =>
    obtain ⟨first, others⟩ := List.forall_mem_cons.mp dotted
    have same : c.toUpper = '.' ↔ c = '.' := (isDotted_capital first).2.2.1
    rw [List.map_cons, cutAt, cutAt, ih others]
    by_cases dot : c = '.'
    · rw [if_pos dot, if_pos (same.mpr dot)]
      rfl
    · rw [if_neg dot, if_neg (mt same.mp dot)]
      cases cutAt '.' rest <;> rfl

theorem trim_plain {text : List Char} (plain : ∀ c ∈ text, isBlank c = false) :
    trim text = text := by
  have kept (text : List Char) (plain : ∀ c ∈ text, isBlank c = false) :
      text.dropWhile isBlank = text := by
    cases text with
    | nil => rfl
    | cons c rest => exact List.dropWhile_cons_of_neg (by simp [plain c List.mem_cons_self])
  rw [trim, trimStart, kept text plain, trimEnd, kept _ (by simpa using plain),
    List.reverse_reverse]

theorem dropStem?_append (stem : String) (following : List Char) :
    dropStem? stem (String.ofList (stem.toList ++ following)) = some following := by
  have begins : completes stem (String.ofList (stem.toList ++ following)) = true := by
    simp [completes, fold]
  rw [dropStem?, if_pos begins, String.toList_ofList, ← String.length_toList, List.drop_left]

/-! ## Keys of variables -/

/-- What the name of a variable says behind its stem, in small letters. -/
def spelling (id key : String) : List Char :=
  "plugins".toList ++ '_' :: '_' :: (id.toList ++ '_' :: '_' :: key.toList)

section
variable {id key : String} (ids : ∀ c ∈ id.toList, isIdCharacter c = true)
  (keys : ∀ c ∈ key.toList, isIdCharacter c = true)
include ids keys

theorem isDotted_spelling : ∀ c ∈ spelling id key, isDotted c = true := by
  have plugins : ∀ c ∈ "plugins".toList, isDotted c = true :=
    List.all_iff_forall_prop.mp (by decide +kernel)
  have underscore : isDotted '_' = true := by decide +kernel
  unfold spelling
  simp only [List.forall_mem_append, List.forall_mem_cons]
  exact ⟨plugins, underscore, underscore, fun c member => by simp [isDotted, ids c member],
    underscore, underscore, fun c member => by simp [isDotted, keys c member]⟩

/-- The key of a variable is what its name says between double underscores, unless that leaves
a part empty. -/
theorem key?_variableFor :
    key? "CHAMELEON_" (variableFor id key) =
      if (cutAt '.' (separate (spelling id key))).any List.isEmpty then none
      else some (String.ofList (separate (spelling id key))) := by
  have dotted := isDotted_spelling ids keys
  have separated : ∀ c ∈ separate (spelling id key), isDotted c = true := fun c member => by
    obtain old | rfl := mem_separate member
    · exact dotted c old
    · decide +kernel
  have name : (variableFor id key).toList =
      "CHAMELEON_".toList ++ (spelling id key).map Char.toUpper := by
    have stem : "CHAMELEON_PLUGINS__".toList = "CHAMELEON_".toList ++
        ("plugins".toList ++ ['_', '_']).map Char.toUpper := by decide +kernel
    have pair : "__".toList = ['_', '_'].map Char.toUpper := by decide +kernel
    unfold variableFor capitals spelling
    simp [stem, pair]
  have plain : ∀ c ∈ (variableFor id key).toList, isBlank c = false := by
    rw [name, List.forall_mem_append]
    refine ⟨List.all_iff_forall_prop.mp (by decide +kernel), fun c member => ?_⟩
    obtain ⟨small, among, rfl⟩ := List.mem_map.mp member
    exact (isDotted_capital (dotted small among)).2.1
  have following : dropStem? "CHAMELEON_" (String.ofList (trim (variableFor id key).toList)) =
      some ((spelling id key).map Char.toUpper) := by
    rw [trim_plain plain, name]
    exact dropStem?_append ..
  have trimmed : trim ((separate (spelling id key)).map Char.toUpper) =
      (separate (spelling id key)).map Char.toUpper := by
    refine trim_plain fun c member => ?_
    obtain ⟨small, among, rfl⟩ := List.mem_map.mp member
    exact (isDotted_capital (separated small among)).2.1
  have small : ((separate (spelling id key)).map Char.toUpper).map Char.toLower =
      separate (spelling id key) := by
    rw [List.map_map]
    refine (List.map_congr_left fun c member => ?_).trans (List.map_id _)
    exact (isDotted_capital (separated c member)).1
  have parts :
      ((cutAt '.' (separate (spelling id key))).map (·.map Char.toUpper)).any List.isEmpty =
      (cutAt '.' (separate (spelling id key))).any List.isEmpty := by
    rw [List.any_map]
    exact congrArg _ (funext fun part => by simp)
  rw [key?, following]
  dsimp only
  rw [separate_capitals dotted, trimmed, cutAt_capitals separated, parts, small]

end

theorem cutAt_plain {separator : Char} {text : List Char} (plain : separator ∉ text) :
    cutAt separator text = [text] := by
  induction text with
  | nil => rfl
  | cons c rest ih =>
    obtain ⟨other, others⟩ := not_or.mp (mt List.mem_cons.mpr plain)
    rw [cutAt, if_neg (Ne.symm other), ih others, extendFirst]

theorem cutAt_behind {separator : Char} {part : List Char} (plain : separator ∉ part)
    (rest : List Char) :
    cutAt separator (part ++ separator :: rest) = part :: cutAt separator rest := by
  rw [cutAt_append, cutAt_plain plain]
  rfl

theorem dot_notMem_plugins : '.' ∉ "plugins".toList := by
  decide +kernel

theorem dot_notMem_id {id : List Char} (ids : ∀ c ∈ id, isIdCharacter c = true) : '.' ∉ id :=
  fun member => absurd (ids '.' member) (by decide +kernel)

/-- The parts of a key that comes out of a name after the plugins' own part. -/
theorem cutAt_under {part : List Char} (plain : '.' ∉ part) (rest : List Char) :
    cutAt '.' ("plugins".toList ++ '.' :: (part ++ '.' :: rest)) =
      "plugins".toList :: part :: cutAt '.' rest := by
  rw [cutAt_behind dot_notMem_plugins, cutAt_behind plain]

theorem separate_spelling (id key : String) :
    separate (spelling id key) =
      "plugins".toList ++ '.' :: separate (id.toList ++ '_' :: '_' :: key.toList) :=
  separate_append (by decide +kernel) _

/-- An id without pairs of underscores, and none made with the one behind it, comes out of the
name of a variable as it went in. -/
theorem separate_spelling_of_single {id key : String} (single : ¬ Paired (id.toList ++ ['_']))
    (plain : '_' ∉ key.toList) :
    separate (spelling id key) = "plugins".toList ++ '.' :: (id.toList ++ '.' :: key.toList) := by
  rw [separate_spelling, separate_append single, separate_plain plain]

/-- Any other id is cut short at the first of these pairs. -/
theorem separate_spelling_of_paired {id : String} (paired : Paired (id.toList ++ ['_']))
    (key : String) : ∃ front rest,
      separate (spelling id key) = "plugins".toList ++ '.' :: (front ++ '.' :: rest) ∧
        front.length < id.toList.length ∧ front ⊆ id.toList := by
  obtain ⟨front, rest, same, single⟩ := paired.first
  have spelled : id.toList ++ '_' :: '_' :: key.toList =
      front ++ '_' :: '_' :: (rest ++ '_' :: key.toList) := by
    have shifted := congrArg (· ++ '_' :: key.toList) same
    simpa using shifted
  have lengths := congrArg List.length same
  simp only [List.length_append, List.length_cons, List.length_nil] at lengths
  have shorter : front.length < id.toList.length := by omega
  refine ⟨front, _, by rw [separate_spelling, spelled, separate_append single], shorter, ?_⟩
  have begins : front <+: id.toList ++ ['_'] := ⟨_, same.symm⟩
  exact (List.prefix_of_prefix_length_le begins (List.prefix_append _ _) shorter.le).subset

/-! ## The layer of one variable -/

/-- Whether a variable can reach the section of a plugin. -/
def Reaches (id key : String) : Prop := key ≠ "" ∧ ¬ Paired (id.toList ++ ['_'])

instance (id key : String) : Decidable (Reaches id key) :=
  inferInstanceAs (Decidable (key ≠ "" ∧ ¬ Paired (id.toList ++ ['_'])))

theorem layerOf_one {stem name key : String} (named : key? stem name = some key) (text : String) :
    layerOf stem [(name, text)] [] = entriesOf (nest key (Inline.parse text)) := by
  have ordered : OrderedEntries (entriesOf (nest key (Inline.parse text))) :=
    (ordered_nestUnder (Inline.ordered_parse text) (keysOf key)).entriesOf
  rw [layerOf, named, layerOf]
  exact OrderedEntries.overlay_after _ ordered (by simp)

theorem keysOf_ofList {key : List Char} (whole : (cutAt '.' key).any List.isEmpty = false) :
    keysOf (String.ofList key) = (cutAt '.' key).map String.ofList := by
  rw [keysOf, piecesAt, String.toList_ofList]
  refine List.takeWhile_eq_self_iff.mpr fun part member => ?_
  obtain ⟨chars, among, rfl⟩ := List.mem_map.mp member
  have filled := List.any_eq_false.mp whole chars among
  simpa using filled

section
variable {id key : String} (ids : ∀ c ∈ id.toList, isIdCharacter c = true)
  (keys : ∀ c ∈ key.toList, isIdCharacter c = true ∧ c ≠ '_') (named : id ≠ "")
include ids keys named

theorem key?_of_reaches (reaches : Reaches id key) :
    ∃ path, key? "CHAMELEON_" (variableFor id key) = some path ∧
      keysOf path = ["plugins", id, key] := by
  obtain ⟨filled, single⟩ := reaches
  have keyPlain : ∀ c ∈ key.toList, isIdCharacter c = true := fun c member => (keys c member).1
  have dotted := separate_spelling_of_single single
    fun member => (keys '_' member).2 rfl
  have parts : cutAt '.' (separate (spelling id key)) =
      ["plugins".toList, id.toList, key.toList] := by
    rw [dotted, cutAt_under (dot_notMem_id ids), cutAt_plain (dot_notMem_id keyPlain)]
  have whole : (cutAt '.' (separate (spelling id key))).any List.isEmpty = false := by
    rw [parts]
    simp [named, filled]
  refine ⟨_, by rw [key?_variableFor ids keyPlain, whole]; rfl, ?_⟩
  rw [keysOf_ofList whole, parts]
  simp

/-- The key of a variable that cannot reach the section of its plugin leads elsewhere: either the id
is cut short, or the key is empty and no part of a name may be. -/
theorem key?_of_not_reaches (lost : ¬ Reaches id key) {path : String}
    (read : key? "CHAMELEON_" (variableFor id key) = some path) :
    ∃ other rest, other ≠ id ∧ keysOf path = "plugins" :: other :: rest := by
  have keyPlain : ∀ c ∈ key.toList, isIdCharacter c = true := fun c member => (keys c member).1
  rw [key?_variableFor ids keyPlain] at read
  split at read
  · cases read
  · next whole =>
    obtain rfl := Option.some.inj read
    rw [Bool.not_eq_true] at whole
    rw [keysOf_ofList whole]
    by_cases paired : Paired (id.toList ++ ['_'])
    · obtain ⟨front, rest, dotted, shorter, among⟩ := separate_spelling_of_paired paired key
      have plain : '.' ∉ front := fun member => dot_notMem_id ids (among member)
      refine ⟨String.ofList front, (cutAt '.' rest).map String.ofList, ?_, ?_⟩
      · rintro rfl
        simp at shorter
      · rw [dotted, cutAt_under plain]
        simp
    · have blank : key = "" := by
        by_contra filled
        exact lost ⟨filled, paired⟩
      subst blank
      rw [separate_spelling_of_single paired (by simp), cutAt_under (dot_notMem_id ids)] at whole
      simp [cutAt] at whole

/-- The layer of the one variable has the setting in the plugin's section, or nothing there. -/
theorem layerOf_variable (text : String) :
    let layer := Value.table (layerOf "CHAMELEON_" [(variableFor id key, text)] [])
    hides ["plugins", id] layer = false ∧
      findUnder ["plugins", id] layer =
        if Reaches id key then some (.table [(key, Inline.parse text)]) else none := by
  intro layer
  by_cases reaches : Reaches id key
  · obtain ⟨path, read, keysOf⟩ := key?_of_reaches ids keys named reaches
    have same : layer = .table [("plugins", .table [(id, .table [(key, Inline.parse text)])])] := by
      rw [show layer = .table (entriesOf _) from congrArg _ (layerOf_one read text), nest, keysOf]
      rfl
    rw [same, if_pos reaches]
    simp [hides, findUnder]
  · rw [if_neg reaches]
    cases read : key? "CHAMELEON_" (variableFor id key) with
    | none =>
      have same : layer = .table [] := by
        rw [show layer = .table (layerOf _ _ _) from rfl, layerOf, read]
        rfl
      rw [same]
      exact ⟨rfl, rfl⟩
    | some path =>
      obtain ⟨other, rest, apart, keysOf⟩ := key?_of_not_reaches ids keys named reaches read
      have same : layer =
          .table [("plugins", .table [(other, nestUnder (Inline.parse text) rest)])] := by
        rw [show layer = .table (entriesOf _) from congrArg _ (layerOf_one read text), nest, keysOf]
        rfl
      have differs : (id == other) = false := by simpa using Ne.symm apart
      rw [same]
      simp [hides, findUnder, List.lookup_cons, differs]

end

end Environment

/-! ## Sections of united layers -/

theorem Unites.eq_lower {lower both : Option Value} (unites : Unites lower none both) :
    both = lower := by
  cases unites
  rfl

theorem Unites.eq_upper {upper both : Option Value} (unites : Unites none upper both) :
    both = upper := by
  cases unites <;> rfl

section
variable {path : List String} {lower upper both : Value}

/-- Values that hide nothing under a path unite to one that hides nothing there. -/
theorem Unites.hides (unites : Unites (some lower) (some upper) (some both))
    (below : Settings.hides path lower = false) (above : Settings.hides path upper = false) :
    Settings.hides path both = false := by
  induction path generalizing lower upper both with
  | nil => rfl
  | cons key rest ih =>
    cases unites with
    | instead => exact above
    | tables each =>
      rename_i lowest uppest all
      simp only [Settings.hides] at below above ⊢
      have here := each key
      generalize lowest.lookup key = known at here below
      generalize uppest.lookup key = given at here above
      generalize all.lookup key = found at here ⊢
      cases here with
      | lower value => exact below
      | upper value => exact above
      | instead apart => exact above
      | tables inner => exact ih (.tables inner) below above

end

section
variable {path : List String} {lower upper : Table}

theorem unites_overlayEntries (above : OrderedEntries upper) (below : OrderedEntries lower) :
    Unites (some (.table lower)) (some (.table upper))
      (some (.table (overlayEntries upper lower))) :=
  Ordered.unites (.table upper) above (show Ordered (.table lower) from below)

/-- Under a path that the upper layer neither hides nor has, the lower one is what is found. -/
theorem findUnder_overlay_of_absent (above : OrderedEntries upper) (below : OrderedEntries lower)
    (seen : hides path (.table upper) = false) (absent : findUnder path (.table upper) = none) :
    findUnder path (.table (overlayEntries upper lower)) = findUnder path (.table lower) := by
  have union := ((unites_overlayEntries above below).along path).2 seen
  rw [absent] at union
  exact union.eq_lower

/-- Under a path that the lower layer does not have, the upper one is what is found. -/
theorem findUnder_overlay_of_new (above : OrderedEntries upper) (below : OrderedEntries lower)
    (new : findUnder path (.table lower) = none) :
    findUnder path (.table (overlayEntries upper lower)) = findUnder path (.table upper) := by
  obtain ⟨none, union⟩ := (unites_overlayEntries above below).along path
  cases hidden : hides path (.table upper) with
  | true => rw [none hidden, findUnder_of_hides hidden]
  | false =>
    have unites := union hidden
    rw [new] at unites
    exact unites.eq_upper

end

/-- A value that is set stands for itself unless it and what lies below it are tables. -/
theorem Unites.eq_of_apart {lower : Option Value} {upper both : Value}
    (unites : Unites lower (some upper) (some both))
    (apart : ¬ ∃ below above, lower = some (.table below) ∧ upper = .table above) :
    both = upper := by
  cases unites with
  | upper => rfl
  | instead => rfl
  | tables each => exact absurd ⟨_, _, rfl, rfl⟩ apart

theorem Unites.isSome {lower both : Option Value} {upper : Value}
    (unites : Unites lower (some upper) both) : ∃ value, both = some value := by
  cases unites <;> exact ⟨_, rfl⟩

/-- What a table with one entry makes of what lies below it: a table in which that entry is united
with what it finds, and the others stay. -/
theorem Unites.one {lower both : Option Value} {key : String} {value : Value}
    (unites : Unites lower (some (.table [(key, value)])) both) :
    ∃ entries, both = some (.table entries) ∧
      Unites (lower.bind (findUnder [key])) (some value) (entries.lookup key) ∧
      ∀ other, other ≠ key → entries.lookup other = lower.bind (findUnder [other]) := by
  have others {other : String} (apart : other ≠ key) : [(key, value)].lookup other = none := by
    have differs : (other == key) = false := by simpa using apart
    rw [List.lookup_cons, differs]
    rfl
  have under (entries : Table) (key : String) :
      findUnder [key] (.table entries) = entries.lookup key := by
    simp only [findUnder]
    cases entries.lookup key <;> rfl
  cases unites with
  | upper =>
    refine ⟨_, rfl, ?_, fun other apart => others apart⟩
    rw [List.lookup_cons_self]
    exact .upper value
  | instead apart =>
    rename_i below
    have nothing (key : String) : findUnder [key] below = none := by
      cases below with
      | table entries => exact absurd ⟨_, _, rfl, rfl⟩ apart
      | _ => rfl
    refine ⟨_, rfl, ?_, fun other apart => (others apart).trans (nothing other).symm⟩
    rw [List.lookup_cons_self, Option.bind_some, nothing]
    exact .upper value
  | tables each =>
    rename_i below all
    refine ⟨all, rfl, ?_, fun other apart => ?_⟩
    · have here := each key
      rw [List.lookup_cons_self] at here
      rwa [Option.bind_some, under]
    · have here := each other
      rw [others apart] at here
      rw [Option.bind_some, under]
      exact here.eq_lower

/-! ## Layers above and below -/

/-- A setting of the program neither has something under a path nor hides it. -/
def Override.LeavesAlone (path : List String) (setting : Override) : Prop :=
  hides path (arranged setting.value) = false ∧ findUnder path (arranged setting.value) = none

theorem overrideLayer_leaves {path : List String} {settings : List Override} {entries : Table}
    (deep : path ≠ []) (read : overrideLayer settings = .ok entries)
    (leave : ∀ setting ∈ settings, setting.LeavesAlone path) :
    hides path (.table entries) = false ∧ findUnder path (.table entries) = none := by
  induction settings using List.reverseRecOn generalizing entries with
  | nil =>
    cases read
    obtain ⟨key, rest, rfl⟩ := List.exists_cons_of_ne_nil deep
    exact ⟨rfl, rfl⟩
  | append_singleton earlier last ih =>
    rw [overrideLayer, List.foldl_append] at read
    obtain ⟨below, above, first, second, rfl⟩ := Layers.add_ok read
    obtain ⟨before, here⟩ := List.forall_mem_append.mp leave
    obtain ⟨seen, absent⟩ := here last (List.mem_singleton_self _)
    have lower := (overrideLayer_ok first).1
    have upper : OrderedEntries above := by
      have inside := ordered_arranged last.value
      rw [last.layer_eq] at second
      rwa [layerOf_ok second] at inside
    rw [last.layer_eq] at second
    rw [layerOf_ok second] at seen absent
    obtain ⟨hidden, nothing⟩ := ih first before
    refine ⟨(unites_overlayEntries upper lower).hides hidden seen, ?_⟩
    exact (findUnder_overlay_of_absent upper lower seen absent).trans nothing

theorem Loader.ordered_fileLayer {loader : Loader} {surroundings : Surroundings} {file : Table}
    (found : (loader.fileLayer surroundings).2 = .ok (.ok file)) : OrderedEntries file := by
  have ordered {path : String} (read : Settings.fileLayer surroundings path = .ok file) :
      OrderedEntries file := by
    have spelled := fileLayer_ok read
    split at spelled
    · exact File.ordered_layer spelled
    · exact spelled ▸ trivial
  unfold Loader.fileLayer at found
  split at found
  · split at found
    · cases found
    · dsimp only at found
      split at found
      · exact ordered (Except.ok.inj found)
      · cases found
  · split at found
    · exact ordered (Except.ok.inj found)
    · cases found
      trivial

/-- Under a path where nothing is built in and the program sets nothing, the environment is laid
over the file. -/
theorem Loader.unites_environment {path : List String} (deep : path ≠ []) {loader : Loader}
    {file environment overrides : Table}
    (new : findUnder path (.table (entriesOf Schema.default.value)) = none)
    (filed : OrderedEntries file) (surrounded : OrderedEntries environment)
    (seen : hides path (.table environment) = false)
    (program : overrideLayer loader.overrides = .ok overrides)
    (leave : ∀ setting ∈ loader.overrides, setting.LeavesAlone path) :
    Unites (findUnder path (.table file)) (findUnder path (.table environment))
      (findUnder path (.table (overlayEntries overrides (overlayEntries environment
        (overlayEntries file (entriesOf Schema.default.value)))))) := by
  obtain ⟨hidden, absent⟩ := overrideLayer_leaves deep program leave
  have above := (overrideLayer_ok program).1
  have lower := filed.overlay file ordered_builtIn
  have below := findUnder_overlay_of_new filed ordered_builtIn new
  rw [findUnder_overlay_of_absent above (surrounded.overlay environment lower) hidden absent,
    ← below]
  exact ((unites_overlayEntries surrounded lower).along path).2 seen

/-! ## Sections of plugins -/

theorem findUnder_append (first second : List String) (value : Value) :
    findUnder (first ++ second) value = (findUnder first value).bind (findUnder second) := by
  induction first generalizing value with
  | nil => rfl
  | cons key rest ih =>
    cases value with
    | table entries =>
      simp only [List.cons_append, findUnder]
      cases entries.lookup key with
      | none => rfl
      | some inner => exact ih inner
    | _ => rfl

theorem keysOf_section {id : String} (named : id ≠ "") (plain : '.' ∉ id.toList) :
    keysOf ("plugins." ++ id) = ["plugins", id] := by
  have dotted : "plugins." ++ id = String.ofList ("plugins".toList ++ '.' :: id.toList) := by
    rw [← String.toList_inj]
    simp
  have parts :
      cutAt '.' ("plugins".toList ++ '.' :: id.toList) = ["plugins".toList, id.toList] := by
    rw [Environment.cutAt_behind Environment.dot_notMem_plugins, Environment.cutAt_plain plain]
  have whole : (cutAt '.' ("plugins".toList ++ '.' :: id.toList)).any List.isEmpty = false := by
    rw [parts]
    simp [named]
  rw [dotted, Environment.keysOf_ofList whole, parts]
  simp

/-- The section of a plugin as it stands. -/
theorem Loaded.pluginSection?_ok (loaded : Loaded) (id : String) :
    loaded.pluginSection? id .ok = .ok (find? ("plugins." ++ id) loaded.all) := by
  rw [Loaded.pluginSection?, Loaded.section?]
  cases find? ("plugins." ++ id) loaded.all <;> rfl

/-- Nothing is built in for plugins. -/
theorem findUnder_builtIn (id : String) :
    findUnder ["plugins", id] (.table (entriesOf Schema.default.value)) = none := by
  have none : (entriesOf Schema.default.value).lookup "plugins" = none :=
    Option.isNone_iff_eq_none.mp (by decide +kernel)
  simp only [findUnder, none]

/-- Settings that could be loaded, with one variable that is read: the one that stands for some
setting of a plugin whose id is valid. The program sets nothing in the section of the plugin. If
the setting is named, and the id has no two underscores next to each other and does not end in
one, the section is a table that has the setting, with the value as it is read from the variable,
united with the one of the file if both are tables; all else in it is as in the file. For every
other id the variable leads elsewhere, if anywhere, and the section is just that of the file. -/
theorem variable_reaches_section {loader : Loader} {surroundings : Surroundings}
    {id key text : String} (valid : idFault id = none)
    (spelled : ∀ c ∈ key.toList, ('a' ≤ c ∧ c ≤ 'z') ∨ ('0' ≤ c ∧ c ≤ '9'))
    (reads : loader.variableStem = some "CHAMELEON_")
    (alone : surroundings.environment.filter (Environment.takesPart "CHAMELEON_" ·.1) =
      [(Environment.variableFor id key, text)])
    (leave : ∀ setting ∈ loader.overrides, setting.LeavesAlone ["plugins", id])
    {records : List Log.Record} {loaded : Loaded}
    (done : loader.load surroundings = (records, .ok loaded)) :
    ∃ file, (loader.fileLayer surroundings).2 = .ok (.ok file) ∧
      (Environment.Reaches id key → ∃ entries value,
        loaded.pluginSection? id .ok = .ok (some (.table entries)) ∧
        entries.lookup key = some value ∧
        Unites (findUnder ["plugins", id, key] (.table file)) (some (Inline.parse text))
          (some value) ∧
        ((¬ ∃ below above, findUnder ["plugins", id, key] (.table file) = some (.table below) ∧
          Inline.parse text = .table above) → value = Inline.parse text) ∧
        ∀ other, other ≠ key →
          entries.lookup other = findUnder ["plugins", id, other] (.table file)) ∧
      (¬ Environment.Reaches id key →
        loaded.pluginSection? id .ok = .ok (findUnder ["plugins", id] (.table file))) := by
  obtain ⟨named, ids⟩ := (Manifest.Metadata.idFault_eq_none_iff id).mp valid
  have idCharacters : ∀ c ∈ id.toList, isIdCharacter c = true := fun c member =>
    (Manifest.Metadata.isIdCharacter_iff c).mpr (ids c member)
  have keyCharacters : ∀ c ∈ key.toList, isIdCharacter c = true ∧ c ≠ '_' := by
    intro c member
    have inside := spelled c member
    refine ⟨(Manifest.Metadata.isIdCharacter_iff c).mpr (inside.imp_right .inl), ?_⟩
    rintro rfl
    exact absurd inside (by decide +kernel)
  have plain : '.' ∉ id.toList := Environment.dot_notMem_id idCharacters
  obtain ⟨_, found, united, -⟩ := Loader.load_ok done
  obtain ⟨file, overrides, rfl, program, all⟩ := Loader.layers_ok united
  refine ⟨file, found, ?_⟩
  rw [reads, Option.elim_some] at all
  obtain ⟨seen, given⟩ := Environment.layerOf_variable idCharacters keyCharacters named text
  rw [← Environment.layer_of_alone alone] at seen given
  have union := Loader.unites_environment (List.cons_ne_nil _ _) (findUnder_builtIn id)
    (Loader.ordered_fileLayer found) (Environment.ordered_layer ..) seen program leave
  rw [← all, given] at union
  have read :
      loaded.pluginSection? id .ok = .ok (findUnder ["plugins", id] (.table loaded.all)) := by
    rw [loaded.pluginSection?_ok, find?, keysOf_section named plain]
  have under (other : String) : findUnder ["plugins", id, other] (.table file) =
      (findUnder ["plugins", id] (.table file)).bind (findUnder [other]) :=
    findUnder_append ["plugins", id] [other] (.table file)
  constructor
  · intro reaches
    rw [if_pos reaches] at union
    obtain ⟨entries, same, here, others⟩ := union.one
    rw [← under] at here
    obtain ⟨value, set⟩ := here.isSome
    rw [set] at here
    refine ⟨entries, value, by rw [read, same], set, here, here.eq_of_apart, fun other apart => ?_⟩
    rw [others other apart, under]
  · intro lost
    rw [if_neg lost] at union
    rw [read, union.eq_lower]

/-- Whether settings could be loaded and are as they should be is told by running the loader. -/
theorem Loader.exists_loaded {loader : Loader} {surroundings : Surroundings} {fits : Loaded → Bool}
    (loads : (loader.load surroundings).2.toOption.any fits = true) :
    ∃ records loaded, loader.load surroundings = (records, .ok loaded) ∧ fits loaded = true := by
  rcases result : loader.load surroundings with ⟨records, _ | loaded⟩
  · rw [result] at loads
    cases loads
  · rw [result] at loads
    exact ⟨records, loaded, rfl, loads⟩

/-- A settings file with a section of a plugin, and a variable for one more setting of it. -/
def harbour : Surroundings where
  files := ⟨[(["srv"], .folder), (["srv", "chameleon.toml"], .file (String.join
    ["[plugins._my-plugin2]\nrepeat = 2\n", "motd = \"Hi\"\n"]).toUTF8)], [], 0⟩
  environment := [("CHAMELEON_PLUGINS___MY-PLUGIN2__MOTD", "Ahoy")]
  workingFolder := "/"
  settingsFolder := "/home/settings"

def harbourLoader : Loader :=
  (Loader.standard.addSearchPath "srv").override (.key "plugins.my-plugin2.motd" (.text "No"))

theorem harbour_variable_reaches_section : ∃ records loaded entries,
    idFault "_my-plugin2" = none ∧
      harbour.environment.filter (Environment.takesPart "CHAMELEON_" ·.1) =
        [(Environment.variableFor "_my-plugin2" "motd", "Ahoy")] ∧
      harbourLoader.load harbour = (records, .ok loaded) ∧
      loaded.pluginSection? "_my-plugin2" .ok = .ok (some (.table entries)) ∧
      entries.lookup "motd" = some (.text "Ahoy") := by
  have loads : (harbourLoader.load harbour).2.toOption.any (fun _ => true) = true := by
    decide +kernel
  obtain ⟨records, loaded, done, -⟩ := Loader.exists_loaded loads
  have valid : idFault "_my-plugin2" = none := by decide +kernel
  have alone : harbour.environment.filter (Environment.takesPart "CHAMELEON_" ·.1) =
      [(Environment.variableFor "_my-plugin2" "motd", "Ahoy")] := by decide +kernel
  have leave : ∀ setting ∈ harbourLoader.overrides,
      setting.LeavesAlone ["plugins", "_my-plugin2"] := by
    intro setting member
    obtain rfl := List.mem_singleton.mp member
    exact ⟨by decide +kernel, Option.isNone_iff_eq_none.mp (by decide +kernel)⟩
  have spelled : ∀ c ∈ "motd".toList, ('a' ≤ c ∧ c ≤ 'z') ∨ ('0' ≤ c ∧ c ≤ '9') :=
    List.all_iff_forall_prop.mp (by decide +kernel)
  obtain ⟨file, -, reached, -⟩ := variable_reaches_section valid spelled rfl alone leave done
  obtain ⟨entries, value, read, set, -, plain, -⟩ := reached (by decide +kernel)
  have parsed : Inline.parse "Ahoy" = .text "Ahoy" := by decide +kernel
  have same : value = .text "Ahoy" := by
    rw [← parsed]
    refine plain ?_
    rintro ⟨_, _, -, table⟩
    rw [parsed] at table
    cases table
  exact ⟨records, loaded, entries, valid, alone, done, read, same ▸ set⟩

/-- A variable for a setting of a plugin whose id has two underscores in the middle. -/
def paired : Surroundings :=
  ⟨.empty, [("CHAMELEON_PLUGINS__A__B__MOTD", "hi")], "/", "/home/settings"⟩

/-- A settings file with a table for a plugin, and a variable for the same table. -/
def moored : Surroundings where
  files := ⟨[(["srv"], .folder), (["srv", "chameleon.toml"],
    .file "[plugins.harbour.berths]\nfirst = \"Ann\"\n".toUTF8)], [], 0⟩
  environment := [("CHAMELEON_PLUGINS__HARBOUR__BERTHS", "{second=Bea}")]
  workingFolder := "/"
  settingsFolder := "/home/settings"

theorem paired_is_out_of_reach : ∃ records loaded,
    Loader.standard.load paired = (records, .ok loaded) ∧
      loaded.pluginSection? "a__b" .ok = .ok none := by
  have loads : (Loader.standard.load paired).2.toOption.any
      (fun loaded => (find? ("plugins." ++ "a__b") loaded.all).isNone) = true := by
    decide +kernel
  obtain ⟨records, loaded, done, missing⟩ := Loader.exists_loaded loads
  exact ⟨records, loaded, done, by
    rw [loaded.pluginSection?_ok, Option.isNone_iff_eq_none.mp missing]⟩

theorem moored_is_united : ∃ records loaded read,
    (Loader.standard.addSearchPath "srv").load moored = (records, .ok loaded) ∧
      loaded.pluginSection? "harbour" .ok = .ok (some read) ∧
      findUnder ["berths"] read ≠ some (Inline.parse "{second=Bea}") := by
  have loads : ((Loader.standard.addSearchPath "srv").load moored).2.toOption.any
      (fun loaded => (find? ("plugins." ++ "harbour") loaded.all).any fun read =>
        ((findUnder ["berths"] read).bind (findUnder ["first"])).isSome) = true := by
    decide +kernel
  obtain ⟨records, loaded, done, united⟩ := Loader.exists_loaded loads
  obtain ⟨read, found, first⟩ := (Option.any_eq_true ..).mp united
  refine ⟨records, loaded, read, done, by rw [loaded.pluginSection?_ok, found], fun same => ?_⟩
  have alone : Inline.parse "{second=Bea}" = .table [("second", .text "Bea")] := by
    decide +kernel
  rw [same, alone] at first
  cases first

/-- Both ids are valid and each variable is the only one. The first does not reach its section,
and the second is united with what the file has in its place. -/
theorem variables_fall_short :
    (idFault "a__b" = none ∧
      paired.environment = [(Environment.variableFor "a__b" "motd", "hi")] ∧
      ∃ records loaded, Loader.standard.load paired = (records, .ok loaded) ∧
        loaded.pluginSection? "a__b" .ok = .ok none) ∧
    (idFault "harbour" = none ∧
      moored.environment = [(Environment.variableFor "harbour" "berths", "{second=Bea}")] ∧
      ∃ records loaded read,
        (Loader.standard.addSearchPath "srv").load moored = (records, .ok loaded) ∧
          loaded.pluginSection? "harbour" .ok = .ok (some read) ∧
          findUnder ["berths"] read ≠ some (Inline.parse "{second=Bea}")) :=
  ⟨⟨by decide +kernel, by decide +kernel, paired_is_out_of_reach⟩,
    by decide +kernel, by decide +kernel, moored_is_united⟩

end PluginBridge.Settings
