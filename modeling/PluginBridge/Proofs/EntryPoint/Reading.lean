import PluginBridge.EntryPoint.Source

/-! Generated source, read back. The readers here know the forms that a compiler
would find in it, paths, fields, lists and literals, and nothing of how they were
printed; what they find in an entry point is what was put there. -/
namespace PluginBridge.EntryPoint
open Manifest Plugin

/-! ## Readers -/

/-- What follows these words at the start of some source. -/
def after? : List String → List Token → Option (List Token)
  | [], tokens => some tokens
  | word :: words, .plain spelling :: rest => if spelling = word then after? words rest else none
  | _ :: _, _ => none

def isComma : Token → Bool
  | .plain spelling => spelling == ","
  | _ => false

/-- The items between commas. A comma may follow the last one. -/
def itemsOf (content : List Token) : List (List Token) :=
  (content.splitOnP isComma).filter (!·.isEmpty)

/-- The name of a field and its value. -/
def named? : List Token → Option (String × List Token)
  | .plain name :: .plain ":" :: value => some (name, value)
  | _ => none

/-- The fields of a record, in what its braces hold. -/
def fieldsOf (content : List Token) : List (String × List Token) :=
  (itemsOf content).filterMap named?

def fieldOf? (name : String) (content : List Token) : Option (List Token) :=
  (fieldsOf content).lookup name

def ownedText? (tokens : List Token) : Option String :=
  match after? ["::", "std", "::", "string", "::", "String", "::", "from"] tokens with
  | some [.group .round [.text value]] => some value
  | _ => none

def flag? : List Token → Option Bool
  | [.plain "true"] => some true
  | [.plain "false"] => some false
  | _ => none

def optional? {α : Type} (read? : List Token → Option α) (tokens : List Token) :
    Option (Option α) :=
  match after? ["::", "core", "::", "option", "::", "Option", "::"] tokens with
  | some [.plain "None"] => some none
  | some [.plain "Some", .group .round content] => (read? content).map some
  | _ => none

def vector? {α : Type} (read? : List Token → Option α) (tokens : List Token) :
    Option (List α) :=
  match after? ["::", "std", "::", "vec", "!"] tokens with
  | some [.group .square content] => (itemsOf content).mapM read?
  | _ => none

/-- A dependency, from what its braces hold. -/
def readRequirement? (content : List Token) : Option Requirement := do
  let name ← (fieldOf? "name" content).bind ownedText?
  let soft ← (fieldOf? "soft" content).bind flag?
  return ⟨name, soft⟩

def requirement? (tokens : List Token) : Option Requirement :=
  match after? ["::", "chameleon_runtime", "::", "PluginDependency"] tokens with
  | some [.group .curly content] => readRequirement? content
  | _ => none

/-- The data of a plugin, from what its braces hold. -/
def readData? (content : List Token) : Option Data := do
  let id ← (fieldOf? "id" content).bind ownedText?
  let name ← (fieldOf? "name" content).bind ownedText?
  let version ← (fieldOf? "version" content).bind ownedText?
  let authors ← (fieldOf? "authors" content).bind (vector? ownedText?)
  let description ← (fieldOf? "description" content).bind (optional? ownedText?)
  let url ← (fieldOf? "url" content).bind (optional? ownedText?)
  let dependencies ← (fieldOf? "dependencies" content).bind (vector? requirement?)
  let dataFolder ← (fieldOf? "data_folder" content).bind (optional? ownedText?)
  return ⟨id, name, version, authors, description, url, dependencies, dataFolder⟩

/-- Whether words, the last one first, come to the path of this type of the runtime. -/
def endsInPath (type : String) : List String → Bool
  | last :: "::" :: "chameleon_runtime" :: "::" :: _ => last == type
  | _ => false

/-- What the braces of a record literal of this type hold, if a token closes one. -/
def literalAt (type : String) (before : List String) : Token → List (List Token)
  | .group .curly content => if endsInPath type before then [content] else []
  | _ => []

/-- The words right before what follows a token, the last one first. -/
def wordsAfter (before : List String) : Token → List String
  | .plain word => word :: before
  | _ => []

mutual

/-- What the braces of all record literals of a type hold, wherever they stand in some
source. The words right before the source are known, the last one first. -/
def literals (type : String) (before : List String) : List Token → List (List Token)
  | [] => []
  | token :: rest =>
    literalAt type before token ++ literalsWithin type token ++
      literals type (wordsAfter before token) rest

def literalsWithin (type : String) : Token → List (List Token)
  | .group _ content => literals type [] content
  | _ => []

end

/-- The types that source declares, outside all brackets. -/
def declaredTypes : List Token → List String
  | .plain "struct" :: .plain name :: rest => name :: declaredTypes rest
  | _ :: rest => declaredTypes rest
  | [] => []

/-! ## Records and lists -/

/-- Source without commas outside its brackets, so that it can be one item of a list. -/
def isItem (tokens : List Token) : Bool :=
  !tokens.isEmpty && tokens.all (!isComma ·)

theorem itemsOf_cons {item : List Token} (whole : isItem item = true) (rest : List Token) :
    itemsOf (item ++ .plain "," :: rest) = item :: itemsOf rest := by
  simp only [isItem, Bool.and_eq_true, List.all_eq_true, Bool.not_eq_true'] at whole
  obtain ⟨given, commaless⟩ := whole
  rw [itemsOf, List.splitOnP_append_cons_of_forall_mem commaless _ (by rfl),
    List.filter_cons_of_pos (by simp [given]), itemsOf]

theorem itemsOf_single {item : List Token} (whole : isItem item = true) :
    itemsOf item = [item] := by
  simp only [isItem, Bool.and_eq_true, List.all_eq_true, Bool.not_eq_true'] at whole
  obtain ⟨given, commaless⟩ := whole
  simp [itemsOf, List.splitOnP_eq_singleton commaless, given]

theorem itemsOf_commas {items : List (List Token)} (whole : ∀ item ∈ items, isItem item = true) :
    itemsOf (commas items) = items := by
  induction items using commas.induct with
  | case1 => rfl
  | case2 item => exact itemsOf_single (whole item (by simp))
  | case3 item next rest ih =>
    obtain ⟨first, others⟩ := List.forall_mem_cons.mp whole
    rw [commas, List.append_assoc, List.singleton_append, itemsOf_cons first, ih others]

theorem fieldsOf_field {name : String} {value : List Token} (rest : List Token)
    (spelled : phrase (name ++ " :") = [.plain name, .plain ":"]) (plain : (name == ",") = false)
    (whole : isItem value = true) :
    fieldsOf (field name value ++ rest) = (name, value) :: fieldsOf rest := by
  have item : isItem ([.plain name, .plain ":"] ++ value) = true := by
    simp only [isItem, Bool.and_eq_true] at whole ⊢
    simpa [isComma, plain] using whole.2
  rw [field, spelled, List.append_assoc, List.append_assoc, List.singleton_append,
    ← List.append_assoc, fieldsOf, itemsOf_cons item]
  rfl

/-! ## What was printed is read -/

@[simp] theorem ownedText?_ownedText (value : String) :
    ownedText? (ownedText value) = some value := by
  cbv

@[simp] theorem optional?_optionalText (value : Option String) :
    optional? ownedText? (optionalText value) = some value := by
  cases value <;> cbv

theorem vector?_vector {α : Type} {read? : List Token → Option α} {print : α → List Token}
    (values : List α) (whole : ∀ value, isItem (print value) = true)
    (back : ∀ value, read? (print value) = some value) :
    vector? read? (vector (values.map print)) = some values := by
  have found : vector? read? (vector (values.map print)) =
      (itemsOf (commas (values.map print))).mapM read? := by rfl
  have same : read? ∘ print = fun value => some value := funext back
  rw [found, itemsOf_commas (by simp [whole]), List.mapM_map, same]
  exact List.mapM_pure.trans (by simp)

@[simp] theorem vector?_ownedText (values : List String) :
    vector? ownedText? (vector (values.map ownedText)) = some values :=
  vector?_vector values (fun _ => by cbv) ownedText?_ownedText

/-- What the braces of a dependency's literal hold. -/
def requirementFields (requirement : Requirement) : List Token :=
  field "name" (ownedText requirement.name) ++
    field "soft" [.plain (if requirement.soft then "true" else "false")]

theorem requirementLiteral_eq (requirement : Requirement) :
    requirementLiteral requirement = phrase ":: chameleon_runtime :: PluginDependency" ++
      [curly (requirementFields requirement)] := by
  rfl

theorem readRequirement?_requirementFields (requirement : Requirement) :
    readRequirement? (requirementFields requirement) = some requirement := by
  obtain ⟨name, soft⟩ := requirement
  have given : fieldsOf (requirementFields ⟨name, soft⟩) =
      [("name", ownedText name), ("soft", [.plain (if soft then "true" else "false")])] := by
    have text : isItem (ownedText name) = true := by cbv
    have flag : isItem [.plain (if soft then "true" else "false")] = true := by
      cases soft <;> cbv
    rw [requirementFields, fieldsOf_field _ (by rfl) (by decide) text,
      ← List.append_nil (field "soft" _), fieldsOf_field _ (by rfl) (by decide) flag]
    rfl
  cases soft <;> simp [readRequirement?, fieldOf?, given, List.lookup_cons, flag?]

@[simp] theorem requirement?_requirementLiteral (requirement : Requirement) :
    requirement? (requirementLiteral requirement) = some requirement := by
  have follows (content : List Token) :
      after? ["::", "chameleon_runtime", "::", "PluginDependency"]
        (phrase ":: chameleon_runtime :: PluginDependency" ++ [curly content]) =
        some [curly content] := by cbv
  rw [requirementLiteral_eq, requirement?, follows]
  exact readRequirement?_requirementFields requirement

@[simp] theorem vector?_requirementLiteral (requirements : List Requirement) :
    vector? requirement? (vector (requirements.map requirementLiteral)) = some requirements := by
  refine vector?_vector requirements (fun requirement => ?_) requirement?_requirementLiteral
  rw [requirementLiteral_eq]
  generalize requirementFields requirement = content
  cbv

/-- What the braces of a data literal hold. -/
def dataFields (data : Data) : List Token :=
  field "id" (ownedText data.id) ++ field "name" (ownedText data.name) ++
    field "version" (ownedText data.version) ++
    field "authors" (vector (data.authors.map ownedText)) ++
    field "description" (optionalText data.description) ++
    field "url" (optionalText data.url) ++
    field "dependencies" (vector (data.dependencies.map requirementLiteral)) ++
    field "data_folder" (optionalText data.dataFolder)

theorem dataLiteral_eq (data : Data) :
    dataLiteral data =
      phrase ":: chameleon_runtime :: PluginData" ++ [curly (dataFields data)] := by
  rfl

theorem isItem_ownedText (value : String) : isItem (ownedText value) = true := by
  cbv

theorem isItem_optionalText (value : Option String) : isItem (optionalText value) = true := by
  cases value <;> cbv

theorem isItem_vector (items : List (List Token)) : isItem (vector items) = true := by
  rw [vector]
  generalize commas items = content
  cbv

theorem fieldsOf_dataFields (data : Data) : fieldsOf (dataFields data) =
    [("id", ownedText data.id), ("name", ownedText data.name), ("version", ownedText data.version),
      ("authors", vector (data.authors.map ownedText)),
      ("description", optionalText data.description), ("url", optionalText data.url),
      ("dependencies", vector (data.dependencies.map requirementLiteral)),
      ("data_folder", optionalText data.dataFolder)] := by
  rw [dataFields, ← List.append_nil (field "data_folder" _)]
  simp only [List.append_assoc]
  rw [fieldsOf_field _ (by rfl) (by decide) (isItem_ownedText _),
    fieldsOf_field _ (by rfl) (by decide) (isItem_ownedText _),
    fieldsOf_field _ (by rfl) (by decide) (isItem_ownedText _),
    fieldsOf_field _ (by rfl) (by decide) (isItem_vector _),
    fieldsOf_field _ (by rfl) (by decide) (isItem_optionalText _),
    fieldsOf_field _ (by rfl) (by decide) (isItem_optionalText _),
    fieldsOf_field _ (by rfl) (by decide) (isItem_vector _),
    fieldsOf_field _ (by rfl) (by decide) (isItem_optionalText _)]
  rfl

/-- The data of a plugin is read back from its literal. -/
theorem readData?_dataFields (data : Data) : readData? (dataFields data) = some data := by
  simp [readData?, fieldOf?, fieldsOf_dataFields, List.lookup_cons]

/-! ## Literals -/

/-- These are the literals of a type in some source, whatever stands before it. -/
def Finds (type : String) (source : List Token) (found : List (List Token)) : Prop :=
  ∀ before, literals type before source = found

theorem literals_append (type : String) (before : List String) (source more : List Token) :
    literals type before (source ++ more) =
      literals type before source ++ literals type (source.foldl wordsAfter before) more := by
  induction source generalizing before with
  | nil => rfl
  | cons token rest ih =>
    simp only [List.cons_append, literals, ih, List.foldl_cons, List.append_assoc]

theorem Finds.append {type : String} {source more : List Token} {found others : List (List Token)}
    (first : Finds type source found) (second : Finds type more others) :
    Finds type (source ++ more) (found ++ others) := by
  intro before
  rw [literals_append, first, second]

theorem finds_words (type : String) (words : List String) :
    Finds type (words.map .plain) [] := by
  intro before
  induction words generalizing before with
  | nil => rfl
  | cons word rest ih => exact ih (word :: before)

theorem finds_phrase (type source : String) : Finds type (phrase source) [] :=
  finds_words type _

/-- Source in brackets that close no literal of the type. -/
theorem Finds.block {type : String} {head content : List Token} {found : List (List Token)}
    (inside : Finds type content found) (bracket : Bracket) (quiet : Finds type head [])
    (apart : bracket = .curly →
      ∀ before, endsInPath type (head.foldl wordsAfter before) = false) :
    Finds type (head ++ [.group bracket content]) found := by
  intro before
  rw [literals_append, quiet, List.nil_append, literals, literals, literalsWithin, inside]
  cases bracket with
  | curly => simp [literalAt, apart rfl]
  | _ => simp [literalAt]

theorem Finds.field {type : String} {value : List Token} {found : List (List Token)}
    (inside : Finds type value found) (name : String) :
    Finds type (EntryPoint.field name value) found := by
  have framed := ((finds_phrase type (name ++ " :")).append inside).append
    (finds_words type [","])
  rwa [List.nil_append, List.append_nil] at framed

theorem finds_ownedText (type value : String) : Finds type (ownedText value) [] := by
  intro before
  cbv

theorem finds_optionalText (type : String) (value : Option String) :
    Finds type (optionalText value) [] := by
  intro before
  cases value <;> cbv

theorem finds_commas {type : String} {α : Type} {print : α → List Token}
    {found : α → List (List Token)} (each : ∀ value, Finds type (print value) (found value))
    (values : List α) : Finds type (commas (values.map print)) (values.flatMap found) := by
  induction values with
  | nil => exact fun _ => rfl
  | cons value rest ih =>
    cases rest with
    | nil =>
      rw [List.flatMap_singleton]
      exact each value
    | cons next others =>
      rw [List.flatMap_cons]
      have joined := ((each value).append (finds_words type [","])).append ih
      rwa [List.append_nil] at joined

theorem finds_vector {type : String} {α : Type} {print : α → List Token}
    {found : α → List (List Token)} (each : ∀ value, Finds type (print value) (found value))
    (values : List α) : Finds type (vector (values.map print)) (values.flatMap found) :=
  (finds_commas each values).block .square (finds_phrase type _) nofun

/-- A record literal with its path before it. -/
theorem finds_literal {type name : String} {path content : List Token}
    {found : List (List Token)}
    (spelled : path = [.plain "::", .plain "chameleon_runtime", .plain "::", .plain name])
    (inside : Finds type content found) :
    Finds type (path ++ [curly content]) ((if name = type then [content] else []) ++ found) := by
  subst spelled
  intro before
  have within := inside []
  simp [literals, literalAt, literalsWithin, curly, wordsAfter, endsInPath, within]

theorem finds_requirementLiteral (type : String) (requirement : Requirement) :
    Finds type (requirementLiteral requirement)
      (if "PluginDependency" = type then [requirementFields requirement] else []) := by
  have inside : Finds type (requirementFields requirement) [] :=
    ((finds_ownedText type requirement.name).field "name").append
      ((finds_words type [if requirement.soft then "true" else "false"]).field "soft")
  rw [requirementLiteral_eq]
  have found := finds_literal
    (show phrase ":: chameleon_runtime :: PluginDependency" = _ by rfl) inside
  rwa [List.append_nil] at found

theorem finds_dataFields (type : String) (data : Data) :
    Finds type (dataFields data) (data.dependencies.flatMap fun requirement =>
      if "PluginDependency" = type then [requirementFields requirement] else []) := by
  have text (value name : String) : Finds type (field name (ownedText value)) [] :=
    (finds_ownedText type value).field name
  have optional (value : Option String) (name : String) :
      Finds type (field name (optionalText value)) [] :=
    (finds_optionalText type value).field name
  have authors : Finds type (vector (data.authors.map ownedText)) [] := by
    have found := finds_vector (finds_ownedText type) data.authors
    rwa [List.flatMap_eq_nil_iff.mpr fun _ _ => rfl] at found
  have dependencies := finds_vector (finds_requirementLiteral type) data.dependencies
  have named := ((text data.id "id").append (text data.name "name")).append
    (text data.version "version")
  have described := ((named.append (authors.field "authors")).append
    (optional data.description "description")).append (optional data.url "url")
  have whole := (described.append (dependencies.field "dependencies")).append
    (optional data.dataFolder "data_folder")
  rw [dataFields]
  simpa only [List.append_nil, List.nil_append] using whole

/-- A data literal holds one literal for each dependency. -/
theorem finds_dataLiteral (type : String) (data : Data) :
    Finds type (dataLiteral data) ((if "PluginData" = type then [dataFields data] else []) ++
      data.dependencies.flatMap fun requirement =>
        if "PluginDependency" = type then [requirementFields requirement] else []) := by
  rw [dataLiteral_eq]
  exact finds_literal (show phrase ":: chameleon_runtime :: PluginData" = _ by rfl)
    (finds_dataFields type data)

/-! ## The whole entry point -/

theorem finds_enableMethod (type : String) (main : List String) {data : Data}
    {found : List (List Token)} (given : Finds type (dataLiteral data) found) :
    Finds type (enableMethod (main.map .plain) data) found := by
  have before : Finds type (phrase "let" ++ present (phrase "platform") ++
      call "= self . platform . take" [] ++ phrase "else" ++ [curly (phrase "return ;")] ++
      phrase "; let data =") [] := by
    intro before
    cbv
  have load : Finds type (phrase "; let core = match :: chameleon_runtime :: ChameleonBootstrap" ++
      call ":: new" (phrase "platform , data") ++ phrase ". load :: < crate") [] := by
    intro before
    cbv
  have rest : Finds type (call ">" [] ++
      [curly (call ":: core :: result :: Result :: Ok" (phrase "core") ++
        call "=> self . core . insert" (phrase "core") ++ phrase "," ++
        failed (logError "An error occurred while loading Chameleon" ++ phrase "return ;"))] ++
      phrase ";" ++
      ifFailed "core . on_enable"
        (logError "An error occurred while enabling Chameleon")) [] := by
    intro before
    cbv
  have body := (((before.append given).append load).append (finds_words type main)).append rest
  simp only [List.append_assoc, List.nil_append, List.append_nil] at body
  rw [enableMethod]
  refine Finds.block ?_ .curly (fun before => by cbv) fun _ before => by cbv
  simpa only [List.append_assoc] using body

/-- Generated source gives the data of the plugin in one literal, and names the plugins it
builds on in no other place. -/
theorem finds_program (type name : String) {package adapterType : String} {adapter : List Token}
    (spelled : adapter = phrase "::" ++ [.plain package] ++ phrase "::" ++ [.plain adapterType])
    (main : List String) (data : Data) :
    Finds type (program (.plain name) adapter (main.map .plain) data)
      ((if "PluginData" = type then [dataFields data] else []) ++
        data.dependencies.flatMap fun requirement =>
          if "PluginDependency" = type then [requirementFields requirement] else []) := by
  have declared : Finds type (typeDeclaration (.plain name) adapter) [] := by
    subst spelled
    exact fun before => by cbv
  have constructed : Finds type (constructor adapter) [] := by
    subst spelled
    exact fun before => by cbv
  have enabled := finds_enableMethod type main (finds_dataLiteral type data)
  have disabled : Finds type disableMethod [] := fun before => by cbv
  have core : Finds type coreMethod [] := fun before => by cbv
  have methods := ((constructed.append enabled).append disabled).append core
  rw [List.nil_append, List.append_nil, List.append_nil] at methods
  have head : Finds type (phrase "impl" ++ [.plain name]) [] := fun before => by cbv
  have whole := declared.append (methods.block .curly head fun _ before => by cbv)
  rw [List.nil_append, ← List.append_assoc, ← List.append_assoc] at whole
  rw [program, List.append_cons]
  exact whole

/-- Generated source declares a single type. -/
theorem declaredTypes_program (name : String) (adapter main : List Token) (data : Data) :
    declaredTypes (program (.plain name) adapter main data) = [name] := by
  have declaration : phrase "pub struct" = [.plain "pub", .plain "struct"] := by rfl
  have implementation : phrase "impl" = [.plain "impl"] := by rfl
  have mark : phrase "#" = [.plain "#"] := by rfl
  rw [program, typeDeclaration, declaration, implementation, note, mark]
  simp [declaredTypes, curly, square]

end PluginBridge.EntryPoint
