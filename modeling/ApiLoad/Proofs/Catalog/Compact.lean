import ApiLoad.Catalog.Load
import ApiLoad.Proofs.Catalog.Extraction
import ApiLoad.Proofs.Text.Utf8
import ApiLoad.Proofs.Yaml.Compact.Document

/-!
# Descriptions in JSON

A description in compact JSON gives the examples that a reader of the JSON itself finds: one for each
POST operation that shows a value which is not blank, in the order of the names of paths and methods. So
a file with it loads if there is such an operation, and otherwise fails for the lack of examples.
-/
set_option autoImplicit false

namespace ApiLoad

open Yaml (Document)

namespace Json

inductive Blank : Json → Prop
  | null : Blank .null
  | no : Blank (.bool false)
  | zero : Blank (.number (.integer 0))
  | floatZero {x : Binary64} (h : x.isZero = true) : Blank (.number (.float x))
  | noText : Blank (.string "")
  | noItems : Blank (.array [])
  | noFields : Blank (.object [])

def fields? : Json → Option (List (String × Json))
  | .object fields => some fields
  | _ => none

/-- The value at the end of a path of names. -/
def follow? (value : Json) (names : List String) : Option Json :=
  names.foldlM (fun value name => value.get? name) value

/-- The names that lead from an operation to the JSON example of its request body. -/
def examplePath : List String := ["requestBody", "content", "application/json", "example"]

/-- A JSON description shows a value as the example of a POST operation under the names of its path and
its method. -/
inductive Shows (description : Json) : String × String → Json → Prop
  | intro {paths methods : List (String × Json)} {path method : String} {operation shown : Json}
      (hPaths : description.get? "paths" = some (.object paths)) (hPath : (path, .object methods) ∈ paths)
      (hMethod : (method, operation) ∈ methods) (hPost : Posting.SpellsPost method)
      (hShown : operation.follow? examplePath = some shown) (hBlank : ¬ shown.Blank) :
      Shows description (path, method) shown

theorem get?_document (name : String) (value : Json) :
    value.document.get? name = (value.get? name).map document := by
  cases value with
  | object fields =>
    simp only [document, Document.get?, Document.entries?, Document.untagged, get?, fieldDocuments_eq,
      Option.bind_eq_bind, Option.bind_some]
    induction fields with
    | nil => rfl
    | cons field rest ih =>
      obtain ⟨key, value⟩ := field
      rw [field?_cons, List.map_cons, List.find?_cons]
      by_cases hKey : name = key
      · have hFound : Document.isKey name (.scalar (.string key)) = true := by simp [Document.isKey, hKey]
        rw [hFound, if_pos hKey]
        rfl
      · have hOther : Document.isKey name (.scalar (.string key)) = false := by
          simpa [Document.isKey] using Ne.symm hKey
        rw [hOther, if_neg hKey]
        exact ih
  | _ => rfl

theorem entries?_document (value : Json) : value.document.entries? = value.fields?.map fieldDocuments := by
  cases value <;> rfl

theorem blank_of_document : ∀ {value : Json}, value.document.Blank → value.Blank
  | .null, _ => .null
  | .bool _, .no => .no
  | .number _, .zero => .zero
  | .number _, .floatZero h => .floatZero h
  | .string _, .noText => .noText
  | .array [], _ => .noItems
  | .object [], _ => .noFields

theorem Blank.document {value : Json} (h : value.Blank) : value.document.Blank := by
  cases h with
  | null => exact .null
  | no => exact .no
  | zero => exact .zero
  | floatZero h => exact .floatZero h
  | noText => exact .noText
  | noItems => exact .noItems
  | noFields => exact .noEntries

theorem isBlank_document_iff {value : Json} : value.document.isBlank = true ↔ value.Blank :=
  Document.isBlank_iff.trans ⟨blank_of_document, Blank.document⟩

theorem mem_of_field? {fields : List (String × Json)} {name : String} {value : Json}
    (h : field? fields name = some value) : (name, value) ∈ fields := by
  induction fields with
  | nil => cases h
  | cons field rest ih =>
    obtain ⟨key, first⟩ := field
    rw [field?_cons] at h
    split at h
    · rename_i hName
      cases h
      exact hName ▸ List.mem_cons_self
    · exact List.mem_cons_of_mem _ (ih h)

theorem get?_eq_some_iff {value found : Json} {name : String} :
    value.get? name = some found ↔ ∃ fields, value = .object fields ∧ field? fields name = some found := by
  cases value <;> simp [get?]

theorem fields?_eq_some_iff {value : Json} {fields : List (String × Json)} :
    value.fields? = some fields ↔ value = .object fields := by
  cases value <;> simp [fields?]

theorem Portable.get? {value found : Json} {name : String} (h : value.Portable)
    (hFound : value.get? name = some found) : found.Portable := by
  obtain ⟨fields, rfl, hField⟩ := get?_eq_some_iff.1 hFound
  cases h with
  | object _ _ h => exact h _ (mem_of_field? hField)

theorem Portable.follow? {value found : Json} {names : List String} (h : value.Portable)
    (hFound : value.follow? names = some found) : found.Portable := by
  induction names generalizing value with
  | nil =>
    cases hFound
    exact h
  | cons name rest ih =>
    obtain ⟨next, hNext, hRest⟩ := Option.bind_eq_some_iff.1 hFound
    exact ih (h.get? hNext) hRest

def postsOf (methods : Json) : List (String × Json) :=
  (methods.fields?.getD []).filter fun (method, _) => method.map Char.toLower == "post"

def posts (description : Json) : List ((String × String) × Json) :=
  (((description.get? "paths").bind fields?).getD []).flatMap fun (path, methods) =>
    methods.postsOf.map fun (method, operation) => ((path, method), operation)

def example? (operation : Json) : Option Json :=
  (operation.follow? examplePath).filter fun shown => !shown.document.isBlank

def examples (description : Json) : List ((String × String) × Json) :=
  description.posts.filterMap fun (place, operation) =>
    operation.example?.map fun shown => (place, shown)

theorem ofPath_document (path : String) (methods : Json) :
    Posting.ofPath (.scalar (.string path), methods.document) =
      methods.postsOf.map fun method => ⟨path, method.2.document⟩ := by
  cases methods with
  | object fields =>
    show ((fieldDocuments fields).filter _).map _ = _
    rw [fieldDocuments_eq, List.filter_map, List.map_map]
    rfl
  | _ => rfl

theorem all_document (description : Json) : Posting.all description.document =
    description.posts.map fun post => ⟨post.1.1, post.2.document⟩ := by
  have hFields : (description.document.get? "paths").bind Document.entries? =
      ((description.get? "paths").bind fields?).map fieldDocuments := by
    rw [get?_document]
    cases description.get? "paths" with
    | none => rfl
    | some value => exact entries?_document value
  rw [Posting.all, posts, hFields, List.map_flatMap]
  cases (description.get? "paths").bind fields? with
  | none => rfl
  | some fields =>
    rw [Option.map_some, Option.getD_some, Option.getD_some, fieldDocuments_eq, List.flatMap_map]
    refine List.flatMap_congr fun entry _ => ?_
    rw [List.map_map]
    exact ofPath_document entry.1 entry.2

theorem follow?_document (value : Json) (names : List String) :
    names.foldlM (fun value name => value.get? name) value.document =
      (value.follow? names).map document := by
  induction names generalizing value with
  | nil => rfl
  | cons name rest ih =>
    rw [follow?, List.foldlM_cons, List.foldlM_cons, get?_document]
    cases value.get? name with
    | none => rfl
    | some next => exact ih next

theorem example?_document (operation : Json) (path : String) :
    (Posting.mk path operation.document).example?.filter (!·.isBlank) =
      operation.example?.map document := by
  have hExample : (Posting.mk path operation.document).example? =
      (operation.follow? examplePath).map document := by
    simpa [Posting.example?, examplePath] using follow?_document operation examplePath
  rw [hExample, example?, Option.filter_map]
  rfl

theorem Portable.entry?_look {operation : Json} (h : operation.Portable) (path : String) :
    (Posting.mk path operation.document).look.entry? =
      operation.example?.map fun shown => ⟨path, shown⟩ := by
  rw [Posting.look, example?_document]
  cases hShown : operation.example? with
  | none => rfl
  | some shown =>
    have hFound := (Option.filter_eq_some_iff.1 hShown).1
    simp only [Option.map_some, (h.follow? hFound).denotes.toJson]
    rfl

theorem Portable.pairwise_posts {description : Json} (h : description.Portable) :
    description.posts.Pairwise fun a b => Prod.Lex (· < ·) (· < ·) a.1 b.1 := by
  have hInner {methods : Json} (hMethods : methods.Portable) :
      methods.postsOf.Pairwise fun a b => a.1 < b.1 := by
    cases hMethods with
    | object hAscending _ _ => exact hAscending.filter _
    | _ => exact .nil
  rw [posts]
  cases hPaths : (description.get? "paths").bind fields? with
  | none => exact .nil
  | some paths =>
    obtain ⟨value, hValue, hFields⟩ := Option.bind_eq_some_iff.1 hPaths
    obtain rfl := fields?_eq_some_iff.1 hFields
    cases h.get? hValue with
    | object hAscending _ hPortable =>
      refine List.pairwise_flatMap.2 ⟨fun field hField => ?_, hAscending.imp fun hLess a ha b hb => ?_⟩
      · exact List.pairwise_map.2 ((hInner (hPortable field hField)).imp fun hLess => .right _ hLess)
      · obtain ⟨_, -, rfl⟩ := List.mem_map.1 ha
        obtain ⟨_, -, rfl⟩ := List.mem_map.1 hb
        exact .left _ _ hLess

theorem Portable.pairwise_examples {description : Json} (h : description.Portable) :
    (description.examples.map (·.1)).Pairwise (Prod.Lex (· < ·) (· < ·)) := by
  refine List.pairwise_map.2 (List.pairwise_filterMap.2 (h.pairwise_posts.imp fun hLess a ha b hb => ?_))
  obtain ⟨_, -, rfl⟩ := Option.map_eq_some_iff.1 ha
  obtain ⟨_, -, rfl⟩ := Option.map_eq_some_iff.1 hb
  exact hLess

theorem exists_of_mem_getD {α : Type} {items? : Option (List α)} {item : α} (h : item ∈ items?.getD []) :
    ∃ items, items? = some items ∧ item ∈ items := by
  cases items? with
  | none => cases h
  | some items => exact ⟨items, rfl, h⟩

theorem mem_posts {description operation : Json} {path method : String} :
    ((path, method), operation) ∈ description.posts ↔ ∃ paths methods,
      description.get? "paths" = some (.object paths) ∧ (path, .object methods) ∈ paths ∧
        (method, operation) ∈ methods ∧ Posting.SpellsPost method := by
  constructor
  · intro h
    obtain ⟨⟨key, value⟩, hPath, hMem⟩ := List.mem_flatMap.1 h
    obtain ⟨⟨name, found⟩, hMethod, hPlace⟩ := List.mem_map.1 hMem
    cases hPlace
    obtain ⟨hMethod, hPost⟩ := List.mem_filter.1 hMethod
    obtain ⟨paths, hPaths, hPath⟩ := exists_of_mem_getD hPath
    obtain ⟨value', hValue, hFields⟩ := Option.bind_eq_some_iff.1 hPaths
    obtain ⟨methods, hMethods, hMethod⟩ := exists_of_mem_getD hMethod
    obtain rfl := fields?_eq_some_iff.1 hFields
    obtain rfl := fields?_eq_some_iff.1 hMethods
    exact ⟨paths, methods, hValue, hPath, hMethod, (Posting.map_toLower_eq_iff method).1 (beq_iff_eq.1 hPost)⟩
  · rintro ⟨paths, methods, hPaths, hPath, hMethod, hPost⟩
    refine List.mem_flatMap.2 ⟨(path, .object methods), ?_, List.mem_map.2 ⟨(method, operation), ?_, rfl⟩⟩
    · rw [hPaths]
      exact hPath
    · exact List.mem_filter.2 ⟨hMethod, beq_iff_eq.2 ((Posting.map_toLower_eq_iff method).2 hPost)⟩

theorem example?_eq_some_iff {operation shown : Json} : operation.example? = some shown ↔
    operation.follow? examplePath = some shown ∧ ¬ shown.Blank := by
  rw [example?, Option.filter_eq_some_iff, ← isBlank_document_iff]
  simp

theorem mem_examples {description template : Json} {place : String × String} :
    (place, template) ∈ description.examples ↔ description.Shows place template := by
  constructor
  · intro h
    obtain ⟨⟨⟨path, method⟩, operation⟩, hMem, hFound⟩ := List.mem_filterMap.1 h
    obtain ⟨shown, hShown, hPair⟩ := Option.map_eq_some_iff.1 hFound
    cases hPair
    obtain ⟨paths, methods, hPaths, hPath, hMethod, hPost⟩ := mem_posts.1 hMem
    obtain ⟨hShown, hBlank⟩ := example?_eq_some_iff.1 hShown
    exact .intro hPaths hPath hMethod hPost hShown hBlank
  · rintro ⟨hPaths, hPath, hMethod, hPost, hShown, hBlank⟩
    refine List.mem_filterMap.2 ⟨_, mem_posts.2 ⟨_, _, hPaths, hPath, hMethod, hPost⟩, ?_⟩
    exact Option.map_eq_some_iff.2 ⟨_, example?_eq_some_iff.2 ⟨hShown, hBlank⟩, rfl⟩

theorem Portable.of_mem_posts {description operation : Json} (h : description.Portable)
    {place : String × String} (hMem : (place, operation) ∈ description.posts) : operation.Portable := by
  obtain ⟨path, method⟩ := place
  obtain ⟨paths, methods, hPaths, hPath, hMethod, -⟩ := mem_posts.1 hMem
  cases h.get? hPaths with
  | object _ _ hPortable =>
    cases hPortable _ hPath with
    | object _ _ hPortable => exact hPortable _ hMethod

theorem Portable.extract_document {description : Json} (h : description.Portable) :
    (extract description.document).1 =
      description.examples.map fun entry => ⟨entry.1.1, entry.2⟩ := by
  rw [extract, all_document, examples, List.map_filterMap, List.filterMap_map, List.filterMap_map]
  refine List.filterMap_congr fun post hMem => ?_
  show (Posting.mk post.1.1 post.2.document).look.entry? = _
  rw [(h.of_mem_posts hMem).entry?_look, Option.map_map]
  rfl

def file (value : Json) : File := .bytes value.compact.toUTF8.data.toList

theorem Portable.load_file {description : Json} (h : description.Portable)
    (hDepth : description.depth ≤ Document.maxDepth) (complaint : String → String) (path : String) :
    (Catalog.load complaint path description.file).1 =
      Catalog.ofExamples (extract description.document).1 := by
  have hText : description.file.text = .ok description.compact := by
    rw [file, File.text, Text.Utf8.decode?_toUTF8]
  rw [Catalog.load, File.description, hText]
  simp only [h.parse?_compact hDepth]

end Json

/-- A portable description in compact JSON is read as the JSON it is, and gives the examples that the JSON
shows, in the order of the names of paths and methods. A file with it fails to load only for the lack of
examples. -/
theorem compact_descriptions_load {description : Json} (h : description.Portable)
    (hDepth : description.depth ≤ 100) (complaint : String → String) (path : String) :
    ∃ (document : Document) (shown : List ((String × String) × Json)),
      Document.parse? description.compact = some document ∧ document.toJson = .ok description ∧
      (extract document).1 = shown.map (fun entry => ⟨entry.1.1, entry.2⟩) ∧
      (shown.map (·.1)).Pairwise (Prod.Lex (· < ·) (· < ·)) ∧
      (∀ place template, (place, template) ∈ shown ↔ description.Shows place template) ∧
      (∀ error, (Catalog.load complaint path description.file).1 = .error error ↔
        error = .noExamples ∧ ∀ place template, ¬ description.Shows place template) ∧
      ∀ catalog, (Catalog.load complaint path description.file).1 = .ok catalog →
        catalog.examples = (extract document).1 := by
  have hDepth : description.depth ≤ Document.maxDepth := hDepth.trans (by decide)
  have hExtract := h.extract_document
  refine ⟨description.document, description.examples, h.parse?_compact hDepth, h.denotes.toJson, hExtract,
    h.pairwise_examples, fun place template => Json.mem_examples, fun error => ?_, fun catalog hCatalog => ?_⟩
  · rw [h.load_file hDepth, Catalog.ofExamples_eq_error_iff, hExtract, List.map_eq_nil_iff,
      List.eq_nil_iff_forall_not_mem, Prod.forall]
    simp only [Json.mem_examples]
  · rw [h.load_file hDepth] at hCatalog
    exact Catalog.ofExamples_eq_ok_iff.1 hCatalog

theorem Json.Portable.field {name : String} {value : Json} (hName : IsPlain name ∧ name.length ≤ 500)
    (h : value.Portable) : (Json.object [(name, value)]).Portable := by
  refine .object (List.pairwise_singleton ..) (fun field hField => ?_) fun field hField => ?_
  · exact List.mem_singleton.1 hField ▸ hName
  · exact List.mem_singleton.1 hField ▸ h

/-- One operation, under a path that is full of marks. -/
def markedDescription : Json :=
  .object [("paths", .object [("/\"a\": [#1, \\]", .object [("Post", .object [("requestBody",
    .object [("content", .object [("application/json", .object [("example",
      .array [.string "- &a !b: #c", .ofInt (-1)])])])])])])])]

theorem markedDescription_loads : markedDescription.Portable ∧ markedDescription.depth ≤ 100 ∧
    ∀ complaint, ∃ catalog, (Catalog.load complaint "api.json" markedDescription.file).1 = .ok catalog ∧
      ⟨"/\"a\": [#1, \\]", .array [.string "- &a !b: #c", .ofInt (-1)]⟩ ∈ catalog.examples := by
  have hPortable : markedDescription.Portable := by
    refine .field (by decide) (.field (by decide) (.field (by decide) (.field (by decide)
      (.field (by decide) (.field (by decide) (.field (by decide) (.array fun item hItem => ?_)))))))
    rcases List.mem_pair.1 hItem with rfl | rfl
    · exact .string (by decide)
    · exact .integer (by decide)
  have hDepth : markedDescription.depth ≤ 100 := by decide
  have hShows : markedDescription.Shows ("/\"a\": [#1, \\]", "Post")
      (.array [.string "- &a !b: #c", .ofInt (-1)]) := by
    refine .intro rfl List.mem_cons_self List.mem_cons_self ?_ rfl nofun
    exact ⟨'P', by decide, 'o', by decide, 's', by decide, 't', by decide, rfl⟩
  refine ⟨hPortable, hDepth, fun complaint => ?_⟩
  obtain ⟨document, shown, -, -, hExtract, -, hShown, hError, hCatalog⟩ :=
    compact_descriptions_load hPortable hDepth complaint "api.json"
  cases hLoad : (Catalog.load complaint "api.json" markedDescription.file).1 with
  | error error => exact absurd hShows (((hError error).1 hLoad).2 _ _)
  | ok catalog =>
    refine ⟨catalog, rfl, ?_⟩
    rw [hCatalog catalog hLoad, hExtract]
    exact List.mem_map.2 ⟨_, (hShown _ _).2 hShows, rfl⟩

end ApiLoad
