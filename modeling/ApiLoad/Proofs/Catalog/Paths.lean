import ApiLoad.Proofs.Catalog.Extraction
import ApiLoad.Proofs.Program.Hurdles
import ApiLoad.Proofs.Yaml.Distinct
import Mathlib.Data.List.Nodup

/-!
# Paths of a catalog

The paths are those of the examples, in the order of their places. No key comes twice in a description,
but keys are told apart by their tags and by the case of their letters, and an operation is found
whatever these are. So a path is listed once for each way in which the description writes it with the
method of an operation that gives an example.
-/
set_option autoImplicit false

namespace ApiLoad

open Yaml (Document)

namespace Posting

/-- How a description writes an operation: the tags of its path and of its method, the outermost first,
and the letters of the method. -/
structure Writing where
  pathTags : List String
  methodTags : List String
  method : String
deriving DecidableEq, Inhabited

/-- The keys of the entry at a place. -/
inductive WrittenAt (description : Document) (path : String) : Place → Writing → Prop
  | intro {value methods operation : Document} {paths entries : List (Document × Document)}
      {writing : Writing} {i j : Nat} (hPaths : description.Member "paths" value)
      (hEntries : value.Wraps (.mapping paths))
      (hPath : paths[i]? = some (.labelled writing.pathTags path, methods))
      (hMethods : methods.Wraps (.mapping entries))
      (hMethod : entries[j]? = some (.labelled writing.methodTags writing.method, operation)) :
      WrittenAt description path (i, j) writing

/-- An operation that is so written gives an example for the path. -/
def ShownAs (description : Document) (path : String) (writing : Writing) : Prop :=
  ∃ place template, Gives description place ⟨path, template⟩ ∧ WrittenAt description path place writing

theorem PostAt.exists_written {description : Document} {place : Place} {posting : Posting}
    (h : PostAt description place posting) :
    ∃ writing, WrittenAt description posting.path place writing := by
  obtain ⟨hPaths, hEntries, hPath, hKey, hMethods, hMethod, hName, -⟩ := h
  obtain ⟨pathTags, rfl⟩ := Document.wraps_text_iff.mp hKey
  obtain ⟨methodTags, rfl⟩ := Document.wraps_text_iff.mp hName
  exact ⟨⟨pathTags, methodTags, _⟩, .intro hPaths hEntries hPath hMethods hMethod⟩

theorem WrittenAt.eq {description : Document} {path : String} {place : Place}
    {writing other : Writing} (h : WrittenAt description path place writing)
    (hOther : WrittenAt description path place other) : writing = other := by
  obtain ⟨hPaths, hEntries, hPath, hMethods, hMethod⟩ := h
  obtain ⟨hPaths', hEntries', hPath', hMethods', hMethod'⟩ := hOther
  cases hPaths.eq hPaths'
  cases hEntries.entries_eq hEntries'
  obtain ⟨hKey, rfl⟩ := Prod.mk.inj (Option.some.inj (hPath.symm.trans hPath'))
  cases hMethods.entries_eq hMethods'
  obtain ⟨hName, -⟩ := Prod.mk.inj (Option.some.inj (hMethod.symm.trans hMethod'))
  obtain ⟨hPathTags, -⟩ := Document.labelled_inj hKey
  obtain ⟨hMethodTags, hLetters⟩ := Document.labelled_inj hName
  cases writing
  cases other
  cases hPathTags
  cases hMethodTags
  cases hLetters
  rfl

/-- What is written in the same way is at the same place. -/
theorem WrittenAt.place_eq {description : Document} (hDistinct : description.Distinct) {path : String}
    {place other : Place} {writing : Writing} (h : WrittenAt description path place writing)
    (hOther : WrittenAt description path other writing) : place = other := by
  obtain ⟨hPaths, hEntries, hPath, hMethods, hMethod⟩ := h
  obtain ⟨hPaths', hEntries', hPath', hMethods', hMethod'⟩ := hOther
  cases hPaths.eq hPaths'
  cases hEntries.entries_eq hEntries'
  cases (hDistinct.of_member hPaths).of_wraps hEntries with
  | mapping hKeys hValues =>
    obtain rfl := Document.index_eq_of_distinctKeys hKeys hPath hPath'
    cases hPath.symm.trans hPath'
    cases hMethods.entries_eq hMethods'
    cases (hValues _ (List.mem_of_getElem? hPath)).of_wraps hMethods with
    | mapping hNames _ =>
      obtain rfl := Document.index_eq_of_distinctKeys hNames hMethod hMethod'
      rfl

def placesOf (description : Document) (path : String) : List Place :=
  ((shown description).filter (·.2.path == path)).map (·.1)

theorem mem_placesOf {description : Document} {path : String} {place : Place} :
    place ∈ placesOf description path ↔ ∃ template, Gives description place ⟨path, template⟩ := by
  simp only [placesOf, List.mem_map, List.mem_filter, beq_iff_eq]
  constructor
  · rintro ⟨⟨_, _, template⟩, ⟨hMem, rfl⟩, rfl⟩
    exact ⟨template, mem_shown.mp hMem⟩
  · rintro ⟨template, hGives⟩
    exact ⟨(place, ⟨path, template⟩), ⟨mem_shown.mpr hGives, rfl⟩, rfl⟩

theorem nodup_placesOf (description : Document) (path : String) :
    (placesOf description path).Nodup := by
  have hShown : ((shown description).map (·.1)).Nodup := by
    refine (pairwise_placed description _).imp fun hBefore hSame => ?_
    subst hSame
    exact irrefl_of (Prod.Lex (· < ·) (· < ·)) _ hBefore
  exact hShown.sublist (List.filter_sublist.map _)

theorem length_placesOf (description : Document) (path : String) :
    (placesOf description path).length = ((shown description).map (·.2.path)).count path := by
  rw [placesOf, List.length_map, List.count, List.countP_map, List.countP_eq_length_filter]
  rfl

/-- The ways in which a path is written with an example, of which there are as many as examples. -/
theorem exists_writings {description : Document} (hDistinct : description.Distinct) (path : String) :
    ∃ writings : List Writing, writings.Nodup ∧
      (∀ writing, writing ∈ writings ↔ ShownAs description path writing) ∧
      ((shown description).map (·.2.path)).count path = writings.length := by
  have hWritten : ∀ place ∈ placesOf description path,
      ∃ writing, WrittenAt description path place writing := by
    intro place hPlace
    obtain ⟨template, hPost, -⟩ := mem_placesOf.mp hPlace
    exact hPost.exists_written
  choose! write hWrite using hWritten
  refine ⟨(placesOf description path).map write, ?_, fun writing => ?_, ?_⟩
  · refine List.Nodup.map_on ?_ (nodup_placesOf description path)
    intro place hPlace other hOther hSame
    exact (hWrite place hPlace).place_eq hDistinct (hSame ▸ hWrite other hOther)
  · rw [List.mem_map]
    constructor
    · rintro ⟨place, hPlace, rfl⟩
      obtain ⟨template, hGives⟩ := mem_placesOf.mp hPlace
      exact ⟨place, template, hGives, hWrite place hPlace⟩
    · rintro ⟨place, template, hGives, hWriting⟩
      have hPlace := mem_placesOf.mpr ⟨template, hGives⟩
      exact ⟨place, hPlace, (hWrite place hPlace).eq hWriting⟩
  · rw [List.length_map, length_placesOf]

theorem nodup_paths_iff {description : Document} (hDistinct : description.Distinct) :
    ((shown description).map (·.2.path)).Nodup ↔ ∀ path writing other,
      ShownAs description path writing → ShownAs description path other → writing = other := by
  rw [List.nodup_iff_count_le_one]
  refine forall_congr' fun path => ?_
  obtain ⟨writings, hNodup, hMem, hCount⟩ := exists_writings hDistinct path
  simp only [hCount, ← hMem]
  constructor
  · intro hOne writing other hWriting hOther
    match writings, hOne with
    | [], _ => cases hWriting
    | [_], _ => rw [List.mem_singleton.mp hWriting, List.mem_singleton.mp hOther]
  · intro hSame
    match writings, hNodup with
    | [], _ => exact Nat.zero_le 1
    | [_], _ => exact Nat.le_refl 1
    | first :: second :: rest, hNodup =>
      have hEq := hSame first second List.mem_cons_self (List.mem_cons_of_mem _ List.mem_cons_self)
      exact absurd (hEq ▸ List.mem_cons_self) (List.nodup_cons.mp hNodup).1

end Posting

/-- Whether a file loads does not depend on what is said of texts that do not parse. -/
theorem Catalog.load_eq_ok_iff {complaint : String → String} {path : String} {file : File}
    {catalog : Catalog} : (load complaint path file).1 = .ok catalog ↔ ∃ text description,
      file.Holds text ∧ Document.parse? text = some description ∧
        catalog.examples = (extract description).1 := by
  simp only [← ofExamples_eq_ok_iff]
  rw [load, File.description]
  constructor
  · intro h
    cases hText : file.text with
    | error reason => simp [hText] at h
    | ok text =>
      cases hParse : Document.parse? text with
      | none => simp [hText, hParse] at h
      | some description =>
        simp only [hText, hParse] at h
        exact ⟨text, description, File.text_eq_ok_iff.mp hText, hParse, h⟩
  · rintro ⟨text, description, hHolds, hParse, h⟩
    simp only [File.text_eq_ok_iff.mpr hHolds, hParse]
    exact h

theorem Program.after_start {world : World} {overrides : Overrides} {catalog : Catalog}
    (hValid : (world.chosen overrides).validate = .ok ())
    (hLoad : (Catalog.load world.complaint (world.chosen overrides).description
      (world.fileAt (world.chosen overrides).description)).1 = .ok catalog) :
    (start world overrides).after = [foundLine catalog] := by
  unfold start
  dsimp only
  unfold World.chosen at hValid hLoad
  rw [hValid]
  dsimp only
  rw [hLoad]

/-- A catalog lists the path of every example, in the order of places, and so does the line that announces
it. A path is listed once for each way in which it is written with an example. -/
theorem Catalog.paths_follow_writings {complaint : String → String} {name : String} {file : File}
    {catalog : Catalog} (hLoad : (Catalog.load complaint name file).1 = .ok catalog) :
    ∃ (description : Document) (shown : List (Posting.Place × Example)),
      file.description complaint name = .ok description ∧
      (shown.map (·.1)).Pairwise Posting.Before ∧
      (∀ place entry, (place, entry) ∈ shown ↔ Posting.Gives description place entry) ∧
      catalog.paths = shown.map (·.2.path) ∧
      (∀ path, ∃ writings : List Posting.Writing, writings.Nodup ∧
        (∀ writing, writing ∈ writings ↔ Posting.ShownAs description path writing) ∧
        catalog.paths.count path = writings.length) ∧
      (catalog.paths.Nodup ↔ ∀ path writing other, Posting.ShownAs description path writing →
        Posting.ShownAs description path other → writing = other) ∧
      ∀ (world : Program.World) (overrides : Overrides),
        (world.chosen overrides).validate = .ok () →
        (world.chosen overrides).description = name → world.fileAt name = file →
        (Program.start world overrides).after = [Log.info ("Found " ++ natText shown.length ++
          " POST endpoints with examples: " ++ ", ".intercalate (shown.map (·.2.path)))] := by
  obtain ⟨text, description, hHolds, hParse, hExamples⟩ := load_eq_ok_iff.mp hLoad
  have hDescription : file.description complaint name = .ok description := by
    simp only [File.description, File.text_eq_ok_iff.mpr hHolds, hParse]
  have hDistinct := Document.distinct_of_parse? hParse
  have hShown : catalog.examples = (Posting.shown description).map (·.2) := by
    rw [hExamples, Posting.map_shown]
  have hPaths : catalog.paths = (Posting.shown description).map (·.2.path) := by
    rw [Catalog.paths, hShown, List.map_map]
    rfl
  refine ⟨description, Posting.shown description, hDescription, Posting.pairwise_placed .., ?_, hPaths,
    ?_, ?_, ?_⟩
  · intro place entry
    exact Posting.mem_shown
  · rw [hPaths]
    exact Posting.exists_writings hDistinct
  · rw [hPaths]
    exact Posting.nodup_paths_iff hDistinct
  · rintro world overrides hValid rfl rfl
    have hStart := Program.after_start hValid
      (load_eq_ok_iff.mpr ⟨text, description, hHolds, hParse, hExamples⟩)
    rw [hStart, Program.foundLine, hPaths, Catalog.size, hShown, List.length_map]

namespace Twice

def operation (shown : String) : String :=
  "   requestBody:\n    content:\n     application/json:\n      example: " ++ shown ++ "\n"

/-- The method of a path in small and in capital letters. -/
def spelled : String := "paths:\n /a:\n  post:\n" ++ operation "1" ++ "  POST:\n" ++ operation "2"

/-- A path with and without a tag. -/
def tagged : String :=
  "paths:\n /a:\n  post:\n" ++ operation "1" ++ " !old /a:\n  post:\n" ++ operation "2"

def file (text : String) : File := .bytes text.toUTF8.toList

def complaint (_ : String) : String := ""

def world (text : String) : Program.World where
  environment := []
  fileAt _ := file text
  complaint := complaint
  client _ := .ok ()
  source _ := .cyclic #[0]
  users := pure "ada"

theorem exists_catalog (text : String) {paths : List String}
    (h : ((Catalog.load complaint "openapi.yaml" (file text)).1.toOption.map Catalog.paths) = some paths) :
    ∃ catalog, (Catalog.load complaint "openapi.yaml" (file text)).1 = .ok catalog ∧
      catalog.paths = paths := by
  obtain ⟨catalog, hLoad, hPaths⟩ := Option.map_eq_some_iff.mp h
  cases hResult : (Catalog.load complaint "openapi.yaml" (file text)).1 with
  | error reason =>
    rw [hResult] at hLoad
    cases hLoad
  | ok =>
    rw [hResult] at hLoad
    cases hLoad
    exact ⟨catalog, rfl, hPaths⟩

end Twice

/-- Two spellings of the method make a path come twice. -/
theorem Catalog.paths_of_spelled : ∃ catalog,
    (Catalog.load Twice.complaint "openapi.yaml" (Twice.file Twice.spelled)).1 = .ok catalog ∧
      catalog.paths = ["/a", "/a"] :=
  Twice.exists_catalog Twice.spelled (by decide +kernel)

/-- Two keys of a path make it come twice. -/
theorem Catalog.paths_of_tagged : ∃ catalog description,
    (Catalog.load Twice.complaint "openapi.yaml" (Twice.file Twice.tagged)).1 = .ok catalog ∧
      (Twice.file Twice.tagged).description Twice.complaint "openapi.yaml" = .ok description ∧
      (∃ writing other, Posting.ShownAs description "/a" writing ∧
        Posting.ShownAs description "/a" other ∧ writing ≠ other) ∧
      (Program.start (Twice.world Twice.tagged) {}).after =
        [Log.info "Found 2 POST endpoints with examples: /a, /a"] := by
  obtain ⟨catalog, hLoad, hListed⟩ : ∃ catalog,
      (Catalog.load Twice.complaint "openapi.yaml" (Twice.file Twice.tagged)).1 = .ok catalog ∧
        catalog.paths = ["/a", "/a"] :=
    Twice.exists_catalog Twice.tagged (by decide +kernel)
  obtain ⟨description, shown, hDescription, -, -, hPaths, hWritings, -, hLine⟩ :=
    Catalog.paths_follow_writings hLoad
  refine ⟨catalog, description, hLoad, hDescription, ?_, ?_⟩
  · obtain ⟨writings, hNodup, hMem, hCount⟩ := hWritings "/a"
    rw [hListed] at hCount
    match writings, hCount with
    | [first, second], _ =>
      refine ⟨first, second, (hMem first).mp (by simp), (hMem second).mp (by simp), ?_⟩
      rintro rfl
      simp at hNodup
  · have hLength : shown.length = 2 := by
      rw [← List.length_map (f := (·.2.path)), ← hPaths, hListed]
      rfl
    have hLog := hLine (Twice.world Twice.tagged) {} (by decide +kernel) (by decide +kernel) rfl
    rw [hLog, ← hPaths, hListed, hLength]
    exact congrArg (fun message => [Log.info message]) (by decide +kernel)

end ApiLoad
