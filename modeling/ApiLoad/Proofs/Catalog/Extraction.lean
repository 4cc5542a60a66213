import ApiLoad.Catalog.Extract
import ApiLoad.Proofs.Text.Lower
import ApiLoad.Proofs.Yaml.Conversion
import ApiLoad.Proofs.Yaml.Document
import Mathlib.Data.Prod.Lex

/-!
# Extraction is sound and complete

Every POST operation of a description has a place: that of its path among the entries of `paths`, and
its own among the methods of the path. The catalog has an example for exactly the places that show a
value that is not blank and has a JSON form, and the log a line for each of the other places, both in
the order of places.
-/
set_option autoImplicit false

namespace ApiLoad

open Yaml (Document KeyError)

theorem pairwise_zipIdx {α : Type} (items : List α) (start : Nat) :
    (items.zipIdx start).Pairwise fun a b => a.2 < b.2 := by
  induction items generalizing start with
  | nil => exact .nil
  | cons item rest ih =>
    exact List.pairwise_cons.mpr ⟨fun later hLater => List.le_snd_of_mem_zipIdx hLater, ih (start + 1)⟩

namespace Posting

abbrev Place := Nat × Nat

def Before : Place → Place → Prop := Prod.Lex (· < ·) (· < ·)

def SpellsPost (name : String) : Prop :=
  ∃ p ∈ ['p', 'P'], ∃ o ∈ ['o', 'O'], ∃ s ∈ ['s', 'S'], ∃ t ∈ ['t', 'T'],
    name = String.ofList [p, o, s, t]

/-- The entry at a place is a POST operation. -/
inductive PostAt (description : Document) : Place → Posting → Prop
  | intro {value key methods method operation : Document}
      {paths entries : List (Document × Document)} {path name : String} {i j : Nat}
      (hPaths : description.Member "paths" value) (hEntries : value.Wraps (.mapping paths))
      (hPath : paths[i]? = some (key, methods)) (hKey : key.Wraps (.scalar (.string path)))
      (hMethods : methods.Wraps (.mapping entries))
      (hMethod : entries[j]? = some (method, operation))
      (hName : method.Wraps (.scalar (.string name))) (hPost : SpellsPost name) :
      PostAt description (i, j) ⟨path, operation⟩

inductive Shows (operation shown : Document) : Prop
  | intro {body content media : Document} (hBody : operation.Member "requestBody" body)
      (hContent : body.Member "content" content) (hMedia : content.Member "application/json" media)
      (hShown : media.Member "example" shown)

/-- The operation at a place gives an example. -/
inductive Gives (description : Document) (place : Place) : Example → Prop
  | intro {path : String} {operation shown : Document} {template : Json}
      (hPost : PostAt description place ⟨path, operation⟩) (hShows : Shows operation shown)
      (hBlank : ¬ shown.Blank) (hKeys : ∀ key, shown.HasKey key → ∀ reason, ¬ key.Fault reason)
      (hForm : shown.Denotes template) : Gives description place ⟨path, template⟩

/-- The operation at a place gives a line of the log and no example. -/
inductive Misses (description : Document) (place : Place) : Log.Entry → Prop
  | absent {path : String} {operation : Document}
      (hPost : PostAt description place ⟨path, operation⟩)
      (hBlank : ∀ shown, Shows operation shown → shown.Blank) :
      Misses description place
        ⟨.debug, "POST " ++ path ++ " has no usable JSON example, skipping", []⟩
  | unrepresentable {path : String} {operation shown key : Document} {reason : KeyError}
      (hPost : PostAt description place ⟨path, operation⟩) (hShows : Shows operation shown)
      (hBlank : ¬ shown.Blank) (hKey : shown.HasKey key) (hFault : key.Fault reason) :
      Misses description place
        ⟨.warn, "POST " ++ path ++ " example is not representable as JSON: " ++ reason.message, []⟩

theorem map_toLower_eq_iff (name : String) :
    name.map Char.toLower = "post" ↔ SpellsPost name := by
  have hLetter (lower upper : Char) {c : Char} (hLower : 97 ≤ lower.toNat ∧ lower.toNat ≤ 122)
      (hUpper : upper.toNat + 32 = lower.toNat) : c.toLower = lower ↔ c ∈ [lower, upper] := by
    simpa using Text.toLower_eq_iff hLower hUpper
  rw [← String.toList_inj, String.toList_map]
  constructor
  · intro h
    obtain ⟨p, rest, hName, hP, h⟩ := List.map_eq_cons_iff.mp h
    obtain ⟨o, rest, rfl, hO, h⟩ := List.map_eq_cons_iff.mp h
    obtain ⟨s, rest, rfl, hS, h⟩ := List.map_eq_cons_iff.mp h
    obtain ⟨t, rest, rfl, hT, h⟩ := List.map_eq_cons_iff.mp h
    obtain rfl := List.map_eq_nil_iff.mp h
    refine ⟨p, (hLetter 'p' 'P' (by decide) (by decide)).mp hP,
      o, (hLetter 'o' 'O' (by decide) (by decide)).mp hO,
      s, (hLetter 's' 'S' (by decide) (by decide)).mp hS,
      t, (hLetter 't' 'T' (by decide) (by decide)).mp hT, ?_⟩
    rw [← hName, String.ofList_toList]
  · rintro ⟨p, hP, o, hO, s, hS, t, hT, rfl⟩
    have hP := (hLetter 'p' 'P' (by decide) (by decide)).mpr hP
    have hO := (hLetter 'o' 'O' (by decide) (by decide)).mpr hO
    have hS := (hLetter 's' 'S' (by decide) (by decide)).mpr hS
    have hT := (hLetter 't' 'T' (by decide) (by decide)).mpr hT
    simp [hP, hO, hS, hT]

theorem isPost_iff {method : Document} :
    isPost method = true ↔ ∃ name, method.Wraps (.scalar (.string name)) ∧ SpellsPost name := by
  simp only [isPost, ← Document.text?_eq_some_iff, ← map_toLower_eq_iff]
  cases method.text? <;> simp

def locatedOf (entry : Document × Document) : List (Nat × Posting) :=
  match entry.1.text?, entry.2.entries? with
  | some path, some methods =>
    (methods.zipIdx.filter fun (entry, _) => isPost entry.1).map fun (entry, j) =>
      (j, ⟨path, entry.2⟩)
  | _, _ => []

def located (description : Document) : List (Place × Posting) :=
  (((description.get? "paths").bind Document.entries?).getD []).zipIdx.flatMap fun (entry, i) =>
    (locatedOf entry).map fun (j, posting) => ((i, j), posting)

theorem map_snd_locatedOf (entry : Document × Document) :
    (locatedOf entry).map (·.2) = ofPath entry := by
  obtain ⟨key, value⟩ := entry
  simp only [locatedOf, ofPath]
  cases key.text? with
  | none => rfl
  | some path =>
    cases value.entries? with
    | none => rfl
    | some methods =>
      dsimp only
      conv_rhs => rw [← List.zipIdx_map_fst 0 methods, List.filter_map, List.map_map]
      rw [List.map_map]
      rfl

theorem pairwise_locatedOf (entry : Document × Document) :
    (locatedOf entry).Pairwise fun a b => a.1 < b.1 := by
  unfold locatedOf
  split
  · exact List.pairwise_map.mpr ((pairwise_zipIdx _ 0).filter _)
  · exact .nil

theorem mem_locatedOf {key methods : Document} {j : Nat} {posting : Posting} :
    (j, posting) ∈ locatedOf (key, methods) ↔
      key.Wraps (.scalar (.string posting.path)) ∧ ∃ entries method,
        methods.Wraps (.mapping entries) ∧ entries[j]? = some (method, posting.operation) ∧
        isPost method = true := by
  simp only [← Document.text?_eq_some_iff, ← Document.entries?_eq_some_iff]
  unfold locatedOf
  split
  · rename_i path entries hPath hEntries
    simp only [List.mem_map, List.mem_filter, List.mem_zipIdx_iff_getElem?, hPath, hEntries]
    constructor
    · rintro ⟨⟨⟨method, operation⟩, j⟩, ⟨hFound, hPost⟩, hPair⟩
      cases hPair
      exact ⟨rfl, entries, method, rfl, hFound, hPost⟩
    · rintro ⟨hPath, entries, method, hEntries, hFound, hPost⟩
      cases hPath
      cases hEntries
      exact ⟨((method, posting.operation), j), ⟨hFound, hPost⟩, rfl⟩
  · rename_i hOther
    constructor
    · exact nofun
    · rintro ⟨hPath, entries, method, hEntries, -⟩
      exact absurd hEntries (hOther _ _ hPath)

theorem map_snd_located (description : Document) :
    (located description).map (·.2) = all description := by
  rw [located, all, List.map_flatMap]
  conv_rhs => rw [← List.zipIdx_map_fst 0 (((description.get? "paths").bind _).getD [])]
  rw [List.flatMap_map]
  refine List.flatMap_congr fun entry _ => ?_
  rw [List.map_map, ← map_snd_locatedOf]
  rfl

theorem pairwise_located (description : Document) :
    (located description).Pairwise fun a b => Before a.1 b.1 := by
  refine List.pairwise_flatMap.mpr ⟨fun entry _ => ?_, (pairwise_zipIdx _ 0).imp fun hLess a ha b hb => ?_⟩
  · exact List.pairwise_map.mpr ((pairwise_locatedOf entry.1).imp fun hLess => .right _ hLess)
  · obtain ⟨_, -, rfl⟩ := List.mem_map.mp ha
    obtain ⟨_, -, rfl⟩ := List.mem_map.mp hb
    exact .left _ _ hLess

theorem mem_located {description : Document} {place : Place} {posting : Posting} :
    (place, posting) ∈ located description ↔ PostAt description place posting := by
  obtain ⟨i, j⟩ := place
  simp only [located, List.mem_flatMap, List.mem_map, Prod.exists, List.mem_zipIdx_iff_getElem?]
  constructor
  · rintro ⟨key, methods, i, hPath, j, posting, hMem, hPair⟩
    cases hPair
    cases hTop : (description.get? "paths").bind Document.entries? with
    | none => simp [hTop] at hPath
    | some paths =>
      rw [hTop] at hPath
      obtain ⟨value, hValue, hPaths⟩ := Option.bind_eq_some_iff.mp hTop
      obtain ⟨hKey, entries, method, hMethods, hMethod, hPost⟩ := mem_locatedOf.mp hMem
      obtain ⟨name, hName, hSpells⟩ := isPost_iff.mp hPost
      exact .intro (Document.get?_eq_some_iff.mp hValue) (Document.entries?_eq_some_iff.mp hPaths)
        hPath hKey hMethods hMethod hName hSpells
  · rintro ⟨hPaths, hEntries, hPath, hKey, hMethods, hMethod, hName, hSpells⟩
    rename_i value key methods method operation paths entries path name
    refine ⟨key, methods, i, ?_, j, _,
      mem_locatedOf.mpr ⟨hKey, entries, method, hMethods, hMethod, isPost_iff.mpr ⟨name, hName, hSpells⟩⟩,
      rfl⟩
    rw [Document.get?_eq_some_iff.mpr hPaths, Option.bind_some,
      Document.entries?_eq_some_iff.mpr hEntries]
    exact hPath

theorem example?_eq_some_iff {posting : Posting} {shown : Document} :
    posting.example? = some shown ↔ Shows posting.operation shown := by
  simp only [example?, Option.bind_eq_bind, Option.bind_eq_some_iff, Document.get?_eq_some_iff]
  constructor
  · rintro ⟨body, hBody, content, hContent, media, hMedia, hShown⟩
    exact ⟨hBody, hContent, hMedia, hShown⟩
  · rintro ⟨hBody, hContent, hMedia, hShown⟩
    exact ⟨_, hBody, _, hContent, _, hMedia, hShown⟩

theorem Shows.eq {operation shown other : Document} (h : Shows operation shown)
    (hOther : Shows operation other) : shown = other := by
  obtain ⟨hBody, hContent, hMedia, hShown⟩ := h
  obtain ⟨hBody', hContent', hMedia', hShown'⟩ := hOther
  cases hBody.eq hBody'
  cases hContent.eq hContent'
  cases hMedia.eq hMedia'
  exact hShown.eq hShown'

theorem PostAt.eq {description : Document} {place : Place} {posting other : Posting}
    (h : PostAt description place posting) (hOther : PostAt description place other) :
    posting = other := by
  obtain ⟨hPaths, hEntries, hPath, hKey, hMethods, hMethod, -, -⟩ := h
  obtain ⟨hPaths', hEntries', hPath', hKey', hMethods', hMethod', -, -⟩ := hOther
  cases hPaths.eq hPaths'
  cases hEntries.entries_eq hEntries'
  cases hPath.symm.trans hPath'
  cases hKey.text_eq hKey'
  cases hMethods.entries_eq hMethods'
  cases hMethod.symm.trans hMethod'
  rfl

/-- What a look at an operation finds, and when. -/
inductive Looks (operation : Document) (path : String) : Finding → Prop
  | usable {shown : Document} {template : Json} (hShows : Shows operation shown)
      (hBlank : ¬ shown.Blank) (hForm : shown.Denotes template) :
      Looks operation path (.usable ⟨path, template⟩)
  | absent (hBlank : ∀ shown, Shows operation shown → shown.Blank) :
      Looks operation path (.absent path)
  | unrepresentable {shown key : Document} {reason : KeyError} (hShows : Shows operation shown)
      (hBlank : ¬ shown.Blank) (hKey : shown.HasKey key) (hFault : key.Fault reason) :
      Looks operation path (.unrepresentable path reason)

theorem looks_look (posting : Posting) : Looks posting.operation posting.path posting.look := by
  unfold look
  split
  · rename_i hNone
    refine .absent fun shown hShows => ?_
    rw [example?_eq_some_iff.mpr hShows] at hNone
    simpa [Option.filter_some, Document.isBlank_iff] using hNone
  · rename_i shown hSome
    obtain ⟨hExample, hBlank⟩ := Option.filter_eq_some_iff.mp hSome
    have hShows := example?_eq_some_iff.mp hExample
    have hBlank : ¬ shown.Blank := by simpa [← Document.isBlank_iff] using hBlank
    split
    · rename_i template hForm
      exact .usable hShows hBlank (Document.toJson_eq_ok_iff.mp hForm)
    · rename_i reason hForm
      obtain ⟨key, hKey, hFault⟩ := Document.fault_of_toJson shown hForm
      exact .unrepresentable hShows hBlank hKey hFault

theorem gives_iff {description : Document} {place : Place} {posting : Posting}
    (hPost : PostAt description place posting) {entry : Example} :
    Gives description place entry ↔ posting.look.entry? = some entry := by
  obtain ⟨path, operation⟩ := posting
  have hLooks := looks_look ⟨path, operation⟩
  constructor
  · rintro ⟨hOther, hShows, hBlank, hKeys, hForm⟩
    cases hPost.eq hOther
    generalize look _ = finding at hLooks
    cases hLooks with
    | usable hShows' hBlank' hForm' =>
      cases hShows.eq hShows'
      have hJson := hForm.toJson
      rw [hForm'.toJson] at hJson
      cases hJson
      rfl
    | absent hAll => exact absurd (hAll _ hShows) hBlank
    | unrepresentable hShows' hBlank' hKey hFault =>
      cases hShows.eq hShows'
      exact absurd hFault (hKeys _ hKey _)
  · intro hEntry
    generalize look _ = finding at hLooks hEntry
    cases hLooks with
    | usable hShows hBlank hForm =>
      cases hEntry
      exact .intro hPost hShows hBlank (Document.exists_denotes_iff.mp ⟨_, hForm⟩) hForm
    | absent | unrepresentable => cases hEntry

theorem misses_of_log? {description : Document} {place : Place} {posting : Posting}
    (hPost : PostAt description place posting) {line : Log.Entry}
    (h : posting.look.log? = some line) : Misses description place line := by
  obtain ⟨path, operation⟩ := posting
  have hLooks := looks_look ⟨path, operation⟩
  generalize look _ = finding at hLooks h
  cases hLooks with
  | usable => cases h
  | absent hBlank =>
    cases h
    exact .absent hPost hBlank
  | unrepresentable hShows hBlank hKey hFault =>
    cases h
    exact .unrepresentable hPost hShows hBlank hKey hFault

theorem Finding.log?_eq_none_iff (finding : Finding) :
    finding.log? = none ↔ finding.entry?.isSome = true := by
  cases finding <;> simp [log?, entry?]

def placed {α : Type} (description : Document) (view : Posting → Option α) : List (Place × α) :=
  (located description).filterMap fun (place, posting) => (view posting).map fun a => (place, a)

theorem map_snd_placed {α : Type} (description : Document) (view : Posting → Option α) :
    (placed description view).map (·.2) = (all description).filterMap view := by
  rw [placed, List.map_filterMap, ← map_snd_located, List.filterMap_map]
  simp [Function.comp_def]

theorem pairwise_placed {α : Type} (description : Document) (view : Posting → Option α) :
    ((placed description view).map (·.1)).Pairwise Before := by
  refine List.pairwise_map.mpr (List.pairwise_filterMap.mpr ?_)
  refine (pairwise_located description).imp fun hLess a ha b hb => ?_
  obtain ⟨_, -, rfl⟩ := Option.map_eq_some_iff.mp ha
  obtain ⟨_, -, rfl⟩ := Option.map_eq_some_iff.mp hb
  exact hLess

theorem mem_placed {α : Type} {description : Document} {view : Posting → Option α} {place : Place}
    {a : α} : (place, a) ∈ placed description view ↔
      ∃ posting, PostAt description place posting ∧ view posting = some a := by
  constructor
  · intro h
    obtain ⟨⟨other, posting⟩, hMem, h⟩ := List.mem_filterMap.mp h
    obtain ⟨b, hView, hPair⟩ := Option.map_eq_some_iff.mp h
    cases hPair
    exact ⟨posting, mem_located.mp hMem, hView⟩
  · rintro ⟨posting, hPost, hView⟩
    exact List.mem_filterMap.mpr ⟨(place, posting), mem_located.mpr hPost, by simp [hView]⟩

theorem place_mem_placed {α : Type} {description : Document} {view : Posting → Option α}
    {place : Place} {posting : Posting} (hPost : PostAt description place posting) :
    place ∈ (placed description view).map (·.1) ↔ (view posting).isSome = true := by
  simp only [List.mem_map, Prod.exists, exists_and_right, exists_eq_right, mem_placed,
    Option.isSome_iff_exists]
  constructor
  · rintro ⟨a, other, hOther, hView⟩
    exact ⟨a, hPost.eq hOther ▸ hView⟩
  · rintro ⟨a, hView⟩
    exact ⟨a, posting, hPost, hView⟩

def shown (description : Document) : List (Place × Example) := placed description (·.look.entry?)

theorem map_shown (description : Document) : (shown description).map (·.2) = (extract description).1 := by
  rw [shown, map_snd_placed, extract, List.filterMap_map]
  rfl

theorem mem_shown {description : Document} {place : Place} {entry : Example} :
    (place, entry) ∈ shown description ↔ Gives description place entry := by
  rw [shown, mem_placed]
  constructor
  · rintro ⟨posting, hPost, hEntry⟩
    exact (gives_iff hPost).mpr hEntry
  · intro hGives
    obtain ⟨hPost, -⟩ := id hGives
    exact ⟨_, hPost, (gives_iff hPost).mp hGives⟩

end Posting

/-- Extraction is sound and complete. The examples are those of the places that give one, and the lines
those of the other places, each once and in the order of places. -/
theorem extraction_is_exact (description : Document) :
    ∃ (shown : List (Posting.Place × Example)) (silent : List (Posting.Place × Log.Entry)),
      extract description = (shown.map (·.2), silent.map (·.2)) ∧
      (shown.map (·.1)).Pairwise Posting.Before ∧ (silent.map (·.1)).Pairwise Posting.Before ∧
      (∀ place entry, (place, entry) ∈ shown ↔ Posting.Gives description place entry) ∧
      (∀ place line, (place, line) ∈ silent → Posting.Misses description place line) ∧
      ∀ place posting, Posting.PostAt description place posting →
        (place ∈ shown.map (·.1) ↔ place ∉ silent.map (·.1)) := by
  refine ⟨Posting.placed description (·.look.entry?), Posting.placed description (·.look.log?), ?_,
    Posting.pairwise_placed .., Posting.pairwise_placed .., fun place entry => ?_,
    fun place line hMem => ?_, fun place posting hPost => ?_⟩
  · rw [Posting.map_snd_placed, Posting.map_snd_placed, extract, List.filterMap_map,
      List.filterMap_map]
    rfl
  · rw [Posting.mem_placed]
    constructor
    · rintro ⟨posting, hPost, hEntry⟩
      exact (Posting.gives_iff hPost).mpr hEntry
    · intro hGives
      obtain ⟨hPost, -⟩ := id hGives
      exact ⟨_, hPost, (Posting.gives_iff hPost).mp hGives⟩
  · obtain ⟨posting, hPost, hLine⟩ := Posting.mem_placed.mp hMem
    exact Posting.misses_of_log? hPost hLine
  · rw [Posting.place_mem_placed hPost, Posting.place_mem_placed hPost,
      ← Posting.Finding.log?_eq_none_iff, Option.not_isSome_iff_eq_none]

end ApiLoad
