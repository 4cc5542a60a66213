import ApiLoad.Proofs.Catalog.Compact

/-!
# Blank templates

Whether an example is blank is told of the document, before it gets its JSON form. A value that is not blank
has a blank form only if it is a float that is not finite, whose form is null. So null is the one blank
template that a catalog can hold, and it comes from the operations that show such a float.
-/
set_option autoImplicit false

namespace ApiLoad

open Yaml (Document)

namespace Yaml.Document

theorem Denotes.eq_of_blank {value : Document} {json : Json} (h : value.Denotes json)
    (hBlank : json.Blank) (hShown : ¬ value.Blank) :
    json = .null ∧ ∃ x : Binary64, x.isFinite = false ∧ value = .scalar (.number (.float x)) := by
  cases h with
  | notFinite hFinite => exact ⟨rfl, _, hFinite, rfl⟩
  | null => exact absurd .null hShown
  | bool b =>
    cases hBlank
    exact absurd .no hShown
  | integer n =>
    cases hBlank
    exact absurd .zero hShown
  | float =>
    cases hBlank with
    | floatZero hZero => exact absurd (.floatZero hZero) hShown
  | string text =>
    cases hBlank
    exact absurd .noText hShown
  | sequence h =>
    cases hBlank
    cases h
    exact absurd .noItems hShown
  | mapping h hFields =>
    cases hBlank
    cases hFields.eq_nil
    cases h
    exact absurd .noEntries hShown
  | tagged => cases hBlank

theorem not_blank_of_not_finite {x : Binary64} (h : x.isFinite = false) :
    ¬ Blank (.scalar (.number (.float x))) := by
  intro hBlank
  cases hBlank with
  | floatZero hZero => simp [Binary64.isZero, h] at hZero

end Yaml.Document

namespace Posting

theorem mem_extract_iff {description : Document} {entry : Example} :
    entry ∈ (extract description).1 ↔ ∃ place, Gives description place entry := by
  rw [← map_shown, List.mem_map]
  constructor
  · rintro ⟨⟨place, _⟩, hMem, rfl⟩
    exact ⟨place, mem_shown.mp hMem⟩
  · rintro ⟨place, hGives⟩
    exact ⟨(place, entry), mem_shown.mpr hGives, rfl⟩

end Posting

/-- The blank templates of a catalog are null, and are those of the operations that show a float which is
not finite. -/
theorem blank_template_iff_not_finite (description : Document) (entry : Example) :
    entry ∈ (extract description).1 ∧ entry.template.Blank ↔
      entry.template = .null ∧ ∃ (place : Posting.Place) (operation : Document) (x : Binary64),
        x.isFinite = false ∧ Posting.PostAt description place ⟨entry.path, operation⟩ ∧
          Posting.Shows operation (.scalar (.number (.float x))) := by
  rw [Posting.mem_extract_iff]
  constructor
  · rintro ⟨⟨place, hPost, hShows, hShown, -, hForm⟩, hBlank⟩
    obtain ⟨hNull, x, hFinite, rfl⟩ := hForm.eq_of_blank hBlank hShown
    exact ⟨hNull, place, _, x, hFinite, hPost, hShows⟩
  · rintro ⟨hNull, place, operation, x, hFinite, hPost, hShows⟩
    obtain ⟨path, template⟩ := entry
    cases hNull
    have hForm : Document.Denotes (.scalar (.number (.float x))) .null := .notFinite hFinite
    have hShown := Document.not_blank_of_not_finite hFinite
    exact ⟨⟨place, .intro hPost hShows hShown (Document.exists_denotes_iff.mp ⟨_, hForm⟩) hForm⟩, .null⟩

def notANumber : String :=
  "paths:\n /a:\n  post:\n   requestBody:\n    content:\n" ++
    "     application/json:\n      example: .nan\n"

/-- A description whose catalog holds a blank template. -/
theorem blank_template_of_notANumber :
    ∃ description entry, Document.parse? notANumber = some description ∧
      entry ∈ (extract description).1 ∧ entry.template.Blank := by
  have hRun : ((Document.parse? notANumber).any fun description =>
      (extract description).1.any fun entry =>
        entry.template.casesOn true (fun _ => false) (fun _ => false) (fun _ => false) (fun _ => false)
          fun _ => false) = true := by
    decide +kernel
  obtain ⟨description, hParse, hAny⟩ := (Option.any_eq_true ..).mp hRun
  obtain ⟨entry, hEntry, hNull⟩ := List.any_eq_true.mp hAny
  refine ⟨description, entry, hParse, hEntry, ?_⟩
  cases hTemplate : entry.template with
  | null => exact .null
  | _ =>
    rw [hTemplate] at hNull
    cases hNull

end ApiLoad
