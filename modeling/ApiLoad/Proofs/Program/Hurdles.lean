import ApiLoad.Proofs.Program.Account
import ApiLoad.Proofs.Text.Decoding

/-!
# The hurdles of a run

What can end a run before its workers start, in the order in which it is met. The first hurdle that
is not taken gives the ending, and then nothing was done but to write lines and build clients. When
all are taken, all workers are started.
-/
set_option autoImplicit false

namespace ApiLoad

namespace File

def Holds (file : File) (text : String) : Prop := file = .bytes text.toUTF8.data.toList

/-- Why a file holds no text. -/
inductive Unread : File → Unreadable → Prop
  | missing : Unread .missing .missing
  | directory : Unread .directory .directory
  | notUtf8 {content : List UInt8} (h : ∀ text : String, content ≠ text.toUTF8.data.toList) :
      Unread (.bytes content) .notUtf8

theorem text_eq_ok_iff {file : File} {text : String} : file.text = .ok text ↔ file.Holds text := by
  cases file with
  | missing | directory => simp [File.text, Holds]
  | bytes content =>
    rw [Holds, File.bytes.injEq, ← Text.Utf8.decode?_eq_some_iff, File.text]
    cases Text.Utf8.decode? content <;> simp

theorem text_eq_error_iff {file : File} {reason : Unreadable} :
    file.text = .error reason ↔ Unread file reason := by
  cases file with
  | missing | directory =>
    constructor
    · rintro ⟨⟩
      constructor
    · rintro ⟨⟩
      rfl
  | bytes content =>
    rw [File.text]
    constructor
    · intro h
      split at h
      · cases h
      · rename_i hNone
        cases h
        refine .notUtf8 fun text hText => ?_
        cases hNone.symm.trans (Text.Utf8.decode?_eq_some_iff.mpr hText)
    · rintro ⟨⟩
      rename_i hNone
      split
      · rename_i text hText
        exact absurd (Text.Utf8.decode?_eq_some_iff.mp hText) (hNone text)
      · rfl

end File

namespace Program

inductive Hurdle
  | settings
  | reading
  | parsing
  | examples
  | client (place : Nat)

def Hurdle.rank : Hurdle → Nat
  | .settings => 0
  | .reading => 1
  | .parsing => 2
  | .examples => 3
  | .client place => 4 + place

/-- A hurdle is not taken, and the ending that it would give. -/
inductive Fails (world : World) (chosen : Settings) : Hurdle → Ending → Prop
  | settings {reason : Rejection} (h : chosen.validate = .error reason) :
      Fails world chosen .settings (rejected reason)
  | reading {reason : Unreadable} (h : (world.fileAt chosen.description).Unread reason) :
      Fails world chosen .reading (.fatal (.unreadable chosen.description reason))
  | parsing {text : String} (hText : (world.fileAt chosen.description).Holds text)
      (h : Yaml.Document.parse? text = none) :
      Fails world chosen .parsing (.fatal (.malformed (world.complaint text)))
  | examples {text : String} {description : Yaml.Document}
      (hText : (world.fileAt chosen.description).Holds text)
      (hParse : Yaml.Document.parse? text = some description) (h : (extract description).1 = []) :
      Fails world chosen .examples (.fatal .noExamples)
  | client {place : Nat} {e : Error}
      (hPlace : place < chosen.events.workers + chosen.queries.workers)
      (h : world.client place = .error e) : Fails world chosen (.client place) (.fatal e)

structure FailsFirst (world : World) (chosen : Settings) (hurdle : Hurdle) (ending : Ending) : Prop where
  fails : Fails world chosen hurdle ending
  least : ∀ other ending, Fails world chosen other ending → hurdle.rank ≤ other.rank

theorem Hurdle.rank_injective {first second : Hurdle} (h : first.rank = second.rank) :
    first = second := by
  cases first <;> cases second <;> simp [Hurdle.rank] at h ⊢ <;> omega

theorem Fails.unique {world : World} {chosen : Settings} {hurdle : Hurdle} {ending other : Ending}
    (h : Fails world chosen hurdle ending) (hOther : Fails world chosen hurdle other) :
    ending = other := by
  cases h <;> cases hOther <;> simp_all [← File.text_eq_ok_iff, ← File.text_eq_error_iff]

theorem FailsFirst.unique {world : World} {chosen : Settings} {hurdle hurdle' : Hurdle}
    {ending other : Ending} (h : FailsFirst world chosen hurdle ending)
    (hOther : FailsFirst world chosen hurdle' other) : ending = other := by
  obtain rfl := Hurdle.rank_injective
    (Nat.le_antisymm (h.least _ _ hOther.fails) (hOther.least _ _ h.fails))
  exact h.fails.unique hOther.fails

/-- Of the hurdles that the description can be, one at most is not taken. -/
theorem Fails.first {world : World} {chosen : Settings} {hurdle : Hurdle} {ending : Ending}
    (hValid : chosen.validate = .ok ()) (h : Fails world chosen hurdle ending)
    (hEarly : hurdle.rank < 4) : FailsFirst world chosen hurdle ending where
  fails := h
  least other ending hOther := by
    cases h with
    | client =>
      simp only [Hurdle.rank] at hEarly
      omega
    | _ =>
      cases hOther with
      | client =>
        simp only [Hurdle.rank]
        omega
      | _ => simp_all [Hurdle.rank, ← File.text_eq_ok_iff, ← File.text_eq_error_iff]

def Shows (world : World) (chosen : Settings) (catalog : Catalog) : Prop :=
  ∃ text description, (world.fileAt chosen.description).Holds text ∧
    Yaml.Document.parse? text = some description ∧ catalog.examples = (extract description).1

section Cases

variable (world : World) (overrides : Overrides)

end Cases

end Program

end ApiLoad
