import ApiLoad.Number.Reading
import ApiLoad.Proofs.Number.Numeral
import Mathlib.Data.List.TakeWhile

/-!
# What a text spells as a number

Grammars beside the readers. A natural is a run of digits below the limit, after a plus sign or not. A
double is a numeral or a word, after a sign or not. The readers accept these texts and no others.
-/
set_option autoImplicit false

namespace ApiLoad

/-- A sign that may be missing, and whether it is a minus. -/
inductive Signs : List Char → Bool → Prop
  | none : Signs [] false
  | plus : Signs ['+'] false
  | minus : Signs ['-'] true

def IsDigits (text : List Char) : Prop := ∀ c ∈ text, c.isDigit = true

/-- A natural of 64 bits. -/
inductive SpellsNatural : List Char → Nat → Prop
  | mk {sign digits : List Char} (hSign : Signs sign false) (hSome : digits ≠ [])
      (hDigits : IsDigits digits) (hFits : Decimal.valueOf digits < Counter.limit) :
      SpellsNatural (sign ++ digits) (Decimal.valueOf digits)

namespace Decimal

inductive SpellsInt : List Char → Int → Prop
  | mk {sign digits : List Char} {negative : Bool} (hSign : Signs sign negative)
      (hSome : digits ≠ []) (hDigits : IsDigits digits) :
      SpellsInt (sign ++ digits) (if negative then -(valueOf digits : Int) else valueOf digits)

/-- A power of ten that may be missing. -/
inductive SpellsPower : List Char → Int → Prop
  | none : SpellsPower [] 0
  | lower {text : List Char} {n : Int} (h : SpellsInt text n) : SpellsPower ('e' :: text) n
  | upper {text : List Char} {n : Int} (h : SpellsInt text n) : SpellsPower ('E' :: text) n

/-- A numeral without a sign: of the digits before the point and after it there is one at least. -/
inductive Spells : List Char → Decimal → Prop
  | whole {digits power : List Char} {n : Int} (hSome : digits ≠ []) (hDigits : IsDigits digits)
      (hPower : SpellsPower power n) : Spells (digits ++ power) ⟨valueOf digits, n⟩
  | pointed {digits places power : List Char} {n : Int} (hSome : digits ≠ [] ∨ places ≠ [])
      (hDigits : IsDigits digits) (hPlaces : IsDigits places) (hPower : SpellsPower power n) :
      Spells (digits ++ '.' :: (places ++ power)) ⟨valueOf (digits ++ places), n - places.length⟩

end Decimal

/-- A double. Its words may be written in any case. -/
inductive Binary64.Spells : List Char → Binary64 → Prop
  | numeral {sign body : List Char} {negative : Bool} {d : Decimal} (hSign : Signs sign negative)
      (h : Decimal.Spells body d) : Spells (sign ++ body) (d.toBinary64 negative)
  | infinite {sign body : List Char} {negative : Bool} (hSign : Signs sign negative)
      (h : String.ofList (body.map Char.toLower) ∈ ["inf", "infinity"]) :
      Spells (sign ++ body) (.infinity negative)
  | nan {sign body : List Char} {negative : Bool} (hSign : Signs sign negative)
      (h : String.ofList (body.map Char.toLower) = "nan") : Spells (sign ++ body) .nan

/-- No sign is left to be read. -/
def Unsigned (text : List Char) : Prop := ∀ c rest, text = c :: rest → c ≠ '-' ∧ c ≠ '+'

theorem isDigits_iff_all {text : List Char} : text.all Char.isDigit = true ↔ IsDigits text :=
  List.all_eq_true

theorem IsDigits.head_ne {c mark : Char} {rest : List Char} (h : IsDigits (c :: rest))
    (hMark : mark.isDigit = false) : c ≠ mark := by
  rintro rfl
  exact absurd (h c (List.mem_cons_self ..)) (by simp [hMark])

theorem IsDigits.unsigned {text : List Char} (h : IsDigits text) : Unsigned text := by
  rintro c rest rfl
  exact ⟨h.head_ne rfl, h.head_ne rfl⟩

/-- Every text is a sign and what follows it. Without a sign none is left to be read. -/
theorem exists_signs (text : List Char) : ∃ sign body negative, Signs sign negative ∧
    (sign = [] → Unsigned body) ∧ text = sign ++ body := by
  match text with
  | [] => exact ⟨[], [], _, .none, fun _ _ _ h => (List.cons_ne_nil _ _ h.symm).elim, rfl⟩
  | c :: rest =>
    by_cases hMinus : c = '-'
    · exact ⟨_, rest, _, .minus, nofun, by rw [hMinus]; rfl⟩
    by_cases hPlus : c = '+'
    · exact ⟨_, rest, _, .plus, nofun, by rw [hPlus]; rfl⟩
    · refine ⟨[], c :: rest, _, .none, fun _ first tail h => ?_, rfl⟩
      obtain ⟨rfl, rfl⟩ := List.cons.inj h
      exact ⟨hMinus, hPlus⟩

section Signed

variable {sign body : List Char} {negative : Bool}

theorem natural?_append (hSign : Signs sign false) (hBody : sign = [] → Unsigned body) :
    natural? (sign ++ body) =
      if body = [] ∨ !body.all Char.isDigit ∨ Counter.limit ≤ Decimal.valueOf body then none
      else some (Decimal.valueOf body) := by
  cases hSign with
  | plus => rfl
  | none =>
    have hUnsigned := hBody rfl
    rw [List.nil_append]
    unfold natural?
    dsimp only
    split
    · exact absurd rfl (hUnsigned _ _ rfl).2
    · rfl

theorem exponentOf?_append (hSign : Signs sign negative) (hBody : sign = [] → Unsigned body) :
    Decimal.exponentOf? (sign ++ body) =
      if body ≠ [] ∧ body.all Char.isDigit then
        some (if negative then -(Decimal.valueOf body : Int) else Decimal.valueOf body)
      else none := by
  unfold Decimal.exponentOf?
  dsimp only
  cases hSign with
  | plus =>
    simp only [List.cons_append, List.nil_append]
    split <;> rfl
  | minus =>
    simp only [List.cons_append, List.nil_append]
    split <;> rfl
  | none =>
    have hUnsigned := hBody rfl
    rw [List.nil_append]
    split
    · exact absurd rfl (hUnsigned _ _ rfl).1
    · exact absurd rfl (hUnsigned _ _ rfl).2
    · split <;> rfl

theorem splitSign_append (hSign : Signs sign negative) (hBody : sign = [] → Unsigned body) :
    Binary64.splitSign (sign ++ body) = (negative, body) := by
  cases hSign with
  | plus => rfl
  | minus => rfl
  | none =>
    have hUnsigned := hBody rfl
    rw [List.nil_append]
    unfold Binary64.splitSign
    split
    · exact absurd rfl (hUnsigned _ _ rfl).1
    · exact absurd rfl (hUnsigned _ _ rfl).2
    · rfl

theorem double?_append (hSign : Signs sign negative) (hBody : sign = [] → Unsigned body) :
    Decimal.double? (sign ++ body) = (Decimal.unsigned? body).map (Decimal.toBinary64 negative) := by
  cases hSign with
  | plus => rfl
  | minus => rfl
  | none =>
    have hUnsigned := hBody rfl
    rw [List.nil_append]
    unfold Decimal.double?
    split
    · exact absurd rfl (hUnsigned _ _ rfl).1
    · exact absurd rfl (hUnsigned _ _ rfl).2
    · rfl

end Signed

theorem natural?_eq_some_iff {text : List Char} {n : Nat} :
    natural? text = some n ↔ SpellsNatural text n := by
  constructor
  · intro h
    obtain ⟨sign, body, negative, hSign, hBody, rfl⟩ := exists_signs text
    cases negative with
    | true =>
      cases hSign
      simp [natural?] at h
    | false =>
      rw [natural?_append hSign hBody] at h
      split at h
      · cases h
      · rename_i hOk
        simp only [not_or, Bool.not_eq_true', Bool.not_eq_false, isDigits_iff_all, Nat.not_le] at hOk
        obtain rfl := Option.some.inj h
        exact .mk hSign hOk.1 hOk.2.1 hOk.2.2
  · intro h
    obtain @⟨sign, digits, hSign, hSome, hDigits, hFits⟩ := h
    rw [natural?_append hSign fun _ => hDigits.unsigned, if_neg]
    simpa [hSome, isDigits_iff_all.2 hDigits] using hFits

namespace Decimal

theorem exponentOf?_eq_some_iff {text : List Char} {n : Int} :
    exponentOf? text = some n ↔ SpellsInt text n := by
  constructor
  · intro h
    obtain ⟨sign, body, negative, hSign, hBody, rfl⟩ := exists_signs text
    rw [exponentOf?_append hSign hBody] at h
    split at h
    · rename_i hDigits
      obtain rfl := Option.some.inj h
      exact .mk hSign hDigits.1 (isDigits_iff_all.1 hDigits.2)
    · cases h
  · intro h
    obtain @⟨sign, digits, negative, hSign, hSome, hDigits⟩ := h
    rw [exponentOf?_append hSign fun _ => hDigits.unsigned,
      if_pos ⟨hSome, isDigits_iff_all.2 hDigits⟩]

/-- The power of ten at the end of a numeral. -/
def power? : List Char → Option Int
  | [] => some 0
  | 'e' :: rest | 'E' :: rest => exponentOf? rest
  | _ => none

theorem power?_eq_some_iff {text : List Char} {n : Int} :
    power? text = some n ↔ SpellsPower text n := by
  constructor
  · intro h
    unfold power? at h
    split at h
    · obtain rfl := Option.some.inj h
      exact .none
    · exact .lower (exponentOf?_eq_some_iff.1 h)
    · exact .upper (exponentOf?_eq_some_iff.1 h)
    · cases h
  · rintro (_ | h | h)
    · rfl
    · exact exponentOf?_eq_some_iff.2 h
    · exact exponentOf?_eq_some_iff.2 h

def places : List Char → List Char × List Char
  | '.' :: rest => (rest.takeWhile Char.isDigit, rest.dropWhile Char.isDigit)
  | text => ([], text)

theorem places_of_no_point {text : List Char} (h : ∀ rest, text ≠ '.' :: rest) :
    places text = ([], text) := by
  unfold places
  split
  · exact absurd rfl (h _)
  · rfl

theorem unsigned?_eq (text : List Char) : unsigned? text =
    let whole := text.takeWhile Char.isDigit
    let after := places (text.dropWhile Char.isDigit)
    if whole = [] ∧ after.1 = [] then none
    else (power? after.2).map fun n => ⟨valueOf (whole ++ after.1), n - after.1.length⟩ := by
  unfold unsigned?
  dsimp only
  generalize text.dropWhile Char.isDigit = after
  split
  · exact if_congr Iff.rfl rfl rfl
  · next h =>
    rw [places_of_no_point fun rest hPoint => h rest hPoint]
    exact if_congr Iff.rfl rfl rfl

/-- No digit is left to be read. -/
def AfterDigits (text : List Char) : Prop := ∀ c rest, text = c :: rest → c.isDigit = false

theorem exists_digits (text : List Char) : ∃ digits rest, IsDigits digits ∧ AfterDigits rest ∧
    text = digits ++ rest := by
  induction text with
  | nil => exact ⟨[], [], nofun, fun _ _ h => (List.cons_ne_nil _ _ h.symm).elim, rfl⟩
  | cons c rest ih =>
    by_cases hDigit : c.isDigit = true
    · obtain ⟨digits, after, hDigits, hAfter, rfl⟩ := ih
      refine ⟨c :: digits, after, ?_, hAfter, rfl⟩
      rintro d (_ | ⟨_, hMem⟩)
      · exact hDigit
      · exact hDigits d hMem
    · refine ⟨[], c :: rest, nofun, fun first tail h => ?_, rfl⟩
      obtain ⟨rfl, -⟩ := List.cons.inj h
      exact Bool.eq_false_iff.2 hDigit

theorem takeWhile_digits {digits rest : List Char} (hDigits : IsDigits digits)
    (hRest : AfterDigits rest) : (digits ++ rest).takeWhile Char.isDigit = digits := by
  rw [List.takeWhile_append_of_pos hDigits]
  cases rest with
  | nil => simp
  | cons c tail => simp [hRest c tail rfl]

theorem dropWhile_digits {digits rest : List Char} (hDigits : IsDigits digits)
    (hRest : AfterDigits rest) : (digits ++ rest).dropWhile Char.isDigit = rest := by
  rw [List.dropWhile_append_of_pos hDigits]
  cases rest with
  | nil => simp
  | cons c tail => simp [hRest c tail rfl]

theorem SpellsPower.afterDigits {text : List Char} {n : Int} (h : SpellsPower text n) :
    AfterDigits text := by
  rintro c rest rfl
  cases h <;> rfl

theorem places_of_spellsPower {text : List Char} {n : Int} (h : SpellsPower text n) :
    places text = ([], text) := by
  cases h <;> rfl

theorem places_point {digits rest : List Char} (hDigits : IsDigits digits)
    (hRest : AfterDigits rest) : places ('.' :: (digits ++ rest)) = (digits, rest) := by
  rw [places, takeWhile_digits hDigits hRest, dropWhile_digits hDigits hRest]

theorem unsigned?_eq_some_iff {text : List Char} {d : Decimal} :
    unsigned? text = some d ↔ Spells text d := by
  constructor
  · intro h
    obtain ⟨digits, rest, hDigits, hRest, rfl⟩ := exists_digits text
    rw [unsigned?_eq] at h
    dsimp only at h
    rw [takeWhile_digits hDigits hRest, dropWhile_digits hDigits hRest] at h
    split at h
    · cases h
    rename_i hSome
    obtain ⟨n, hPower, rfl⟩ := Option.map_eq_some_iff.1 h
    have hSpelled := power?_eq_some_iff.1 hPower
    by_cases hPoint : ∃ after, rest = '.' :: after
    · obtain ⟨after, rfl⟩ := hPoint
      obtain ⟨more, power, hMore, hAfter, rfl⟩ := exists_digits after
      rw [places_point hMore hAfter] at hSome hSpelled ⊢
      exact .pointed (Decidable.not_and_iff_or_not.1 hSome) hDigits hMore hSpelled
    · rw [places_of_no_point (not_exists.1 hPoint)] at hSome hSpelled ⊢
      simpa using Spells.whole (fun hNil => hSome ⟨hNil, rfl⟩) hDigits hSpelled
  · intro h
    rw [unsigned?_eq]
    dsimp only
    cases h with
    | whole hSome hDigits hPower =>
      rw [takeWhile_digits hDigits hPower.afterDigits, dropWhile_digits hDigits hPower.afterDigits,
        places_of_spellsPower hPower, power?_eq_some_iff.2 hPower, if_neg fun h => hSome h.1]
      simp
    | @pointed digits more power n hSome hDigits hPlaces hPower =>
      have hPoint : AfterDigits ('.' :: (more ++ power)) := by
        rintro c rest h
        obtain ⟨rfl, -⟩ := List.cons.inj h
        rfl
      rw [takeWhile_digits hDigits hPoint, dropWhile_digits hDigits hPoint,
        places_point hPlaces hPower.afterDigits, power?_eq_some_iff.2 hPower,
        if_neg (Decidable.not_and_iff_or_not.2 hSome)]
      rfl

theorem Spells.head {text : List Char} {d : Decimal} (h : Spells text d) :
    ∃ c rest, text = c :: rest ∧ (c.isDigit = true ∨ c = '.') := by
  cases h with
  | @whole digits power _ hSome hDigits =>
    cases digits with
    | nil => exact absurd rfl hSome
    | cons c rest => exact ⟨c, _, rfl, .inl (hDigits c (List.mem_cons_self ..))⟩
  | @pointed digits places power _ _ hDigits =>
    cases digits with
    | nil => exact ⟨'.', _, rfl, .inr rfl⟩
    | cons c rest => exact ⟨c, _, rfl, .inl (hDigits c (List.mem_cons_self ..))⟩

end Decimal

namespace Binary64

theorem toLower_of_isDigit {c : Char} (h : c.isDigit = true) : c.toLower = c := by
  have hAll : ∀ d : Fin 10, (Decimal.digitChar d).toLower = Decimal.digitChar d := by decide
  obtain ⟨d, hd, rfl⟩ := Decimal.exists_digitChar h
  exact hAll ⟨d, hd⟩

def words : List String := ["inf", "infinity", "nan"]

/-- A word begins with a letter, and so neither with a sign nor as a numeral does. -/
theorem head_of_word {body : List Char} (h : String.ofList (body.map Char.toLower) ∈ words) :
    ∃ c rest, body = c :: rest ∧ (c.toLower = 'i' ∨ c.toLower = 'n') := by
  cases body with
  | nil => exact absurd h (by decide)
  | cons c rest =>
    refine ⟨c, rest, rfl, ?_⟩
    have hWord : ∀ word ∈ words, word.toList.head? = some 'i' ∨ word.toList.head? = some 'n' := by decide
    simpa using hWord _ h

theorem unsigned_of_word {body : List Char} (h : String.ofList (body.map Char.toLower) ∈ words) :
    Unsigned body := by
  obtain ⟨first, tail, rfl, hFirst⟩ := head_of_word h
  rintro c rest hBody
  obtain ⟨rfl, -⟩ := List.cons.inj hBody
  constructor <;> rintro rfl <;> revert hFirst <;> decide

theorem not_word_of_spells {body : List Char} {d : Decimal} (h : Decimal.Spells body d) :
    String.ofList (body.map Char.toLower) ∉ words := by
  intro hWord
  obtain ⟨first, tail, rfl, hFirst⟩ := head_of_word hWord
  obtain ⟨c, rest, hBody, hDigit | rfl⟩ := h.head
  · obtain ⟨rfl, -⟩ := List.cons.inj hBody
    rw [toLower_of_isDigit hDigit] at hFirst
    rcases hFirst with rfl | rfl <;> cases hDigit
  · obtain ⟨rfl, -⟩ := List.cons.inj hBody
    revert hFirst
    decide

theorem unsigned_of_spells {body : List Char} {d : Decimal} (h : Decimal.Spells body d) :
    Unsigned body := by
  obtain ⟨c, rest, rfl, hDigit | rfl⟩ := h.head
  · rintro first tail hBody
    obtain ⟨rfl, -⟩ := List.cons.inj hBody
    constructor <;> rintro rfl <;> cases hDigit
  · rintro first tail hBody
    obtain ⟨rfl, -⟩ := List.cons.inj hBody
    decide

theorem read?_eq_some_iff {text : List Char} {x : Binary64} : read? text = some x ↔ Spells text x := by
  constructor
  · intro h
    obtain ⟨sign, body, negative, hSign, hBody, rfl⟩ := exists_signs text
    unfold read? at h
    rw [splitSign_append hSign hBody] at h
    dsimp only at h
    split at h
    · next hWord => exact Option.some.inj h ▸ .infinite hSign (by simp [hWord])
    · next hWord => exact Option.some.inj h ▸ .infinite hSign (by simp [hWord])
    · next hWord => exact Option.some.inj h ▸ .nan hSign hWord
    · rw [double?_append hSign hBody] at h
      obtain ⟨d, hSpelled, rfl⟩ := Option.map_eq_some_iff.1 h
      exact .numeral hSign (Decimal.unsigned?_eq_some_iff.1 hSpelled)
  · rintro (⟨hSign, h⟩ | ⟨hSign, h⟩ | ⟨hSign, h⟩)
    · have hWord := not_word_of_spells h
      unfold read?
      rw [splitSign_append hSign fun _ => unsigned_of_spells h]
      dsimp only
      split
      · next h => exact absurd (h ▸ by decide) hWord
      · next h => exact absurd (h ▸ by decide) hWord
      · next h => exact absurd (h ▸ by decide) hWord
      · rw [double?_append hSign fun _ => unsigned_of_spells h, Decimal.unsigned?_eq_some_iff.2 h]
        rfl
    · have hWord : _ ∈ words := List.mem_append_left ["nan"] h
      unfold read?
      rw [splitSign_append hSign fun _ => unsigned_of_word hWord]
      dsimp only
      rw [List.mem_cons, List.mem_singleton] at h
      rcases h with h | h <;> simp only [h]
    · have hWord : _ ∈ words := List.mem_append_right ["inf", "infinity"] (List.mem_singleton.2 h)
      unfold read?
      rw [splitSign_append hSign fun _ => unsigned_of_word hWord]
      simp only [h]

end Binary64
end ApiLoad
