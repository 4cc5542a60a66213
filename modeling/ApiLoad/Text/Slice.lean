/-!
# Cutting texts at bytes

A place in a text is a number of bytes. A text can be cut at a place only where a character starts or the
text ends.
-/
set_option autoImplicit false

namespace ApiLoad.Text

/-- The byte at which the character after so many others starts. -/
def offset? : List Char → Nat → Option Nat
  | [], _ => none
  | _ :: _, 0 => some 0
  | c :: rest, count + 1 => (offset? rest count).map (c.utf8Size + ·)

/-- The text before a byte, unless that byte is inside of a character or beyond the end. -/
def sliceTo? (text : String) (cut : Nat) : Option String :=
  if h : String.Pos.Raw.IsValid text ⟨cut⟩ then
    some (text.extract text.startPos (text.pos ⟨cut⟩ h))
  else none

theorem isValid_append (first rest : String) :
    String.Pos.Raw.IsValid (first ++ rest) ⟨first.utf8ByteSize⟩ :=
  String.Pos.Raw.isValid_iff_exists_append.mpr ⟨first, rest, rfl, rfl⟩

theorem sliceTo?_append (first rest : String) :
    sliceTo? (first ++ rest) first.utf8ByteSize = some first := by
  rw [sliceTo?, dif_pos (isValid_append first rest)]
  congr 1
  rw [← String.toByteArray_inj, String.toByteArray_extract, String.toByteArray_append]
  exact ByteArray.extract_append_eq_left rfl

theorem offset?_eq (text : List Char) (count : Nat) :
    offset? text count =
      if count < text.length then some (String.ofList (text.take count)).utf8ByteSize else none := by
  induction text generalizing count with
  | nil => rfl
  | cons c rest ih =>
    cases count with
    | zero => rfl
    | succ count =>
      have hSize : (String.ofList (c :: rest.take count)).utf8ByteSize =
          c.utf8Size + (String.ofList (rest.take count)).utf8ByteSize := by
        rw [String.ofList_cons, String.utf8ByteSize_append, String.utf8ByteSize_singleton]
      rw [offset?, ih, List.length_cons, List.take_succ_cons, hSize]
      by_cases hLess : count < rest.length
      · rw [if_pos hLess, if_pos (Nat.succ_lt_succ hLess)]
        rfl
      · rw [if_neg hLess, if_neg fun h => hLess (Nat.lt_of_succ_lt_succ h)]
        rfl

theorem ofList_take_append_drop (text : String) (count : Nat) :
    String.ofList (text.toList.take count) ++ String.ofList (text.toList.drop count) = text := by
  rw [← String.ofList_append, List.take_append_drop, String.ofList_toList]

end ApiLoad.Text
