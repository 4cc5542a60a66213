import ApiLoad.Transport
import Mathlib.Data.List.DropRight

/-!
# The seam of a joined URL

A base is a stem and slashes after it, a path is slashes and a rest that has none in front. Joining puts
the stem and the rest on the two sides of one slash, so what is joined depends on these two alone, and
joining three parts gives the same from the left as from the right.
-/
set_option autoImplicit false

namespace ApiLoad.Transport

def slashes (n : Nat) : String := String.ofList (.replicate n '/')

theorem toList_slashes (n : Nat) : (slashes n).toList = .replicate n '/' := String.toList_ofList

theorem slashes_add (m n : Nat) : slashes (m + n) = slashes m ++ slashes n := by
  simp [← String.toList_inj, toList_slashes]

def IsStem (text : String) : Prop := text.toList.getLast? ≠ some '/'

def IsRest (text : String) : Prop := text.toList.head? ≠ some '/'

theorem dropSlashes_append {rest : List Char} (h : rest.head? ≠ some '/') (n : Nat) :
    dropSlashes (.replicate n '/' ++ rest) = rest := by
  have hSlashes : ∀ c ∈ List.replicate n '/', (c == '/') = true := by
    intro c hc
    rw [List.eq_of_mem_replicate hc]
    rfl
  rw [dropSlashes, List.dropWhile_append_of_pos hSlashes, List.dropWhile_eq_self_iff]
  intro hLength hSlash
  apply h
  rw [List.head?_eq_getElem?, List.getElem?_eq_getElem hLength, beq_iff_eq.1 hSlash]

theorem exists_dropSlashes (text : List Char) :
    ∃ n rest, text = .replicate n '/' ++ rest ∧ rest.head? ≠ some '/' := by
  induction text with
  | nil => exact ⟨0, [], rfl, nofun⟩
  | cons c text ih =>
    by_cases hSlash : c = '/'
    · obtain ⟨n, rest, rfl, hRest⟩ := ih
      exact ⟨n + 1, rest, by rw [hSlash, List.replicate_succ, List.cons_append], hRest⟩
    · exact ⟨0, c :: text, rfl, by simpa using hSlash⟩

theorem exists_rest (text : String) : ∃ n rest, text = slashes n ++ rest ∧ IsRest rest := by
  obtain ⟨n, rest, hText, hRest⟩ := exists_dropSlashes text.toList
  refine ⟨n, String.ofList rest, ?_, by rwa [IsRest, String.toList_ofList]⟩
  rw [← String.toList_inj, hText, String.toList_append, toList_slashes, String.toList_ofList]

theorem exists_stem (text : String) : ∃ stem n, text = stem ++ slashes n ∧ IsStem stem := by
  obtain ⟨n, rest, hText, hRest⟩ := exists_dropSlashes text.toList.reverse
  refine ⟨String.ofList rest.reverse, n, ?_, ?_⟩
  · rw [← String.toList_inj, ← List.reverse_inj, hText]
    simp [toList_slashes]
  · rwa [IsStem, String.toList_ofList, List.getLast?_reverse]

theorem joinUrl_slashes {stem rest : String} (hStem : IsStem stem) (hRest : IsRest rest) (m n : Nat) :
    joinUrl (stem ++ slashes m) (slashes n ++ rest) = stem ++ "/" ++ rest := by
  have hBase : dropSlashes (stem ++ slashes m).toList.reverse = stem.toList.reverse := by
    rw [String.toList_append, toList_slashes, List.reverse_append, List.reverse_replicate]
    apply dropSlashes_append
    rwa [List.head?_reverse]
  have hPath : dropSlashes (slashes n ++ rest).toList = rest.toList := by
    rw [String.toList_append, toList_slashes]
    exact dropSlashes_append hRest n
  rw [joinUrl, hBase, hPath, List.reverse_reverse]
  simp [← String.toList_inj]

theorem isStem_append {text : String} (h : text ≠ "") (front : String) :
    IsStem (front ++ text) ↔ IsStem text := by
  have hSome : text.toList ≠ [] := fun hNil => h (String.toList_eq_nil_iff.1 hNil)
  rw [IsStem, IsStem, String.toList_append, List.getLast?_append_of_ne_nil _ hSome]

theorem isRest_append {text : String} (h : text ≠ "") (back : String) :
    IsRest (text ++ back) ↔ IsRest text := by
  have hSome : text.toList ≠ [] := fun hNil => h (String.toList_eq_nil_iff.1 hNil)
  rw [IsRest, IsRest, String.toList_append, List.head?_append_of_ne_nil _ hSome]

theorem joinUrl_assoc (a b c : String) : joinUrl (joinUrl a b) c = joinUrl a (joinUrl b c) := by
  obtain ⟨stem, k, rfl, hStem⟩ := exists_stem a
  obtain ⟨l, rest, rfl, hRest⟩ := exists_rest c
  obtain ⟨n, core, rfl, hFront⟩ := exists_rest b
  obtain ⟨core, m, rfl, hBack⟩ := exists_stem core
  rcases eq_or_ne core "" with rfl | hCore
  · -- Of nothing but slashes one is left, on whichever side they are joined first.
    have hEmpty : IsStem "" ∧ IsRest "" := by simp [IsStem, IsRest]
    have hLeft : joinUrl (stem ++ slashes k) (slashes (n + m) ++ "") = stem ++ slashes 1 := by
      rw [joinUrl_slashes hStem hEmpty.2, String.append_empty]
      rfl
    have hRight : joinUrl ("" ++ slashes (n + m)) (slashes l ++ rest) = slashes 1 ++ rest := by
      rw [joinUrl_slashes hEmpty.1 hRest, String.empty_append]
      rfl
    rw [String.append_empty] at hLeft
    rw [String.empty_append] at hRight
    rw [String.empty_append, ← slashes_add, hLeft, hRight, joinUrl_slashes hStem hRest,
      joinUrl_slashes hStem hRest]
  · have hStemCore : IsStem (stem ++ "/" ++ core) := (isStem_append hCore _).2 hBack
    have hSlashesCore : IsStem (slashes n ++ core) := (isStem_append hCore _).2 hBack
    have hCoreRest : IsRest (core ++ ("/" ++ rest)) :=
      (isRest_append hCore _).2 ((isRest_append hCore _).1 hFront)
    have hLeft : joinUrl (stem ++ slashes k) (slashes n ++ (core ++ slashes m)) =
        stem ++ "/" ++ core ++ slashes m := by
      rw [joinUrl_slashes hStem hFront, ← String.append_assoc]
    have hRight : joinUrl (slashes n ++ (core ++ slashes m)) (slashes l ++ rest) =
        slashes n ++ (core ++ ("/" ++ rest)) := by
      rw [← String.append_assoc, joinUrl_slashes hSlashesCore hRest]
      simp only [String.append_assoc]
    rw [hLeft, hRight, joinUrl_slashes hStemCore hRest, joinUrl_slashes hStem hCoreRest]
    simp only [String.append_assoc]

/-- A base and a path meet in one slash. The stem of the base is kept before it and the rest of the path
after it; slashes next to the seam make no difference, and no others are dropped. Joining is associative,
so a base that has a path of its own can be made in either order. -/
theorem joined_at_one_slash (a b c : String) :
    (∃ stem m n rest, a = stem ++ slashes m ∧ stem.toList.getLast? ≠ some '/' ∧
      b = slashes n ++ rest ∧ rest.toList.head? ≠ some '/' ∧ joinUrl a b = stem ++ "/" ++ rest) ∧
    (∀ m n, joinUrl (a ++ slashes m) (slashes n ++ b) = joinUrl a b) ∧
    joinUrl (joinUrl a b) c = joinUrl a (joinUrl b c) := by
  obtain ⟨stem, m, rfl, hStem⟩ := exists_stem a
  obtain ⟨n, rest, rfl, hRest⟩ := exists_rest b
  refine ⟨⟨stem, m, n, rest, rfl, hStem, rfl, hRest, joinUrl_slashes hStem hRest m n⟩, ?_,
    joinUrl_assoc ..⟩
  intro k l
  rw [String.append_assoc, ← slashes_add, ← String.append_assoc, ← slashes_add,
    joinUrl_slashes hStem hRest, joinUrl_slashes hStem hRest]

end ApiLoad.Transport
