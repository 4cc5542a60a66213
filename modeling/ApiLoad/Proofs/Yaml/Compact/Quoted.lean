import ApiLoad.Proofs.Json.Portable
import ApiLoad.Yaml.Scalar.Quoted

/-!
# Strings of compact JSON as quoted scalars

A string of printable characters is a double-quoted scalar on one line, and reading it gives the
characters back: its two escapes mean the same, and runs of spaces are kept as they are.
-/
set_option autoImplicit false

namespace ApiLoad.Yaml

open Text (IsPrintable)

namespace Cursor

theorem byteCount_append (first second : List Char) :
    byteCount (first ++ second) = byteCount first + byteCount second := by
  have hGeneral : ∀ (text : List Char) (n : Nat),
      text.foldl (fun n c => n + c.utf8Size) n = n + byteCount text := by
    intro text
    induction text with
    | nil => exact fun n => rfl
    | cons c rest ih =>
      intro n
      rw [byteCount, List.foldl_cons, List.foldl_cons, ih, ih (0 + c.utf8Size)]
      omega
  rw [byteCount, List.foldl_append, hGeneral second]
  rfl

theorem byteCount_of_printable {text : List Char} (h : ∀ c ∈ text, IsPrintable c) :
    byteCount text = text.length := by
  induction text with
  | nil => rfl
  | cons c rest ih =>
    have hFirst : byteCount [c] = 1 := by
      rw [byteCount, List.foldl_cons, (h c List.mem_cons_self).utf8Size]
      rfl
    rw [← List.singleton_append, byteCount_append, hFirst, List.length_append,
      ih fun d hd => h d (List.mem_cons_of_mem _ hd)]
    rfl

theorem skip_zero (c : Cursor) : c.skip 0 = c := rfl

theorem skip_skip (c : Cursor) (m n : Nat) : (c.skip m).skip n = c.skip (m + n) := by
  simp only [skip, List.drop_drop, List.take_add, byteCount_append, Nat.add_assoc]

theorem not_startsDocumentMark {c : Cursor} (h : 0 < c.column) : c.startsDocumentMark = false := by
  have hColumn : (c.column == 0) = false := beq_false_of_ne (Nat.ne_of_gt h)
  simp [startsDocumentMark, startsIndicator, hColumn]

end Cursor

section Steps

variable {c : Cursor} {rest : List Char}

theorem doubleQuoted?_quote (hColumn : 0 < c.column) (hRest : c.rest = '"' :: rest) :
    doubleQuoted? c = some ([], c.skip 1) := by
  rw [doubleQuoted?, if_neg (by simp [c.not_startsDocumentMark hColumn])]
  split
  · next h => cases hRest.symm.trans h
  · rfl
  · next h => cases hRest.symm.trans h
  · next hQuote _ h =>
    cases hRest.symm.trans h
    exact absurd rfl hQuote

theorem doubleQuoted?_escape {char : Char} {n : Nat} (hColumn : 0 < c.column)
    (hRest : c.rest = '\\' :: rest) (hBreak : (rest.head?.map isBreak).getD false = false)
    (hEscape : escape? rest = some (char, n)) :
    doubleQuoted? c =
      (doubleQuoted? (c.skip (n + 1))).map fun (text, last) => (char :: text, last) := by
  rw [doubleQuoted?, if_neg (by simp [c.not_startsDocumentMark hColumn])]
  split
  · next h => cases hRest.symm.trans h
  · next h => cases hRest.symm.trans h
  · next h =>
    obtain ⟨-, rfl⟩ := List.cons.inj (hRest.symm.trans h)
    rw [if_neg (by simp [hBreak]), hEscape]
    cases hLast : doubleQuoted? (c.skip (n + 1)) <;> simp [hLast]
  · next _ hBackslash h =>
    cases hRest.symm.trans h
    exact absurd rfl hBackslash

theorem doubleQuoted?_space {char : Char} {space : List Char} {broken : Bool} {next : Cursor}
    (hColumn : 0 < c.column) (hRest : c.rest = char :: rest) (hSpace : isSpace char = true)
    (hGap : gap? 0 c = some (space, broken, next)) (hLess : next.rest.length < c.rest.length) :
    doubleQuoted? c = (doubleQuoted? next).map fun (text, last) => (space ++ text, last) := by
  rw [doubleQuoted?, if_neg (by simp [c.not_startsDocumentMark hColumn])]
  split
  · next h => cases hRest.symm.trans h
  · next h =>
    cases hRest.symm.trans h
    exact absurd hSpace (by decide)
  · next h =>
    cases hRest.symm.trans h
    exact absurd hSpace (by decide)
  · next h =>
    obtain ⟨rfl, -⟩ := List.cons.inj (hRest.symm.trans h)
    rw [if_pos hSpace, hGap]
    cases hLast : doubleQuoted? next <;> simp [hLast, hLess]

theorem doubleQuoted?_char {char : Char} (hColumn : 0 < c.column) (hRest : c.rest = char :: rest)
    (hSpace : isSpace char = false) (hQuote : char ≠ '"') (hBackslash : char ≠ '\\') :
    doubleQuoted? c =
      (doubleQuoted? (c.skip 1)).map fun (text, last) => (char :: text, last) := by
  rw [doubleQuoted?, if_neg (by simp [c.not_startsDocumentMark hColumn])]
  split
  · next h => cases hRest.symm.trans h
  · next h => exact absurd (List.cons.inj (hRest.symm.trans h)).1 hQuote
  · next h => exact absurd (List.cons.inj (hRest.symm.trans h)).1 hBackslash
  · next h =>
    obtain ⟨rfl, -⟩ := List.cons.inj (hRest.symm.trans h)
    rw [if_neg (by simp [hSpace])]
    cases doubleQuoted? (c.skip 1) <;> simp

end Steps

/-- The next character is there and is no white space. -/
def StartsSolid (text : List Char) : Prop := ∃ c rest, text = c :: rest ∧ isSpace c = false

theorem gap?_spaces {limit n : Nat} {c : Cursor} {after : List Char}
    (hRest : c.rest = List.replicate n ' ' ++ after) (hAfter : StartsSolid after) :
    gap? limit c = some (List.replicate n ' ', false, c.skip n) := by
  obtain ⟨d, rest, rfl, hSolid⟩ := hAfter
  obtain ⟨hBlank, hBreak⟩ := Bool.or_eq_false_iff.1 hSolid
  have hTake : c.rest.takeWhile isBlank = List.replicate n ' ' := by
    rw [hRest, List.takeWhile_append_of_pos fun e he => by rw [List.eq_of_mem_replicate he]; rfl,
      List.takeWhile_cons_of_neg (by simp [hBlank]), List.append_nil]
  have hNext : c.dropWhile isBlank = c.skip n := by
    rw [Cursor.dropWhile, hTake, List.length_replicate]
  have hAfter : (c.skip n).rest = d :: rest := by
    rw [Cursor.rest_skip, hRest]
    exact List.drop_left' List.length_replicate
  unfold gap?
  rw [hNext, hTake]
  dsimp only
  rw [hAfter]
  exact if_neg (by simp [hBreak])

theorem doubleQuoted?_spaces {n : Nat} {c : Cursor} {after : List Char} (hColumn : 0 < c.column)
    (hRest : c.rest = List.replicate n ' ' ++ after) (hAfter : StartsSolid after) :
    doubleQuoted? c =
      (doubleQuoted? (c.skip n)).map fun (text, last) => (List.replicate n ' ' ++ text, last) := by
  cases n with
  | zero =>
    rw [Cursor.skip_zero]
    exact (Option.map_id' ..).symm
  | succ n =>
    have hFirst : c.rest = ' ' :: (List.replicate n ' ' ++ after) := hRest
    refine doubleQuoted?_space hColumn hFirst rfl (gap?_spaces hRest hAfter) ?_
    rw [Cursor.rest_skip, List.length_drop, hRest]
    simp

theorem isSpace_of_isPrintable {c : Char} (h : IsPrintable c) (hSpace : c ≠ ' ') :
    isSpace c = false := by
  rw [Bool.eq_false_iff]
  intro hTrue
  simp only [isSpace, isBlank, isBreak, Bool.or_eq_true, beq_iff_eq] at hTrue
  rcases hTrue with (rfl | rfl) | (((rfl | rfl) | rfl) | rfl) | rfl
  · exact hSpace rfl
  all_goals exact absurd h (by decide)

theorem Cursor.column_skip (c : Cursor) (n : Nat) : (c.skip n).column = c.column + n := rfl

/-- A printable character other than the space is read back from its escaped form. -/
theorem doubleQuoted?_step {d : Char} (h : IsPrintable d) (hSpace : d ≠ ' ') {c : Cursor}
    {after : List Char} (hColumn : 0 < c.column) (hRest : c.rest = Json.escaped d ++ after) :
    doubleQuoted? c = (doubleQuoted? (c.skip (Json.escaped d).length)).map
      fun (text, last) => (d :: text, last) := by
  obtain ⟨hSpecial, hEscaped⟩ | ⟨⟨hQuote, hBackslash⟩, hEscaped⟩ := Json.escaped_cases h
  · rw [hEscaped] at hRest ⊢
    have hBreak : isBreak d = false := (Bool.or_eq_false_iff.1 (isSpace_of_isPrintable h hSpace)).2
    have hEscape : escape? (d :: after) = some (d, 1) := by
      rcases hSpecial with rfl | rfl <;> rfl
    exact doubleQuoted?_escape hColumn hRest hBreak hEscape
  · rw [hEscaped] at hRest ⊢
    exact doubleQuoted?_char hColumn hRest (isSpace_of_isPrintable h hSpace) hQuote hBackslash

theorem startsSolid_escaped {d : Char} (h : IsPrintable d) (hSpace : d ≠ ' ') (after : List Char) :
    StartsSolid (Json.escaped d ++ after) := by
  obtain ⟨-, hEscaped⟩ | ⟨-, hEscaped⟩ := Json.escaped_cases h
  · exact ⟨'\\', d :: after, by rw [hEscaped]; rfl, rfl⟩
  · exact ⟨d, after, by rw [hEscaped]; rfl, isSpace_of_isPrintable h hSpace⟩

theorem doubleQuoted?_escaped {text : List Char} (hText : ∀ d ∈ text, IsPrintable d) {n : Nat}
    {c : Cursor} {rest : List Char} (hColumn : 0 < c.column)
    (hRest : c.rest = List.replicate n ' ' ++ (text.flatMap Json.escaped ++ '"' :: rest)) :
    doubleQuoted? c = some (List.replicate n ' ' ++ text,
      c.skip (n + (text.flatMap Json.escaped).length + 1)) := by
  -- spaces are put off until a character follows that is none
  induction text generalizing n c with
  | nil =>
    have hQuote : (c.skip n).rest = '"' :: rest := by
      rw [Cursor.rest_skip, hRest]
      exact List.drop_left' List.length_replicate
    rw [doubleQuoted?_spaces hColumn hRest ⟨'"', rest, rfl, rfl⟩,
      doubleQuoted?_quote (c.column_skip n ▸ Nat.add_pos_left hColumn n) hQuote, Cursor.skip_skip]
    rfl
  | cons d text ih =>
    have hFirst := hText d List.mem_cons_self
    have hLater : ∀ e ∈ text, IsPrintable e := fun e he => hText e (List.mem_cons_of_mem d he)
    rw [List.flatMap_cons, List.append_assoc] at hRest
    by_cases hSpace : d = ' '
    · subst hSpace
      have hMore := ih hLater (n := n + 1) hColumn (by
        rw [hRest, List.replicate_succ', List.append_assoc]
        rfl)
      rw [hMore, List.replicate_succ', List.append_assoc]
      refine congrArg some (Prod.ext rfl (congrArg c.skip ?_))
      rw [List.flatMap_cons, List.length_append]
      exact congrArg (· + 1) (Nat.add_assoc n 1 _)
    · have hHere : (c.skip n).rest = Json.escaped d ++ (text.flatMap Json.escaped ++ '"' :: rest) := by
        rw [Cursor.rest_skip, hRest]
        exact List.drop_left' List.length_replicate
      have hAfter : ((c.skip n).skip (Json.escaped d).length).rest =
          List.replicate 0 ' ' ++ (text.flatMap Json.escaped ++ '"' :: rest) := by
        rw [Cursor.rest_skip, hHere, List.drop_left]
        rfl
      have hColumn' : 0 < (c.skip n).column := Nat.add_pos_left hColumn n
      rw [doubleQuoted?_spaces hColumn hRest (startsSolid_escaped hFirst hSpace _),
        doubleQuoted?_step hFirst hSpace hColumn' hHere,
        ih hLater (Nat.add_pos_left hColumn' _) hAfter]
      simp only [Cursor.skip_skip, Option.map_some, List.replicate_zero, List.nil_append]
      refine congrArg some (Prod.ext rfl (congrArg c.skip ?_))
      rw [List.flatMap_cons, List.length_append]
      omega

end ApiLoad.Yaml
