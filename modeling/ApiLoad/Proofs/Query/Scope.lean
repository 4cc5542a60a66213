import ApiLoad.Proofs.Query
import ApiLoad.Proofs.Text.Lower

/-!
# The scope of a method

Which parameters a query has follows from the letters of its method's name alone. They are read without
regard to case, with the Kelvin sign as a letter, and whatever is no letter parts the words next to it.
-/
set_option autoImplicit false

namespace ApiLoad

open Text (IsSmall IsWord Spells kelvin letterOf)

theorem infix_append_cons_iff {α : Type} {word : List α} {item : α} (h : item ∉ word)
    (first last : List α) : word <:+: first ++ item :: last ↔ word <:+: first ∨ word <:+: last := by
  constructor
  · intro hInfix
    have hNil {front : List α} (hFront : front <+: item :: last) (hSub : front ⊆ word) : front = [] := by
      refine (List.prefix_cons_iff.1 hFront).resolve_right ?_
      rintro ⟨rest, rfl, -⟩
      exact h (hSub List.mem_cons_self)
    rcases List.infix_append_iff.1 hInfix with hFirst | hLast | ⟨back, front, rfl, hBack, hFront⟩
    · exact .inl hFirst
    · refine (List.infix_cons_iff.1 hLast).imp (fun hFront => ?_) id
      exact hNil hFront (List.Subset.refl word) ▸ List.nil_infix
    · rw [hNil hFront (List.subset_append_right back front), List.append_nil]
      exact .inl hBack.isInfix
  · rintro (hFirst | hLast)
    · exact hFirst.trans (List.prefix_append first _).isInfix
    · exact hLast.trans ((List.suffix_cons item last).trans (List.suffix_append first _)).isInfix

namespace Query

theorem occurs_iff (word text : List Char) : occurs word text = true ↔ word <:+: text := by
  induction text with
  | nil => rw [occurs, List.isEmpty_iff, List.infix_nil]
  | cons c rest ih => rw [occurs, Bool.or_eq_true, List.isPrefixOf_iff_prefix, ih, List.infix_cons_iff]

theorem isWord_page : IsWord "page".toList := ⟨by simp [IsSmall], by simp⟩

theorem isWord_click : IsWord "click".toList := ⟨by simp [IsSmall], by simp⟩

theorem isUserScoped_iff (method : String) : isUserScoped method = true ↔
    "page".toList <:+: method.toList.map letterOf ∨ "click".toList <:+: method.toList.map letterOf := by
  rw [isUserScoped, Bool.or_eq_true, occurs_iff, occurs_iff, Text.lowercase,
    isWord_page.infix_lowerAfter, isWord_click.infix_lowerAfter]

theorem isUserScoped_iff_spells (method : String) : isUserScoped method = true ↔
    ∃ part, part <:+: method.toList ∧ (Spells "page".toList part ∨ Spells "click".toList part) := by
  rw [isUserScoped_iff, List.infix_map_iff, List.infix_map_iff, ← exists_or]
  simp only [Text.spells_iff isWord_page.small, Text.spells_iff isWord_click.small, and_or_left, eq_comm]

theorem isUserScoped_congr {other method : String}
    (h : other.toList.map Char.toLower = method.toList.map Char.toLower) :
    isUserScoped other = isUserScoped method := by
  have hLetters : other.toList.map letterOf = method.toList.map letterOf := by
    simpa [Function.comp_def, Text.letterOf_toLower] using congrArg (List.map letterOf) h
  rw [Bool.eq_iff_iff, isUserScoped_iff, isUserScoped_iff, hLetters]

theorem isUserScoped_append {method : String} (h : isUserScoped method = true) (first last : String) :
    isUserScoped (first ++ method ++ last) = true := by
  obtain ⟨part, hPart, hSpells⟩ := (isUserScoped_iff_spells method).1 h
  rw [isUserScoped_iff_spells, String.toList_append, String.toList_append]
  exact ⟨part, hPart.trans ⟨first.toList, last.toList, rfl⟩, hSpells⟩

theorem isUserScoped_parted {c : Char} (hAlpha : c.isAlpha = false) (hKelvin : c ≠ kelvin)
    (first last : String) : isUserScoped (first ++ String.singleton c ++ last) =
      (isUserScoped first || isUserScoped last) := by
  have hAbsent {word : List Char} (hWord : IsWord word) : letterOf c ∉ word := fun hMem =>
    (Text.isSmall_letterOf (hWord.small _ hMem)).elim (by simp [hAlpha]) hKelvin
  have hLetters : (first ++ String.singleton c ++ last).toList.map letterOf =
      first.toList.map letterOf ++ letterOf c :: last.toList.map letterOf := by
    simp
  rw [Bool.eq_iff_iff, Bool.or_eq_true, isUserScoped_iff, isUserScoped_iff, isUserScoped_iff, hLetters,
    infix_append_cons_iff (hAbsent isWord_page), infix_append_cons_iff (hAbsent isWord_click),
    or_or_or_comm]

def IsUser (user : Json) : Prop :=
  user = .null ∨ ∃ digits, Payload.IsUserNumber digits ∧ user = .string ("user_" ++ String.ofList digits)

theorem Suits.fields {method : String} {params : Json} (h : Suits method params) :
    ∃ limit ∈ [10, 50, 100],
      if isUserScoped method then
        ∃ user, IsUser user ∧ params = .object [("limit", .ofNat limit), ("user_id", user)]
      else params = .object [("limit", .ofNat limit)] := by
  cases h with
  | nobody hScoped hLimit =>
    refine ⟨_, hLimit, ?_⟩
    rw [if_pos hScoped]
    exact ⟨.null, .inl rfl, rfl⟩
  | somebody hScoped hLimit hDigits =>
    refine ⟨_, hLimit, ?_⟩
    rw [if_pos hScoped]
    exact ⟨_, .inr ⟨_, hDigits, rfl⟩, rfl⟩
  | unscoped hScoped hLimit =>
    refine ⟨_, hLimit, ?_⟩
    rw [if_neg (Bool.eq_false_iff.1 hScoped)]

/-- Parameters follow the scope of a method. It is scoped where its name spells a page or a click,
whatever the case of the letters and the text around them, and no other character takes part in that.
From every source a scoped method gets a limit and a user or nobody, any other method a limit alone. -/
theorem parameters_follow_scope (method : String) :
    (isUserScoped method = true ↔
      ∃ part, part <:+: method.toList ∧ (Spells "page".toList part ∨ Spells "click".toList part)) ∧
    (∀ other : String, other.toList.map Char.toLower = method.toList.map Char.toLower →
      isUserScoped other = isUserScoped method) ∧
    (∀ first last : String, isUserScoped method = true → isUserScoped (first ++ method ++ last) = true) ∧
    (∀ (c : Char) (last : String), c.isAlpha = false → c ≠ kelvin →
      isUserScoped (method ++ String.singleton c ++ last) = (isUserScoped method || isUserScoped last)) ∧
    ∀ source : Source, ∃ params s, (drawParams method).run source = some (params, s) ∧
      ∃ limit ∈ [10, 50, 100],
        if isUserScoped method then
          ∃ user, IsUser user ∧ params = .object [("limit", .ofNat limit), ("user_id", user)]
        else params = .object [("limit", .ofNat limit)] := by
  refine ⟨isUserScoped_iff_spells method, fun other => isUserScoped_congr, fun first last hScoped =>
    isUserScoped_append hScoped first last, fun c last hAlpha hKelvin =>
    isUserScoped_parted hAlpha hKelvin method last, fun source => ?_⟩
  obtain ⟨params, s, hRun⟩ := total_drawParams method source
  exact ⟨params, s, hRun, (suits_of_gives (.of_run hRun)).fields⟩

example : isUserScoped "CLIC\u212A" = true ∧ isUserScoped "cl\u0130ck" = false := by decide +kernel

end Query
end ApiLoad
