import ApiLoad.Http.Exchange
import ApiLoad.Transport
import Mathlib.Data.List.TakeWhile

/-!
# The origin of a joined URL

The slash between a base and a path ends the authority of the URL, so a path never changes where the
URL leads. If a base can be asked at all, then each of its paths can, up to the length of a URL.
-/
set_option autoImplicit false

namespace ApiLoad

namespace Http.Url

/-- The URL leads to the same service under the same user. -/
structure SameOrigin (a b : Url) : Prop where
  scheme : a.scheme = b.scheme
  user : a.user = b.user
  host : a.host = b.host
  port : a.port = b.port

theorem SameOrigin.withoutNamedUser {a b : Url} (h : a.SameOrigin b) :
    a.withoutNamedUser.SameOrigin b.withoutNamedUser := by
  have hNamed : a.namedUser? = b.namedUser? := by rw [namedUser?, namedUser?, h.user]
  unfold Url.withoutNamedUser
  rw [hNamed]
  split
  · exact ⟨h.scheme, rfl, h.host, h.port⟩
  · exact h

theorem SameOrigin.canBeAsked {a b : Url} (h : a.SameOrigin b) (hAsked : a.canBeAsked = true) :
    b.canBeAsked = true ∨ maxLength < b.text.utf8ByteSize := by
  unfold Url.canBeAsked isHttp at hAsked ⊢
  rw [h.scheme, h.host] at hAsked
  simp only [Bool.and_eq_true, decide_eq_true_eq] at hAsked ⊢
  rcases Nat.lt_or_ge maxLength b.text.utf8ByteSize with hLong | hShort
  · exact .inr hLong
  · exact .inl ⟨⟨hAsked.1.1, hShort⟩, hAsked.2⟩

end Http.Url

namespace Http

/-- A request can be made of the URL that the text is. -/
def IsAskable (text : String) : Prop :=
  ∃ url, Url.parse? text = some url ∧ url.withoutNamedUser.canBeAsked = true

theorem exists_prepare_iff {method : Method} {text : String} {content : Content} :
    (∃ call, prepare method text content = .ok call) ↔ IsAskable text := by
  unfold prepare IsAskable
  cases Url.parse? text with
  | none => simp
  | some url =>
    by_cases hAsked : url.withoutNamedUser.canBeAsked = true <;> simp [hAsked]

example : IsAskable (Transport.joinUrl "http://localhost:8080" "") :=
  ⟨⟨"http", none, some "localhost".toList, some 8080, ['/'], none, none⟩, by decide +kernel,
    by decide +kernel⟩

end Http
end ApiLoad
