import ApiLoad.Proofs.Http.Origin
import ApiLoad.Proofs.Text.Decoding

/-!
# Previews of responses

A preview is the text itself or its first characters and a mark. The byte at which it is cut starts a
character, however many bytes the characters before it have. A response that came to its end is always
shown, whatever its status and its bytes.
-/
set_option autoImplicit false

namespace ApiLoad.Transport

theorem preview_eq (text : String) (length : Nat) : preview text length =
    if text.length ≤ length then text else String.ofList (text.toList.take length) ++ "..." := by
  simp only [preview, preview?_eq, Option.get_some]

theorem preview?_eq_some (text : String) (length : Nat) :
    preview? text length = some (preview text length) :=
  (Option.some_get _).symm

theorem isValid_of_offset? {text : String} {length cut : Nat}
    (h : Text.offset? text.toList length = some cut) : String.Pos.Raw.IsValid text ⟨cut⟩ := by
  rw [Text.offset?_eq, Option.ite_none_right_eq_some, Option.some_inj] at h
  obtain ⟨-, rfl⟩ := h
  have hValid := Text.isValid_append (String.ofList (text.toList.take length))
    (String.ofList (text.toList.drop length))
  rwa [Text.ofList_take_append_drop] at hValid

theorem length_preview_le (text : String) (length : Nat) :
    (preview text length).length ≤ length + 3 := by
  rw [preview_eq]
  split
  · exact Nat.le_add_right_of_le ‹_›
  · rw [String.length_append, String.length_ofList]
    exact Nat.add_le_add_right (List.length_take_le ..) 3

theorem preview_eq_preview_iff {text other : String} {length : Nat} (hText : length < text.length)
    (hOther : length < other.length) : preview text length = preview other length ↔
      text.toList.take length = other.toList.take length := by
  rw [preview_eq, preview_eq, if_neg (Nat.not_le.2 hText), if_neg (Nat.not_le.2 hOther)]
  constructor
  · intro h
    rw [← String.toList_inj, String.toList_append, String.toList_append] at h
    simpa using List.append_cancel_right h
  · intro h
    rw [h]

theorem post_of_send {peer : Http.Peer} {url : String} {body : Json} {response : Http.Response}
    (h : Http.send peer .post url (.json body) = .ok response) (readBody : Bool) :
    post peer url body readBody = .response response.status (Http.reason response.status)
      (if readBody then some (bodyPreview response.body) else none) := by
  rw [post, h]

/-- Previews are cut between characters, and every response that came to its end has one. A preview is the
text or its first characters and a mark, so two long texts share it exactly when they share those
characters. A body is decoded character by character, with U+FFFD for each broken one. A post that got a
response never fails: its outcome has the status, no preview where the body is not asked for, and otherwise
the preview of the decoded body. -/
theorem previews_are_bounded :
    (∀ (text : String) (length : Nat),
      preview? text length = some (preview text length) ∧
      (∀ cut, Text.offset? text.toList length = some cut → String.Pos.Raw.IsValid text ⟨cut⟩) ∧
      preview text length =
        if text.length ≤ length then text else String.ofList (text.toList.take length) ++ "...") ∧
    (∀ (text other : String) (length : Nat), length < text.length → length < other.length →
      (preview text length = preview other length ↔
        text.toList.take length = other.toList.take length)) ∧
    (∀ text : String, Text.Utf8.decodeLenient text.toUTF8.data.toList = text) ∧
    (∀ (bytes : List UInt8) (text : String),
      Text.Utf8.decodeLenient bytes = text ↔ Text.Utf8.Decodes bytes text.toList) ∧
    ∀ (peer : Http.Peer) (url : String) (body : Json) (response : Http.Response),
      Http.send peer .post url (.json body) = .ok response →
      post peer url body false = .response response.status (Http.reason response.status) none ∧
      ∀ bytes, response.body = .complete bytes →
        ∃ shown : String, shown = preview (Text.Utf8.decodeLenient bytes) 200 ∧ shown.length ≤ 203 ∧
          post peer url body true =
            .response response.status (Http.reason response.status) (some shown) := by
  refine ⟨fun text length => ⟨preview?_eq_some text length, fun cut => isValid_of_offset?,
    preview_eq text length⟩, fun text other length => preview_eq_preview_iff,
    Text.Utf8.decodeLenient_toUTF8, fun bytes text => Text.Utf8.decodeLenient_eq_iff, ?_⟩
  intro peer url body response hSend
  constructor
  · exact post_of_send hSend false
  · intro bytes hBytes
    refine ⟨_, rfl, length_preview_le _ _, ?_⟩
    rw [post_of_send hSend, hBytes]
    rfl

/-- The start of a character of three bytes, which breaks off, and many characters of two bytes. -/
def accented : List UInt8 :=
  [0xE2, 0x82] ++ (String.ofList (.replicate 250 'é')).toUTF8.data.toList

theorem broken_accented : Text.Utf8.Broken [0xE2, 0x82]
    (String.ofList (.replicate 250 'é')).toUTF8.data.toList := by
  have hFirst : Text.Utf8.following? 0xE2 = some (2, 0x80, 0xBF) := by decide
  rw [Text.Utf8.toList_toUTF8, String.toList_ofList, List.replicate_succ]
  exact Text.Utf8.broken_of_short hFirst rfl (by decide)

theorem preview_of_accented : ∃ shown : String,
    shown = String.ofList ('\uFFFD' :: .replicate 199 'é') ++ "..." ∧
    post (fun _ => .answered ⟨500, .complete accented⟩) (joinUrl "http://localhost:8080" "") .null true =
      .response 500 "Internal Server Error" (some shown) := by
  obtain ⟨hText, -, hWhole, hDecode, hPost⟩ := previews_are_bounded
  have hAskable : Http.IsAskable (joinUrl "http://localhost:8080" "") :=
    ⟨⟨"http", none, some "localhost".toList, some 8080, ['/'], none, none⟩, by decide +kernel,
      by decide +kernel⟩
  obtain ⟨call, hCall⟩ := Http.exists_prepare_iff.2 hAskable
  have hSend : Http.send (fun _ => .answered ⟨500, .complete accented⟩) .post
      (joinUrl "http://localhost:8080" "") (.json .null) = .ok ⟨500, .complete accented⟩ := by
    rw [Http.send, hCall]
    rfl
  have hRest := (hDecode _ _).1 (hWhole (String.ofList (.replicate 250 'é')))
  rw [String.toList_ofList] at hRest
  have hDecodes : Text.Utf8.Decodes accented ('\uFFFD' :: .replicate 250 'é') :=
    .broken broken_accented hRest
  have hDecoded : Text.Utf8.decodeLenient accented = String.ofList ('\uFFFD' :: .replicate 250 'é') := by
    rwa [hDecode, String.toList_ofList]
  obtain ⟨shown, rfl, -, hOutcome⟩ := (hPost _ _ _ _ hSend).2 _ rfl
  have hLong : ¬ (String.ofList ('\uFFFD' :: .replicate 250 'é')).length ≤ 200 := by
    rw [String.length_ofList, List.length_cons, List.length_replicate]
    decide
  refine ⟨_, ?_, hOutcome⟩
  rw [hDecoded, (hText _ _).2.2, if_neg hLong, String.toList_ofList, List.take_succ_cons,
    List.take_replicate]
  rfl

end ApiLoad.Transport
