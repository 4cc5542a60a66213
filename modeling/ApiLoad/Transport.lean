import ApiLoad.Http.Exchange
import ApiLoad.Http.Reason
import ApiLoad.Request
import ApiLoad.Text.Slice

/-!
# Posting requests

How a base URL and a path meet, how a response body is shortened for the log, and how a post ends.
-/
set_option autoImplicit false

namespace ApiLoad.Transport

def previewLength : Nat := 200

/-- The first characters of a text, marked when it is cut. It is cut at a byte, and there is no preview if
that byte is inside of a character. -/
def preview? (text : String) (length : Nat) : Option String :=
  match Text.offset? text.toList length with
  | some cut => (Text.sliceTo? text cut).map (· ++ "...")
  | none => some text

theorem preview?_eq (text : String) (length : Nat) : preview? text length =
    some (if text.length ≤ length then text
      else String.ofList (text.toList.take length) ++ "...") := by
  rw [preview?, Text.offset?_eq, String.length_toList]
  by_cases hShort : text.length ≤ length
  · rw [if_neg (Nat.not_lt.mpr hShort), if_pos hShort]
  · have hSlice := Text.sliceTo?_append (String.ofList (text.toList.take length))
      (String.ofList (text.toList.drop length))
    rw [Text.ofList_take_append_drop] at hSlice
    rw [if_pos (Nat.lt_of_not_le hShort), if_neg hShort]
    simp only [hSlice, Option.map_some]

/-- The preview of a text. The byte where a character starts is never inside of another. -/
def preview (text : String) (length : Nat) : String :=
  (preview? text length).get (by rw [preview?_eq]; rfl)

def dropSlashes (text : List Char) : List Char := text.dropWhile (· == '/')

def joinUrl (base path : String) : String :=
  let base := (dropSlashes base.toList.reverse).reverse
  String.ofList (base ++ '/' :: dropSlashes path.toList)

def bodyPreview : Http.Body → String
  | .complete bytes => preview (Text.Utf8.decodeLenient bytes) previewLength
  | .broken => "<unreadable body: " ++ Http.unreadableBody ++ ">"

/-- Posts a JSON body. The response's body is looked at only if it is asked for. -/
def post (peer : Http.Peer) (url : String) (body : Json) (readBody : Bool) : Outcome :=
  match Http.send peer .post url (.json body) with
  | .error failure => .failed failure.message
  | .ok response =>
    .response response.status (Http.reason response.status)
      (if readBody then some (bodyPreview response.body) else none)

end ApiLoad.Transport
