import ApiLoad.Http.Exchange
import ApiLoad.Json.Printer
import ApiLoad.Text.Base64
import ApiLoad.Text.Blank

/-!
# Messages

The bytes of a call and of its response on a connection of their own. A head ends at the first empty
line, and says where the body ends: at a length, after the last chunk, or with the connection.
-/
set_option autoImplicit false

namespace ApiLoad.Http

def Content.bytes : Content → List UInt8
  | .none => []
  | .json value => value.compact.toUTF8.data.toList
  | .raw text => text.toUTF8.data.toList

def Content.fields : Content → List (String × String)
  | .none => []
  | content =>
    [("content-type", "application/json"), ("content-length", natText content.bytes.length)]

def Call.userFields (call : Call) : List (String × String) :=
  call.user.toList.map fun user =>
    ("authorization", "Basic " ++ String.ofList (Text.Base64.encode user.credentials))

def Call.headLines (call : Call) : List String :=
  let fields := [("accept", "*/*"), ("host", String.ofList call.url.authority),
    ("connection", "close")] ++ call.userFields ++ call.content.fields
  (call.method.name ++ " " ++ String.ofList call.url.target ++ " HTTP/1.1") ::
    fields.map fun (name, value) => name ++ ": " ++ value

def Call.bytes (call : Call) : List UInt8 :=
  let head := String.join (call.headLines.map (· ++ "\r\n")) ++ "\r\n"
  head.toUTF8.data.toList ++ call.content.bytes

namespace Message

inductive Rest
  | pending
  | closed
  | abandoned
deriving DecidableEq, Repr

def splitHead? : List UInt8 → Option (List UInt8 × List UInt8)
  | 13 :: 10 :: 13 :: 10 :: body => some ([], body)
  | b :: rest => (splitHead? rest).map fun (head, body) => (b :: head, body)
  | [] => none

theorem length_of_splitHead? {bytes head body : List UInt8}
    (h : splitHead? bytes = some (head, body)) : body.length < bytes.length := by
  fun_induction splitHead? bytes generalizing head with
  | case1 after =>
    cases h
    simp only [List.length_cons]
    omega
  | case2 b after _ ih =>
    obtain ⟨_, hTail, hPair⟩ := Option.map_eq_some_iff.mp h
    cases hPair
    have hLess := ih hTail
    simp only [List.length_cons]
    omega
  | case3 => cases h

structure Head where
  status : Nat
  /-- The names are in lower case. -/
  fields : List (String × String)
deriving DecidableEq, Repr

def status? (line : String) : Option Nat :=
  match line.splitOn " " with
  | version :: code :: _ =>
    if version.startsWith "HTTP/1." && code.length == 3 && code.toList.all Char.isDigit then
      some (Decimal.valueOf code.toList)
    else none
  | _ => none

def field (line : String) : String × String :=
  let name := line.toList.takeWhile (· != ':')
  let value := line.toList.drop (name.length + 1)
  (String.ofList (name.map Char.toLower), String.ofList (Text.trim value))

def head? (bytes : List UInt8) : Option Head :=
  match (String.ofList (bytes.map fun b => Char.ofNat b.toNat)).splitOn "\r\n" with
  | first :: lines => (status? first).map fun status => ⟨status, lines.map field⟩
  | [] => none

inductive Framing
  | empty
  | sized (length : Nat)
  | chunked
  | toTheEnd
deriving DecidableEq, Repr

/-- Chunks win over a length. -/
def Head.framing (h : Head) : Framing :=
  if h.status = 204 ∨ h.status = 304 then .empty
  else if (h.fields.lookup "transfer-encoding").map String.toLower = some "chunked" then .chunked
  else match (h.fields.lookup "content-length").map String.toList with
    | some digits => .sized (Decimal.valueOf digits)
    | none => .toTheEnd

def line? : List UInt8 → Option (List UInt8 × List UInt8)
  | 13 :: 10 :: rest => some ([], rest)
  | b :: rest => (line? rest).map fun (line, after) => (b :: line, after)
  | [] => none

theorem length_of_line? {bytes line rest : List UInt8} (h : line? bytes = some (line, rest)) :
    rest.length < bytes.length := by
  fun_induction line? bytes generalizing line with
  | case1 after =>
    cases h
    simp only [List.length_cons]
    omega
  | case2 b after _ ih =>
    obtain ⟨_, hTail, hPair⟩ := Option.map_eq_some_iff.mp h
    cases hPair
    have hLess := ih hTail
    simp only [List.length_cons]
    omega
  | case3 => cases h

/-- The length of a chunk is hexadecimal and ends at the first other character. -/
def chunkLength (line : List UInt8) : Nat :=
  let digits := (line.map fun b => Char.ofNat b.toNat).takeWhile fun c => (Text.Hex.value? c).isSome
  (Text.Hex.number? digits).getD 0

def chunks? (bytes : List UInt8) : Option (List UInt8) :=
  match _h : line? bytes with
  | none => none
  | some (line, rest) =>
    let length := chunkLength line
    if length = 0 then some []
    else if rest.length < length + 2 then none
    else (chunks? (rest.drop (length + 2))).map (rest.take length ++ ·)
termination_by bytes.length
decreasing_by
  have hLess := length_of_line? _h
  simp only [List.length_drop]
  omega

def body? (rest : Rest) (framing : Framing) (bytes : List UInt8) : Option Body :=
  let cut := if rest = .pending then none else some Body.broken
  match framing with
  | .empty => some (.complete [])
  | .sized length => if length ≤ bytes.length then some (.complete (bytes.take length)) else cut
  | .chunked => ((chunks? bytes).map Body.complete).or cut
  | .toTheEnd => if rest = .closed then some (.complete bytes) else cut

/-- The reply that the received bytes make, if no more are needed for it. A body that nobody wants is
not waited for, and interim responses are passed over. -/
def reply? (rest : Rest) (wantsBody : Bool) (bytes : List UInt8) : Option Reply :=
  match _h : splitHead? bytes with
  | none => if rest = .pending then none else some .interrupted
  | some (head, after) =>
    match head? head with
    | none => some .interrupted
    | some head =>
      if 100 ≤ head.status ∧ head.status < 200 then reply? rest wantsBody after
      else if wantsBody then
        (body? rest head.framing after).map fun body => .answered ⟨head.status, body⟩
      else some (.answered ⟨head.status, .broken⟩)
termination_by bytes.length
decreasing_by exact length_of_splitHead? _h

end Message
end ApiLoad.Http
