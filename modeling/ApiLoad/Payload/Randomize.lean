import ApiLoad.Json.Basic
import ApiLoad.Payload.Vocabulary
import ApiLoad.Random.Normal

/-!
# Randomized payloads

A copy of a template with fresh values in the known fields of its top level. A field is replaced only
where it is present and holds neither an array nor an object, so no field comes or goes but for the
request identifier inside `properties`. The fields draw from the source in a fixed order, whatever
the template holds besides.
-/
set_option autoImplicit false

namespace ApiLoad.Payload

def numberedUser : Draw String := do
  let n ← Draw.below 32 numberedUsers
  pure ("user_" ++ natText (n + 1))

def user (names : Draw String) : Draw String := do
  if ← Draw.coin then numberedUser else names

/-- A session is named by the first eight digits of an identifier. -/
def session : Draw String := do
  let digits ← Draw.identifier
  pure (String.ofList ("sess-".toList ++ digits.take 8))

def timestamp (now : Int) : Draw Int := do
  let n ← Draw.below 64 (2 * timestampJitter + 1)
  pure (now - timestampJitter + n)

/-- A time in whole milliseconds. Negative deviates count as zero, and a half is rounded up. -/
def milliseconds (t : Timing) : Draw Nat := do
  let x ← Draw.normal t.mean t.deviation
  pure (if x < 0.0 then 0 else x.round.toUInt64.toNat)

structure Rule where
  field : String
  value : Draw Json

def rules (names : Draw String) (now : Int) : List Rule :=
  [⟨"user_id", return .string (← user names)⟩,
    ⟨"session_id", return .string (← session)⟩,
    ⟨"timestamp", return .ofInt (← timestamp now)⟩,
    ⟨"page", return .string (← Draw.pick pages)⟩,
    ⟨"element_id", return .string (← Draw.pick elementIds)⟩,
    ⟨"referrer", return ((← Draw.pick referrers).map Json.string).getD .null⟩,
    ⟨"severity", return .string (← Draw.pick severities)⟩] ++
  timings.map fun t => ⟨t.field, return .ofNat (← milliseconds t)⟩

def Rule.apply (rule : Rule) (fields : List (String × Json)) : Draw (List (String × Json)) :=
  match Json.field? fields rule.field with
  | some old =>
    if old.isScalar then do
      let value ← rule.value
      pure (Json.insertField rule.field value fields)
    else pure fields
  | none => pure fields

def identify (fields : List (String × Json)) : Draw (List (String × Json)) :=
  match Json.field? fields "properties" with
  | some (.object properties) => do
    let digits ← Draw.identifier
    let id := Json.string (String.ofList digits)
    pure (Json.insertField "properties" (.object (Json.insertField "request_id" id properties)) fields)
  | _ => pure fields

/-- A fresh payload from a template, in the second `now`. Users get the names that `names` draws. -/
def randomizeNaming (names : Draw String) (now : Int) : Json → Draw Json
  | .object fields => do
    let fields ← (rules names now).foldlM (fun fields rule => rule.apply fields) fields
    let fields ← identify fields
    pure (.object fields)
  | template => pure template

end ApiLoad.Payload
