import ApiLoad.Proofs.Json.Exact
import ApiLoad.Proofs.Workload

/-!
# The envelope of a query

The text of a query puts its four members in the order of the protocol, where the body of a request has
them in the order of their names. Both are the same object to a reader, whatever the method's name and
however deep the parameters, and the text of no other query is the same.
-/
set_option autoImplicit false

namespace ApiLoad

namespace Query

/-- The parameters hold no double, and the number has 64 bits. -/
structure IsExact (q : Query) : Prop where
  params : q.params.Exact
  id : q.id < Counter.limit

theorem IsExact.members {q : Query} (h : q.IsExact) : ∀ field ∈ q.members, field.2.Exact := by
  simp only [Query.members, List.forall_mem_cons]
  exact ⟨.string _, .string _, h.params, Json.exact_ofNat h.id, nofun⟩

theorem IsExact.le_of_mem_text {q : Query} (h : q.IsExact) : ∀ c ∈ q.text.toList, 0x20 ≤ c.toNat := by
  rw [Query.text, Json.compact, String.toList_ofList]
  apply Json.le_of_mem_object
  intro field hField
  exact (h.members field hField).le_of_mem_chars

theorem IsExact.parse?_text {q : Query} (h : q.IsExact) : Json.parse? q.text = some q.toJson :=
  Json.parse?_compact_object h.members

theorem toJson_injective {q other : Query} (h : other.toJson = q.toJson) : other = q := by
  obtain ⟨method, params, id⟩ := q
  obtain ⟨method', params', id'⟩ := other
  simp only [toJson_eq, Json.ofNat, Json.object.injEq, List.cons.injEq, Prod.mk.injEq,
    Json.number.injEq, Number.integer.injEq, Int.ofNat_inj, Json.string.injEq] at h
  obtain ⟨⟨-, rfl⟩, -, ⟨-, rfl⟩, ⟨-, rfl⟩, -⟩ := h
  rfl

theorem IsExact.eq_of_text_eq {q other : Query} (h : q.IsExact) (hOther : other.IsExact)
    (hText : other.text = q.text) : other = q := by
  have hSame : some other.toJson = some q.toJson := by
    rw [← hOther.parse?_text, ← h.parse?_text, hText]
  exact toJson_injective (Option.some.inj hSame)

theorem Suits.exact {method : String} {params : Json} (h : Suits method params) : params.Exact := by
  have hLimit {limit : Nat} (h : limit ∈ limits) : (Json.ofNat limit).Exact := by
    have hAll : ∀ limit ∈ limits, limit < Counter.limit := by decide
    exact Json.exact_ofNat (hAll limit h)
  have hNames : "limit" < "user_id" := by decide
  cases h with
  | nobody _ h =>
    refine .object (by simpa [Json.Ascending] using hNames) ?_
    simpa using ⟨hLimit h, Json.Exact.null⟩
  | somebody _ h _ =>
    refine .object (by simpa [Json.Ascending] using hNames) ?_
    simpa using ⟨hLimit h, Json.Exact.string _⟩
  | unscoped _ h =>
    refine .object (List.pairwise_singleton ..) ?_
    simpa using hLimit h

end Query

namespace Workload

/-- What a workload of queries makes is the request of a query that is exact as long as the numbers are. -/
theorem exists_query_of_next {now : Int} {sent : Nat} {ids ids' : CallIds} {source s : Source}
    {request : Request}
    (h : (Workload.queries.next now sent ids).run source = some ((request, ids'), s))
    (hFits : ids'.last < Counter.limit) : ∃ q : Query, q.IsExact ∧ request = ofQuery q := by
  obtain ⟨q, hCall⟩ : ∃ q, request.IsCall q := offers_of_next h
  obtain ⟨hQuery, hLast⟩ := next_queries h
  obtain ⟨method, hPurpose⟩ := hQuery.purpose
  have hId : q.id = ids.last + 1 := (Purpose.query.inj (hCall.purpose.symm.trans hPurpose)).2
  refine ⟨q, ⟨hCall.params.exact, by omega⟩, ?_⟩
  obtain ⟨path, body, purpose⟩ := request
  obtain ⟨rfl, -, -, rfl, rfl⟩ := hCall
  rfl

end Workload

namespace Query

/-- The envelope of a query can be decoded in one way only. Its text has no raw control character and is
read as the object of its four members, so queries of one text are the same query. The body that a
workload builds is the object that the text of the same query is read as. -/
theorem envelope_is_unambiguous :
    (∀ q : Query, q.IsExact →
      (∀ c ∈ q.text.toList, 0x20 ≤ c.toNat) ∧
      Json.parse? q.text = some (.object [("id", .ofNat q.id), ("jsonrpc", .string "2.0"),
        ("method", .string q.method), ("params", q.params)]) ∧
      ∀ other : Query, other.IsExact → other.text = q.text → other = q) ∧
    ∀ (now : Int) (sent : Nat) (ids ids' : CallIds) (source s : Source) (request : Request),
      (Workload.queries.next now sent ids).run source = some ((request, ids'), s) →
      ids'.last < Counter.limit →
      ∃ q : Query, q.IsExact ∧ request.purpose = .query q.method q.id ∧
        Json.parse? q.text = some request.body := by
  constructor
  · intro q h
    refine ⟨h.le_of_mem_text, ?_, fun other hOther hText => h.eq_of_text_eq hOther hText⟩
    rw [h.parse?_text, toJson_eq]
  · intro now sent ids ids' source s request hRun hFits
    obtain ⟨q, h, rfl⟩ := Workload.exists_query_of_next hRun hFits
    exact ⟨q, h, rfl, h.parse?_text⟩

/-- Every class of characters in the name and in the parameters, and the greatest number. -/
def tricky : Query :=
  ⟨"\"\\\n\x01é", .object [("a", .array [.null, .bool true, .ofInt (-9223372036854775808)]),
    ("b", .object [("\x1f", .string "\x7f🦀/")])], 18446744073709551615⟩

theorem isExact_tricky : tricky.IsExact := by
  refine ⟨?_, by decide⟩
  have hNames : "a" < "b" := by decide
  have hLeast : (Json.ofInt (-9223372036854775808)).Exact := .integer (by decide)
  refine .object (by simpa [Json.Ascending] using hNames) ?_
  simp only [List.forall_mem_cons]
  refine ⟨.array ?_, .object (List.pairwise_singleton ..) ?_, nofun⟩
  · simpa using ⟨Json.Exact.null, .bool true, hLeast⟩
  · simpa using Json.Exact.string _

theorem envelope_of_tricky : tricky.IsExact ∧
    Json.parse? tricky.text = some (.object [("id", .ofNat 18446744073709551615),
      ("jsonrpc", .string "2.0"), ("method", .string "\"\\\n\x01é"), ("params", tricky.params)]) ∧
    ∃ request ids' s, (Workload.queries.next 0 0 {}).run (.splitMix 0) = some ((request, ids'), s) ∧
      ∃ q : Query, q.IsExact ∧ Json.parse? q.text = some request.body := by
  obtain ⟨request, ids', s, hRun, -⟩ := (Workload.endless_queries (.splitMix 0)).next 0 0 {}
  have hFits : ids'.last < Counter.limit := by
    rw [(Workload.next_queries hRun).2]
    decide
  obtain ⟨hText, hDrawn⟩ := envelope_is_unambiguous
  obtain ⟨q, hExact, -, hBody⟩ := hDrawn 0 0 {} ids' (.splitMix 0) s request hRun hFits
  exact ⟨isExact_tricky, (hText tricky isExact_tricky).2.1, request, ids', s, hRun, q, hExact, hBody⟩

end Query
end ApiLoad
