import ApiLoad.Proofs.Payload.Randomization
import ApiLoad.Query

/-!
# What queries are

The parameters drawn for a method suit its scope, and the body of a query is an object of four members.
-/
set_option autoImplicit false

namespace ApiLoad.Query

/-- Parameters that suit a method: a limit, and a user or nobody where the method is scoped. -/
inductive Suits (method : String) : Json → Prop
  | nobody {limit : Nat} (hScoped : isUserScoped method = true) (hLimit : limit ∈ limits) :
      Suits method (.object [("limit", .ofNat limit), ("user_id", .null)])
  | somebody {limit : Nat} {digits : List Char} (hScoped : isUserScoped method = true)
      (hLimit : limit ∈ limits) (hDigits : Payload.IsUserNumber digits) :
      Suits method
        (.object [("limit", .ofNat limit), ("user_id", .string ("user_" ++ String.ofList digits))])
  | unscoped {limit : Nat} (hScoped : isUserScoped method = false) (hLimit : limit ∈ limits) :
      Suits method (.object [("limit", .ofNat limit)])

theorem suits_of_gives {method : String} {params : Json} (h : (drawParams method).Gives params) :
    Suits method params := by
  obtain ⟨limit, hLimit, h⟩ := h.of_bind
  have hLimit := hLimit.pick_mem (by decide)
  split at h
  · rename_i hScoped
    obtain ⟨user, hUser, h⟩ := h.of_bind
    have hFields : Json.ofFields [("user_id", user), ("limit", .ofNat limit)] =
        .object [("limit", .ofNat limit), ("user_id", user)] := rfl
    rw [h.of_pure, hFields]
    obtain ⟨coin, -, hUser⟩ := hUser.of_bind
    split at hUser
    · obtain ⟨name, hName, hUser⟩ := hUser.of_bind
      obtain ⟨digits, hDigits, rfl⟩ := Payload.exists_of_gives_numberedUser hName
      rw [hUser.of_pure]
      exact .somebody hScoped hLimit hDigits
    · rw [hUser.of_pure]
      exact .nobody hScoped hLimit
  · rename_i hUnscoped
    rw [h.of_pure]
    exact .unscoped (by simpa using hUnscoped) hLimit

theorem total_someUser : someUser.Total := by
  refine Draw.total_coin.bind fun coin => ?_
  split
  · exact ((Draw.total_below 32 _).bind fun _ => Draw.total_pure _).bind fun _ => Draw.total_pure _
  · exact Draw.total_pure _

theorem total_drawParams (method : String) : (drawParams method).Total := by
  refine (Draw.total_pick _).bind fun limit => ?_
  split
  · exact total_someUser.bind fun _ => Draw.total_pure _
  · exact Draw.total_pure _

theorem toJson_eq (q : Query) :
    q.toJson = .object [("id", .ofNat q.id), ("jsonrpc", .string "2.0"),
      ("method", .string q.method), ("params", q.params)] := rfl

end ApiLoad.Query
