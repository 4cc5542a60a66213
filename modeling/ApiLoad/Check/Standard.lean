import ApiLoad.Check.Basic

/-!
# The standard checks

One check of health, and for each kind of event one payload that must be accepted and one that must be
rejected. The last sends what is no JSON.
-/
set_option autoImplicit false

namespace ApiLoad.Check

def accepts (name path : String) (fields : List (String × Json)) : Check :=
  ⟨name, .post, path, .json (Json.ofFields fields), 202, none⟩

def rejects (name path code : String) (fields : List (String × Json)) : Check :=
  ⟨name, .post, path, .json (Json.ofFields fields), 400, some ⟨"code", code⟩⟩

def pageView (time : String × Json) : List (String × Json) :=
  [("page", .string "/home"), ("user_id", .string "user_123"), ("session_id", .string "sess_456"),
    ("referrer", .string "https://google.com"), time]

def click (time : String × Json) : List (String × Json) :=
  [("page", .string "/pricing"), ("element_id", .string "cta-button"), ("action", .string "click"),
    time]

def performance (time : String × Json) : List (String × Json) :=
  [("page", .string "/dashboard"), ("ttfb_ms", .ofNat 120), ("fcp_ms", .ofNat 450),
    ("lcp_ms", .ofNat 800), ("total_page_load_ms", .ofNat 1100), time]

def scriptError (time : String × Json) : List (String × Json) :=
  [("page", .string "/dashboard"), ("error_type", .string "js_exception"),
    ("message", .string "Cannot read property 'id' of undefined"),
    ("stack", .string "TypeError: ...\n    at Dashboard.tsx:42"), ("severity", .string "error"), time]

def signup (time : String × Json) : List (String × Json) :=
  [("name", .string "signup_completed"), ("page", .string "/signup/success"),
    ("user_id", .string "user_123"),
    ("properties", Json.ofFields [("plan", .string "pro"), ("source", .string "landing_a")]), time]

/-- The standard checks in their order, with the second `now` as the time of every event. -/
def standard (now : Int) : List Check :=
  let time := ("timestamp", Json.ofInt now)
  [⟨"health ping", .get, "/health/ping", .none, 200, some ⟨"status", "ok"⟩⟩,
    accepts "page view" "/page-views" (pageView time),
    rejects "page view with empty page" "/page-views" "INVALID_PAGE_VIEW" [("page", .string ""), time],
    accepts "click" "/clicks" (click time),
    rejects "click with empty element_id" "/clicks" "INVALID_CLICK_EVENT"
      [("page", .string "/pricing"), ("element_id", .string ""), time],
    accepts "performance" "/performance" (performance time),
    rejects "performance with negative timing" "/performance" "INVALID_PERFORMANCE_EVENT"
      [("page", .string "/dashboard"), ("ttfb_ms", .ofInt (-10)), time],
    accepts "error event" "/errors" (scriptError time),
    rejects "error event with empty message" "/errors" "INVALID_ERROR_EVENT"
      [("page", .string "/dashboard"), ("error_type", .string "js_exception"),
        ("message", .string ""), time],
    accepts "custom event" "/custom-events" (signup time),
    rejects "custom event with empty name" "/custom-events" "INVALID_CUSTOM_EVENT"
      [("name", .string ""), time],
    ⟨"invalid json", .post, "/page-views", .raw "not valid json", 400, none⟩]

end ApiLoad.Check
