import ApiLoad.Random.Draw

/-!
# Vocabulary of payloads

The values that randomized fields take.
-/
set_option autoImplicit false

namespace ApiLoad.Payload

def timestampJitter : Nat := 60

def pages : List String := ["/home", "/products", "/dashboard", "/pricing", "/signup"]
def elementIds : List String := ["btn-signup", "cta-subscribe-button", "product-1"]

/-- `none` is no referrer. -/
def referrers : List (Option String) :=
  [none, some "https://google.com", some "https://bing.com", some "/home"]

def severities : List String := ["warning", "error", "critical"]

structure Timing where
  field : String
  mean : Float
  deviation : Float

def timings : List Timing :=
  [⟨"ttfb_ms", 120.0, 30.0⟩, ⟨"fcp_ms", 400.0, 100.0⟩, ⟨"lcp_ms", 900.0, 200.0⟩]

def numberedUsers : Nat := 9999

end ApiLoad.Payload
