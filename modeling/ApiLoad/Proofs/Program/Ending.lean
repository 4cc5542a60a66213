import ApiLoad.Proofs.Counter
import ApiLoad.Proofs.Program.Hurdles
import ApiLoad.Proofs.Run.Return

/-!
# The ending of a run

A run ends with its start, at the first hurdle that is not taken, or with the return of its workers.
In the first case no worker has started and nothing was sent. In the second all have, and the run
succeeds unless more was sent than a counter holds.
-/
set_option autoImplicit false

namespace ApiLoad.Program

namespace Deed

def post? : Deed → Option Post
  | .worked _ event => event.post?
  | _ => none

end Deed

namespace Visit

def description : String :=
  "\x7b\"paths\":\x7b\"/v\":\x7b\"post\":\x7b\"requestBody\":\x7b\"content\":" ++
    "\x7b\"application/json\":\x7b\"example\":\x7b\"page\":\"/\"\x7d\x7d\x7d\x7d\x7d\x7d\x7d\x7d"

/-- Two event workers are asked for, and no query workers. -/
def world (client : Nat → Except Error Unit) : World where
  environment := [("TRAFFIC_WORKERS", "2")]
  fileAt _ := .bytes description.toUTF8.data.toList
  complaint _ := ""
  client := client
  source _ := .cyclic #[0]
  users := pure "ada"

def chosen : Settings := (world fun _ => .ok ()).chosen {}

end Visit

end ApiLoad.Program
