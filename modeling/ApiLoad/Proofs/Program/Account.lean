import ApiLoad.Program
import ApiLoad.Proofs.Run.Collation

/-!
# The account of a start

The start of a run, deed by deed. Settings, description and catalog come first, then every client is
built, and only then the workers are started, one after another. So a start that fails has started
none, and one that succeeds has started all.
-/
set_option autoImplicit false

namespace ApiLoad.Program

/-- What a run does, seen from outside: it writes lines, and for the worker at a place it builds a client
and starts it, whereupon the worker acts. -/
inductive Deed
  | wrote (line : Log.Entry)
  | built (place : Nat)
  | started (place : Nat)
  | worked (place : Nat) (event : Event)

def Deed.line? : Deed → Option Log.Entry
  | .wrote line => some line
  | _ => none

/-- Deeds, and what they come to: a value, or an ending after which there are no more. -/
structure Account (α : Type) where
  deeds : List Deed
  result : Except Ending α

namespace Account

instance : Monad Account where
  pure a := ⟨[], .ok a⟩
  bind first next :=
    match first.result with
    | .error ending => ⟨first.deeds, .error ending⟩
    | .ok a => ⟨first.deeds ++ (next a).deeds, (next a).result⟩

def write (lines : List Log.Entry) : Account Unit := ⟨lines.map .wrote, .ok ()⟩

def fail {α : Type} (ending : Ending) : Account α := ⟨[], .error ending⟩

def spawn (place : Nat) : Account Unit := ⟨[.started place], .ok ()⟩

def build (client : Nat → Except Error Unit) (place : Nat) : Account Unit :=
  match client place with
  | .error e => fail (.fatal e)
  | .ok () => ⟨[.built place], .ok ()⟩

section Bind

variable {α β : Type}

end Bind

end Account

open Account

def World.chosen (world : World) (overrides : Overrides) : Settings :=
  (settings world.environment overrides).1

def prepare (world : World) (overrides : Overrides) : Account (Settings × Catalog) := do
  let (chosen, warnings) := settings world.environment overrides
  write warnings
  match chosen.validate with
  | .error reason => fail (rejected reason)
  | .ok () => do
    write [Log.info ("Loading API description from " ++ chosen.description)]
    let (loaded, reading) :=
      Catalog.load world.complaint chosen.description (world.fileAt chosen.description)
    write reading
    match loaded with
    | .error e => do
      write [Log.error e.message]
      fail (.fatal e)
    | .ok catalog => do
      write [foundLine catalog]
      pure (chosen, catalog)

/-- All workers are started, and none of them has acted. -/
def crewed (world : World) (chosen : Settings) (catalog : Catalog) : Orchestration where
  run := { workers := Orchestration.crew world.users catalog chosen.events chosen.queries world.source }
  log := [Orchestration.startLine chosen.events chosen.queries]

/-- Every client is built before any worker is started. -/
def launch (world : World) (chosen : Settings) (catalog : Catalog) : Account Orchestration := do
  let places := List.range (chosen.events.workers + chosen.queries.workers)
  places.forM (build world.client)
  places.forM spawn
  write [Orchestration.startLine chosen.events chosen.queries]
  pure (crewed world chosen catalog)

def account (world : World) (overrides : Overrides) : Account Orchestration := do
  let (chosen, catalog) ← prepare world overrides
  launch world chosen catalog

section Account

variable {world : World} {overrides : Overrides}

end Account

end ApiLoad.Program
