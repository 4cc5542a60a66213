import ApiLoad.Counter
import ApiLoad.Log
import ApiLoad.Number.Layout
import ApiLoad.Worker.Basic

/-!
# Summaries

The reports of a run in the order in which its workers were made. Totals are sums of 64 bits: one that
does not fit is an overflow, after the lines of the workers were logged.
-/
set_option autoImplicit false

namespace ApiLoad

structure Summary where
  reports : List Report
  lost : Nat
  /-- In nanoseconds. -/
  elapsed : Nat
deriving DecidableEq, Repr

namespace Summary

def totalSent? (s : Summary) : Option Nat := Counter.sum? (s.reports.map (·.sent))
def totalFailed? (s : Summary) : Option Nat := Counter.sum? (s.reports.map (·.failed))

/-- A duration in seconds: whole seconds plus the quotient of the rest, each rounded. -/
def seconds (duration : Nat) : Binary64 :=
  let whole := Binary64.ofNat (duration / Interval.second)
  let rest := Binary64.ofNat (duration % Interval.second)
  whole.addPositive (rest.divPositive (.ofNat Interval.second))

/-- Requests per second, zero when no time has passed. -/
def throughput (total : Nat) (elapsed : Nat) : Binary64 :=
  let secs := seconds elapsed
  if secs.isPositive then (Binary64.ofNat total).divPositive secs else .zero

def padded (width : Nat) (text : String) : String :=
  String.ofList (List.replicate (width - text.length) ' ') ++ text

def reportLine (r : Report) : Log.Entry :=
  Log.info ("  [" ++ r.name ++ "] sent " ++ padded 8 (natText r.sent) ++ "  failed " ++
    padded 8 (natText r.failed))

def totalLine (s : Summary) (sent failed : Nat) : Log.Entry :=
  Log.info ("Total: " ++ natText sent ++ " requests, " ++ natText failed ++ " failed, " ++
    (seconds s.elapsed).fixedText 2 ++ "s, " ++ (throughput sent s.elapsed).fixedText 1 ++ " req/sec")

def lostLines (s : Summary) : List Log.Entry :=
  if s.lost = 0 then [] else [Log.error (natText s.lost ++ " worker(s) terminated abnormally")]

def opening (s : Summary) : List Log.Entry :=
  Log.info "=== Run summary ===" :: s.reports.map reportLine

/-- The lines of a summary, and whether a total did not fit and ended them. -/
def log (s : Summary) : List Log.Entry × Bool :=
  match s.totalSent?, s.totalFailed? with
  | some sent, some failed => (s.opening ++ s.totalLine sent failed :: s.lostLines, false)
  | _, _ => (s.opening, true)

end Summary
end ApiLoad
