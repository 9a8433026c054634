/-! Waiting for a file to appear.

A wait looks again and again: whether it was cancelled, whether the file is there, and whether its
time is up, in this order. Between two looks it blocks for at most the poll interval and at most
until its deadline, and wakes early when something happens. Times are nanoseconds.
-/

set_option autoImplicit false

namespace ScenarioBench

inductive WaitOutcome where
  | appeared
  | timedOut
  | cancelled
  deriving DecidableEq, Repr

structure Look where
  instant : Nat
  cancelled : Bool
  present : Bool
  deriving DecidableEq, Repr

structure Waiter where
  timeout : Nat
  poll : Nat
  deriving DecidableEq, Repr, Inhabited

namespace Waiter

def nanosecondsPerMillisecond : Nat := 1000000
def nanosecondsPerSecond : Nat := 1000000000

def shortestPoll : Nat := nanosecondsPerMillisecond

/-- Times from here on cannot be told by the clock. -/
def endOfTime : Nat := Nat.pow 2 63 * nanosecondsPerSecond

def make (timeout poll : Nat) : Waiter :=
  ⟨timeout, max poll shortestPoll⟩

def withTimeout (waiter : Waiter) (timeout : Nat) : Waiter :=
  { waiter with timeout := timeout }

def withPoll (waiter : Waiter) (poll : Nat) : Waiter :=
  { waiter with poll := max poll shortestPoll }

def standard (timeoutSeconds pollSeconds : Nat) : Waiter :=
  ⟨timeoutSeconds * nanosecondsPerSecond, pollSeconds * nanosecondsPerSecond⟩

/-- The instant at which a wait ends at the latest; `none` when the clock cannot tell it. -/
def deadline? (waiter : Waiter) (start : Nat) : Option Nat :=
  if start + waiter.timeout < endOfTime then some (start + waiter.timeout) else none

def verdict (deadline : Option Nat) (look : Look) : Option WaitOutcome :=
  if look.cancelled then some .cancelled
  else if look.present then some .appeared
  else match deadline with
    | some instant => if instant ≤ look.instant then some .timedOut else none
    | none => none

def slice (waiter : Waiter) (deadline : Option Nat) (look : Look) : Nat :=
  match deadline with
  | some instant => min (instant - look.instant) waiter.poll
  | none => waiter.poll

def outcome? (waiter : Waiter) (start : Nat) (looks : List Look) : Option WaitOutcome :=
  looks.findSome? (verdict (waiter.deadline? start))

/-- The looks that decide a wait in a world that changes only at the given instants: one at the
start, one at each change before the deadline, and one at the deadline. -/
def decisiveInstants (waiter : Waiter) (start : Nat) (changes : List Nat) : List Nat :=
  match waiter.deadline? start with
  | some instant => start :: changes.filter (fun change => change < instant) ++ [instant]
  | none => start :: changes

/-- The outcome of a wait while the world shows `view instant` at each instant and changes only at
the given ones; `none` for a wait that nothing ever ends. -/
def outcomeAmid (waiter : Waiter) (start : Nat) (changes : List Nat) (view : Nat → Bool × Bool) :
    Option WaitOutcome :=
  waiter.outcome? start <| (waiter.decisiveInstants start changes).map fun instant =>
    let (cancelled, present) := view instant
    { instant := instant, cancelled := cancelled, present := present }

def outcomeStill (waiter : Waiter) (cancelled present : Bool) : Option WaitOutcome :=
  waiter.outcomeAmid 0 [] fun _ => (cancelled, present)

/-- Waits that nothing else ends are over when their time is up, because the clock can tell when. -/
def Limited (waiter : Waiter) : Prop :=
  waiter.timeout < endOfTime

instance (waiter : Waiter) : Decidable waiter.Limited :=
  inferInstanceAs (Decidable (waiter.timeout < endOfTime))

theorem outcomeStill_eq (waiter : Waiter) (cancelled present : Bool) :
    waiter.outcomeStill cancelled present =
      if cancelled then some .cancelled
      else if present then some .appeared
      else if waiter.Limited then some .timedOut
      else none := by
  unfold outcomeStill outcomeAmid decisiveInstants outcome? Limited
  -- With a deadline there is a second look when it is reached, and without one there is none.
  by_cases told : waiter.timeout < endOfTime
  · have known : waiter.deadline? 0 = some waiter.timeout := by simp [deadline?, told]
    have lasting : endOfTime ≠ 0 := Nat.ne_zero_of_lt told
    rw [known]
    by_cases soon : waiter.timeout = 0 <;>
      cases cancelled <;> cases present <;> simp [verdict, told, soon, lasting]
  · have unknown : waiter.deadline? 0 = none := by simp [deadline?, told]
    rw [unknown]
    cases cancelled <;> cases present <;> simp [verdict, told]

theorem outcomeStill_ends_iff (waiter : Waiter) {cancelled present : Bool} :
    (∃ outcome, waiter.outcomeStill cancelled present = some outcome) ↔
      cancelled = true ∨ present = true ∨ waiter.Limited := by
  rw [outcomeStill_eq]
  by_cases limited : waiter.Limited <;> cases cancelled <;> cases present <;> simp [limited]

end Waiter

end ScenarioBench
