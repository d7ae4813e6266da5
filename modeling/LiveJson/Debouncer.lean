import LiveJson.Duration

/-!
# Waiting for a quiet period

A debouncer holds at most one value.  Arming it with a value replaces the one it holds and sets a
deadline one quiet period ahead; polling it at or after the deadline takes the value out.  Time is
passed in, so a debouncer is a plain value.

## What is here

* `Debouncer` with `arm?`, `poll`, `cancel` and `flush`.  Each of them hands back the value that
  leaves the debouncer.
* `Debouncer.Event` and `Debouncer.after?` — the same four as data, so that whole histories can be
  run: `Debouncer.run?` collects what they hand back.
-/

set_option autoImplicit false

namespace LiveJson

/-- The quiet period that is used unless another is asked for, in milliseconds. -/
def defaultQuietMillis : Fin UInt64.size := ⟨300, by decide⟩

/-- The quiet period that is used unless another is asked for. -/
def defaultQuiet : Duration := .ofMillis defaultQuietMillis

/-- A value that waits for its deadline. -/
structure Pending (α : Type) where
  value : α
  deadline : Duration

/-- A slot for one value that waits for the end of a quiet period. -/
structure Debouncer (α : Type) where
  quiet : Duration
  pending : Option (Pending α)

namespace Debouncer

variable {α : Type}

/-- A debouncer that holds nothing. -/
def new (quiet : Duration) : Debouncer α := ⟨quiet, none⟩

/-- Whether a value waits. -/
def isPending (d : Debouncer α) : Bool :=
  d.pending.isSome

/-- When the waiting value is due. -/
def deadline? (d : Debouncer α) : Option Duration :=
  d.pending.map Pending.deadline

/-- Lets `value` wait for one quiet period from `now` on, and hands back the value that waited
before.  There is no result if the deadline is beyond the end of time. -/
def arm? (d : Debouncer α) (value : α) (now : Duration) : Option (Debouncer α × Option α) :=
  (now.add? d.quiet).map fun deadline =>
    (⟨d.quiet, some ⟨value, deadline⟩⟩, d.pending.map Pending.value)

/-- Takes the value out, due or not. -/
def cancel (d : Debouncer α) : Debouncer α × Option α :=
  (⟨d.quiet, none⟩, d.pending.map Pending.value)

/-- Takes the value out, due or not, in order to use it now. -/
def flush (d : Debouncer α) : Debouncer α × Option α :=
  d.cancel

/-- Takes the value out if it is due. -/
def poll (d : Debouncer α) (now : Duration) : Debouncer α × Option α :=
  match d.pending with
  | some p => if p.deadline ≤ now then d.cancel else (d, none)
  | none => (d, none)

/-! ## Histories -/

/-- A call of one of the four operations. -/
inductive Event (α : Type) where
  | arm (value : α) (now : Duration)
  | poll (now : Duration)
  | cancel
  | flush

/-- The debouncer after a call, and the value handed back. -/
def after? (d : Debouncer α) : Event α → Option (Debouncer α × Option α)
  | .arm value now => d.arm? value now
  | .poll now => some (d.poll now)
  | .cancel => some d.cancel
  | .flush => some d.flush

/-- The debouncer after a history of calls, and the values handed back, first to last. -/
def run? (d : Debouncer α) : List (Event α) → Option (Debouncer α × List α)
  | [] => some (d, [])
  | e :: rest => do
    let (d', out) ← d.after? e
    let (d'', outs) ← d'.run? rest
    return (d'', out.toList ++ outs)

end Debouncer

end LiveJson
