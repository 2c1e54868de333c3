import SceneFactory.Duration

/-!
# A scripted event loop

An event loop whose slices are given as data: each entry says how much time its
slice takes, what changes, and whether the host's event queue is run first. Behind
the last entry every slice passes in full and nothing happens.
-/

namespace SceneFactory.Scripted

/-- What happens in one slice. -/
structure Entry (κ : Type) where
  /-- The time that is reported; the full slice if nothing is said. -/
  elapsed? : Option Duration
  /-- A change that is made. -/
  change? : Option κ
  /-- Whether the event queue is run until it is empty, before the change. -/
  runsQueue : Bool
deriving Inhabited

/-- The entries to come, and the slices given so far, the newest first. -/
structure Pump (κ : Type) where
  entries : List (Entry κ)
  given : List Duration
deriving Inhabited

namespace Pump

variable {κ : Type}

/-- The entry that is played when there is no other. -/
def idle : Entry κ := ⟨none, none, false⟩

/-- A pump that has not been called. -/
def ofEntries (entries : List (Entry κ)) : Pump κ := ⟨entries, []⟩

/-- Plays the next entry. -/
def play (slice : Duration) (p : Pump κ) : Entry κ × Pump κ :=
  match p.entries with
  | [] => (idle, ⟨[], slice :: p.given⟩)
  | e :: rest => (e, ⟨rest, slice :: p.given⟩)

/-- The slices given so far, in order. -/
def slices (p : Pump κ) : List Duration := p.given.reverse

/-- The time that an entry reports for a slice. -/
def elapsed (slice : Duration) (e : Entry κ) : Duration := e.elapsed?.getD slice

end Pump

end SceneFactory.Scripted
