/-! # Permits

    A lock that many may share and a mailbox with few places both give out permits.
    Whoever asks first is served first: what comes back goes to those who wait, the first
    of them before the next, even where it is not yet all that he lacks. So nobody takes
    permits past those who wait. -/

namespace Dialogue.Live

/-- Permits that are free, and who waits for how many. -/
structure Permits where
  free : Nat
  /-- Who waits, and how many permits he still lacks. -/
  waiting : List (Nat × Nat) := []

namespace Permits

/-- Whether the caller waits for permits. -/
def awaited (p : Permits) (caller : Nat) : Bool := p.waiting.any (·.1 = caller)

/-- Takes `n` permits, and says whether all of them were free. If not, the caller keeps those that
    were and waits for the others. -/
def acquire (p : Permits) (caller n : Nat) : Permits × Bool :=
  if n ≤ p.free then ({ p with free := p.free - n }, true)
  else ({ free := 0, waiting := p.waiting ++ [(caller, n - p.free)] }, false)

/-- Hands `n` permits to those who wait; returns who has got all that he lacked, in order. -/
def hand (n : Nat) : List (Nat × Nat) → Permits × List Nat
  | [] => ({ free := n }, [])
  | (caller, lacked) :: ws =>
    if lacked ≤ n then
      let (p, served) := hand (n - lacked) ws
      (p, caller :: served)
    else ({ free := 0, waiting := (caller, lacked - n) :: ws }, [])

/-- Puts `n` permits back; returns who is served by them, in order. -/
def release (p : Permits) (n : Nat) : Permits × List Nat := hand (p.free + n) p.waiting

end Permits
end Dialogue.Live
