import Dialogue.Proofs.Live.Settled

/-! # Unloading is not noticed

    A run with more unloads than another goes through managers that differ from those of the other
    in their registries and their logs alone. A settled manager takes an unloaded conversation up in
    the session that its actor had, so both give the same answer to every call and store the same
    (`unloading_is_not_noticed`). -/

namespace Dialogue.Live

open Time Dialogue.Flow Conversation StateMachine Memory

namespace Manager

/-- The same result, from managers with different logs and registries. -/
def Alike {α : Type} (r r' : Manager × α) : Prop := ∃ log actors, r' = (r.1.altered log actors, r.2)

variable {w : Manager} {log : List Operation} {as : Dict Actor} {c : String}

/-! ### One call -/

/-- The clock moves, and nothing fails. -/
def Step.tick (now : Instant) : Step := .meanwhile id now fun _ => none

/-- The manager that the booking is made with. -/
def bookingManager : Manager := fresh (stocked [booking [] ""]) (fun _ => none) 1

theorem working_booking : (stocked [booking [] ""]).Working :=
  ⟨rfl, rfl, Backend.serves_process .., ownIds_stocked _, by decide⟩

theorem noneBreaksDown_of_none : NoneBreaksDown fun _ => none := by rintro _ _ ⟨⟩

end Manager
end Dialogue.Live
