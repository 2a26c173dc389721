import Vstuff.Vgsm.Monitor

/-! Every exit of the handlers of the timer sets a status together with the timer that belongs to
it, except for those that forget the status. The handlers are followed to their end whatever the
unsolicited responses do between two of their steps, which is little: a response changes the status
and the timer together, or not at all. -/
namespace Vstuff.Vgsm.Monitor
open Transition
set_option linter.all false

/-- The timer runs exactly in the statuses it has to. -/
def Me.Paired (me : Me) : Prop :=
  me.pending = decide (me.status ∈ MeStatus.timed) ∧ me.status ≠ .initializing

/-- What a response may do while a handler of the timer runs. -/
structure Responds (me me' : Me) : Prop where
  opened : me'.opened = me.opened
  inService : me'.inService = me.inService
  powerAttempts : me'.powerAttempts = me.powerAttempts
  dark : me'.darkExpiries ≤ me.darkExpiries
  status : me'.status = me.status ∧ me'.pending = me.pending ∨ me'.Paired ∧ me'.status ≠ .closed

theorem Responds.refl (me : Me) : Responds me me := ⟨rfl, rfl, rfl, Nat.le_refl _, .inl ⟨rfl, rfl⟩⟩

theorem Responds.trans {me me' me'' : Me} (first : Responds me me') (second : Responds me' me'') :
    Responds me me'' where
  opened := second.opened.trans first.opened
  inService := second.inService.trans first.inService
  powerAttempts := second.powerAttempts.trans first.powerAttempts
  dark := Nat.le_trans second.dark first.dark
  status := by
    rcases second.status with ⟨status, pending⟩ | moved
    · rcases first.status with ⟨status', pending'⟩ | ⟨⟨paired, known⟩, other⟩
      · exact .inl ⟨status.trans status', pending.trans pending'⟩
      · right
        unfold Me.Paired
        rw [status, pending]
        exact ⟨⟨paired, known⟩, other⟩
    · exact .inr moved

/-- In service, with as many attempts counted as expiries have found no power. -/
structure Me.Counted (me : Me) : Prop where
  inService : me.inService = true
  attempts : me.darkExpiries ≤ me.powerAttempts
  dark : me.darkExpiries < 4

/-- In service, and the last expiry was not one in POWERING_ON. -/
structure Me.Fresh (me : Me) : Prop where
  inService : me.inService = true
  dark : me.darkExpiries = 0

/-- As a handler has to leave the ME. -/
structure Me.Settled (me : Me) : Prop extends Me.Counted me where
  paired : me.Paired
  opened : me.status = .closed → me.opened = false

theorem Me.Fresh.counted {me : Me} (fresh : me.Fresh) : me.Counted :=
  ⟨fresh.inService, by rw [fresh.dark]; exact Nat.zero_le _, by rw [fresh.dark]; decide⟩

section Stability
open Script

end Stability

/-! ## What the procedures do to it -/

theorem Me.Counted.setStatus {me : Me} (counted : me.Counted) (status : MeStatus) (timeout : Int) :
    (me.setStatus status timeout).Counted := by
  obtain ⟨inService, attempts, dark⟩ := counted
  constructor
  · exact inService
  · unfold Me.setStatus
    dsimp only
    split <;> omega
  · unfold Me.setStatus
    dsimp only
    split <;> omega

theorem Me.Fresh.setStatus {me : Me} (fresh : me.Fresh) (status : MeStatus) (timeout : Int) :
    (me.setStatus status timeout).Fresh := by
  obtain ⟨inService, dark⟩ := fresh
  refine ⟨inService, ?_⟩
  unfold Me.setStatus
  dsimp only
  rw [dark, ite_self]

/-- A status and the timeout it is entered with: the timer is started if it has to run. -/
def Matches (status : MeStatus) (timeout : Int) : Prop :=
  decide (timeout ≥ 0) = decide (status ∈ MeStatus.timed) ∧ status ≠ .initializing ∧ status ≠ .closed

instance (status : MeStatus) (timeout : Int) : Decidable (Matches status timeout) :=
  inferInstanceAs (Decidable (_ ∧ _ ∧ _))

section Procedures
open Script
variable {clean : Question → Bool → Prop}

theorem Me.Fresh.settles {me : Me} (fresh : me.Fresh) {status : MeStatus} {timeout : Int} (fits : Matches status timeout) :
    (me.setStatus status timeout).Settled :=
  { fresh.counted.setStatus status timeout with
    paired := ⟨fits.1, fits.2.1⟩
    opened := fun closed => absurd closed fits.2.2 }

/-- What an update of the network information leaves, when nothing of it fails silently. -/
def Updated (updated : Bool) (me : Me) : Prop := me.Fresh ∧ (updated = false → me.Settled)

end Procedures

/-! ## Every run -/

/-- What the handler of a response may do, and that one which does not rest the ME leaves it a
status in which the timer runs. -/
def Urc.May (urc : Urc) (me me' : Me) : Prop :=
  Responds me me' ∧ (¬urc.Rests me → me.status ∈ MeStatus.timed → me'.status ∈ MeStatus.timed)

/-- The handlers are on their way to a settled ME. -/
structure Kept (c : Config) : Prop where
  monitor : c.firing = false → c.monitor.Leads Responds (Told c.fired) (fun _ => Me.Settled) c.me
  firing : c.firing = true → c.monitor.returned = true ∧ c.me.Counted ∧ c.me.status ∈ MeStatus.timed ∧
    (c.me.status = .closed → c.me.opened = false)
  comm : c.comm.Within c.urc.May

/-- An ME in service that has never been opened. -/
def unopened : Config where
  me := ⟨.closed, true, false, 1, true, 0, 0, 0, 0⟩
  monitor := .pure ()
  comm := .pure ()
  firing := false
  fired := .unconfigured
  urc := .sysstart

end Vstuff.Vgsm.Monitor
