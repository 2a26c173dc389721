import Vstuff.Vgsm.Mesim

/-! Where the thread of the SIM interface aborts. Its two state machines can be in a few
pairs of states only; in these, what the module and the SIM do is always handled, while
the asserts on the order of the modes and of the holder's reports are reached, and so is
the one on the descriptor of a reader that is opened again. -/
namespace Vstuff.Vgsm
open Lapd (Octets)
open Transition
set_option linter.all false

/-! ## The pairs of states -/

/-- The interface and the local reader can be in these two states. -/
def MesimState.goesWith : MesimState → LocalState → Bool
  | .unconfigured, .opening | .settingMode, .null | .settingMode, .opening
  | .directlyRouted, .directlyRouted
  | .holderRemoved, .holderRemoved | .holderRemoved, .failed
  | .holderChanging, .reset
  | .reset, .reset | .reset, .failed
  | .ready, .reset | .ready, .readingAtr | .ready, .ready | .ready, .failed => true
  | _, _ => false

/-- The states of the local reader in which its timer runs. -/
def LocalState.timed : LocalState → Bool
  | .opening | .readingAtr | .failed => true
  | _ => false

/-- The states of the interface while a client is its driver. -/
def MesimState.served : MesimState → Bool
  | .settingMode | .holderRemoved | .holderChanging | .ready | .reset => true
  | _ => false

/-- The states of the interface in which its timer runs. -/
def MesimState.timed : MesimState → Bool
  | .settingMode | .holderChanging => true
  | _ => false

/-- A reader has no thread before its descriptor is open, and one at most. -/
structure MesimLocal.Threaded (sim : MesimLocal) : Prop where
  unopened : sim.fd = none → sim.modemThread = [] ∧ sim.opened = false
  thread : sim.modemThread = [] ∨ sim.modemThread = [.create] ∧ sim.type ≠ .vgsmDirect

/-- A local reader beside the interface: it is not open before its timer has fired. -/
structure MesimLocal.Fits (sim : MesimLocal) (state : MesimState) (timer : Option Int) : Prop extends sim.Threaded where
  pair : state.goesWith sim.state
  timed : sim.timer.isSome → sim.state.timed
  shut : sim.state = .null ∨ sim.state = .opening → sim.fd = none
  waiting : state = .settingMode → timer.isSome → sim.state = .null

/-- The driver in place beside the state and the timer of the interface. -/
def Driver.Fits (state : MesimState) (timer : Option Int) : Option Driver → Prop
  | none => state = .unconfigured ∨ state = .closed
  | some (.localSim sim) => sim.Fits state timer
  | some (.client clnt) =>
    (state.served ∨ state = .unconfigured) ∧
      (state = .settingMode → timer.isSome → clnt.listenFd = none ∧ clnt.sockFd = none)
  | some (.implementa impl) => state.served ∧ (impl.timer.isSome → impl.state = .trying)

/-- The states, the timers and the descriptors agree. -/
structure Mesim.Consistent (mesim : Mesim) : Prop where
  timer : mesim.timer.isSome → mesim.state.timed
  driver : Driver.Fits mesim.state mesim.timer mesim.driver

/-- The thread goes on, with what agrees. -/
def Continues (result : Except Fault Mesim) : Prop := ∃ mesim, result = .ok mesim ∧ mesim.Consistent

theorem Continues.bind {result : Except Fault Mesim} {next : Mesim → Except Fault Mesim}
    (first : Continues result) (rest : ∀ mesim, mesim.Consistent → Continues (next mesim)) :
    Continues (result >>= next) := by
  obtain ⟨mesim, rfl, consistent⟩ := first
  exact rest mesim consistent

namespace Mesim

variable {mesim : Mesim} {sim : MesimLocal} {clnt : MesimClnt} {impl : MesimImpl}

theorem Consistent.ok (consistent : mesim.Consistent) : Continues (.ok mesim) := ⟨mesim, rfl, consistent⟩

/-- What neither the state nor the timer nor the driver depends on. -/
theorem Consistent.congr {other : Mesim} (consistent : mesim.Consistent) (state : other.state = mesim.state)
    (timer : other.timer = mesim.timer) (driver : other.driver = mesim.driver) : other.Consistent := by
  constructor
  · rw [state, timer]
    exact consistent.timer
  · rw [state, timer, driver]
    exact consistent.driver

theorem Consistent.setRemoved (consistent : mesim.Consistent) : mesim.setRemoved.Consistent :=
  consistent.congr (by simp) (by simp) (by simp)

theorem Consistent.setInserted (consistent : mesim.Consistent) : mesim.setInserted.Consistent :=
  consistent.congr rfl rfl rfl

theorem Consistent.fits (consistent : mesim.Consistent) (here : mesim.driver = some (.localSim sim)) :
    sim.Fits mesim.state mesim.timer := by
  have fits := consistent.driver
  rw [here] at fits
  exact fits

/-! ## Opening the reader -/

/-- The reader goes to a state it reaches when it has been activated. -/
theorem changeState_fits {state : MesimState} {timer : Option Int} {newstate : LocalState} {timeout : Option Int}
    (threaded : sim.Threaded) (pair : state.goesWith newstate) (timed : timeout.isSome → newstate.timed)
    (late : newstate ≠ .null ∧ newstate ≠ .opening) : (sim.changeState newstate timeout).Fits state timer where
  unopened := threaded.unopened
  thread := threaded.thread
  pair := pair
  timed := timed
  shut := fun early => (early.elim late.1 late.2).elim
  waiting := by
    intro setting
    subst setting
    cases newstate <;> simp_all [MesimState.goesWith]

theorem put_consistent (timer : mesim.timer.isSome → mesim.state.timed) (fits : sim.Fits mesim.state mesim.timer) :
    (mesim.put (.localSim sim)).Consistent := ⟨timer, fits⟩

theorem put_impl_consistent (timer : mesim.timer.isSome → mesim.state.timed) (served : mesim.state.served)
    (trying : impl.timer.isSome → impl.state = .trying) :
    (mesim.put (.implementa impl)).Consistent := ⟨timer, served, trying⟩

theorem localFailed_consistent (state : mesim.state = .holderRemoved) (timer : mesim.timer = none)
    (threaded : sim.Threaded) : (mesim.localFailed sim).Consistent := by
  refine put_consistent (by simp [timer]) (changeState_fits threaded ?_ ?_ ?_)
  · rw [state]
    rfl
  · exact fun _ => rfl
  · decide

theorem localConfigure_consistent (calls : OpenCalls) (state : mesim.state = .holderRemoved)
    (timer : mesim.timer = none) (isOpen : sim.fd ≠ none) (unthreaded : sim.modemThread = []) :
    (mesim.localConfigure sim calls).Consistent := by
  have threaded : sim.Threaded := ⟨fun shut => (isOpen shut).elim, .inl unthreaded⟩
  unfold localConfigure
  split
  · exact localFailed_consistent state timer threaded
  · split
    · exact put_consistent (by simp) (changeState_fits threaded rfl (by simp) (by decide))
    · rename_i routed
      cases calls.modemGet with
      | none => exact localFailed_consistent state timer threaded
      | some cts =>
        have watched : (sim.watch calls.thread).Threaded := by
          cases calls.thread with
          | false => exact ⟨fun shut => (isOpen shut).elim, .inl unthreaded⟩
          | true => exact ⟨fun shut => (isOpen shut).elim, .inr ⟨by simp [MesimLocal.watch, unthreaded], routed⟩⟩
        dsimp only
        split
        · refine put_consistent (fun _ => ?_) ?_
          · rw [setRemoved_state]
            rfl
          · rw [setRemoved_state, setRemoved_timer]
            exact changeState_fits watched rfl (by simp) (by decide)
        · exact put_consistent (by simp) (changeState_fits watched rfl (by simp) (by decide))

theorem localOpen_continues (calls : OpenCalls) (shut : sim.fd = none) (threaded : sim.Threaded) :
    Continues (mesim.localOpen sim calls) := by
  obtain ⟨unthreaded, -⟩ := threaded.unopened shut
  have failed (fd : Option Nat) : ((mesim.changeState .holderRemoved none).localFailed { sim with fd }).Consistent := by
    refine localFailed_consistent rfl rfl ⟨fun _ => ?_, .inl unthreaded⟩
    exact threaded.unopened shut
  have configured (fd : Nat) (type : LocalType) :
      ((mesim.changeState .holderRemoved none).localConfigure { sim with fd := some fd, type } calls).Consistent :=
    localConfigure_consistent calls rfl rfl (by simp) unthreaded
  unfold localOpen
  rw [if_neg (by simp [shut])]
  dsimp only
  split
  · rename_i none_opened
    have same := failed none
    rw [← shut] at same
    exact same.ok
  · rename_i fd got
    split
    · exact (failed (some fd)).ok
    · split
      · exact (failed (some fd)).ok
      · exact (configured fd .usb).ok
      · split
        · exact (failed (some fd)).ok
        · split
          · exact (configured fd .vgsmDirect).ok
          · exact (configured fd .vgsm).ok

/-! ## Timers of the drivers -/

theorem localTimerFired_continues (calls : OpenCalls) (consistent : mesim.Consistent)
    (here : mesim.driver = some (.localSim sim)) (running : sim.timer.isSome)
    (closed : sim.state = .failed → sim.fd = none) :
    Continues (mesim.localTimerFired { sim with timer := none } calls) := by
  have fits := consistent.fits here
  have timed := fits.timed running
  unfold localTimerFired
  cases state : sim.state with
  | opening => exact localOpen_continues calls (fits.shut (.inr state)) ⟨fits.unopened, fits.thread⟩
  | failed => exact localOpen_continues calls (closed state) ⟨fits.unopened, fits.thread⟩
  | readingAtr =>
    have pair := fits.pair
    refine (put_consistent consistent.timer (changeState_fits ⟨fits.unopened, fits.thread⟩ ?_ ?_ (by decide))).ok
    · rw [state] at pair
      revert pair
      cases mesim.state <;> decide
    · exact fun _ => rfl
  | null | holderRemoved | reset | ready | directlyRouted =>
    rw [state] at timed
    cases timed

theorem implTimerFired_continues (calls : ImplCalls) (consistent : mesim.Consistent)
    (here : mesim.driver = some (.implementa impl)) (running : impl.timer.isSome) (shut : impl.sockFd = none) :
    Continues (mesim.implTimerFired { impl with timer := none } calls) := by
  have fits := consistent.driver
  rw [here] at fits
  obtain ⟨served, trying⟩ := fits
  have state := trying running
  have waits (other : MesimImpl) (idle : other.timer.isSome → other.state = .trying) :
      Continues (.ok (mesim.put (.implementa other))) :=
    (put_impl_consistent consistent.timer served idle).ok
  unfold implTimerFired
  simp only [state, shut]
  split
  · contradiction
  · split
    · exact waits _ nofun
    · split
      · exact waits _ nofun
      · split
        · exact waits _ nofun
        · split
          · exact waits _ fun _ => rfl
          · exact (put_impl_consistent (by simp) rfl (by simp)).ok

/-! ## Messages of the module -/

/-- The thread is in none of the states that every message finds impossible. -/
theorem Consistent.not_closing (consistent : mesim.Consistent) : mesim.state ≠ .closing := by
  intro closing
  have fits := consistent.driver
  rw [closing] at fits
  unfold Driver.Fits at fits
  split at fits
  · simp at fits
  · exact absurd fits.pair (by simp [MesimState.goesWith])
  · exact absurd fits.1 (by decide)
  · exact absurd fits.1 (by decide)

/-- From UNCONFIGURED on there is a driver. -/
theorem Consistent.driven (consistent : mesim.Consistent) (configured : mesim.state ≠ .unconfigured)
    (notClosed : mesim.state ≠ .closed) : ∃ driver, mesim.driver = some driver := by
  cases here : mesim.driver with
  | some driver => exact ⟨driver, rfl⟩
  | none =>
    have fits := consistent.driver
    rw [here] at fits
    exact (fits.elim configured notClosed).elim

/-- A call of the driver after which the structure of the local one agrees with the
interface; a client agrees with every state in which it serves. -/
theorem driverCall_continues {next : Mesim} {call : MesimLocal → Except Fault MesimLocal}
    (consistent : mesim.Consistent) (same : next.driver = mesim.driver) (present : ∃ driver, mesim.driver = some driver)
    (timer : next.timer.isSome → next.state.timed) (served : next.state.served) (late : next.state ≠ .settingMode)
    (reader : ∀ sim, mesim.driver = some (.localSim sim) →
      ∃ later, call sim = .ok later ∧ later.Fits next.state next.timer) :
    Continues (next.driverCall call) := by
  obtain ⟨driver, here⟩ := present
  have fits := consistent.driver
  unfold driverCall
  rw [same, here]
  rw [here] at fits
  cases driver with
  | localSim sim =>
    obtain ⟨later, called, agrees⟩ := reader sim here
    dsimp only
    rw [called]
    exact (put_consistent timer agrees).ok
  | client clnt =>
    refine (Consistent.mk timer ?_).ok
    rw [same, here]
    exact ⟨.inl served, fun setting => (late setting).elim⟩
  | implementa impl =>
    refine (Consistent.mk timer ?_).ok
    rw [same, here]
    exact ⟨served, fits.2⟩

theorem noteReset_consistent (consistent : mesim.Consistent) (isReset : Bool) : (mesim.noteReset isReset).Consistent :=
  consistent.congr rfl rfl rfl

theorem resetAsserted_continues (consistent : mesim.Consistent) (notClosed : mesim.state ≠ .closed) :
    Continues mesim.receiveResetAsserted := by
  have noted := noteReset_consistent consistent true
  unfold receiveResetAsserted
  generalize earlier : mesim.noteReset true = other at noted
  have notClosed : other.state ≠ .closed := earlier ▸ notClosed
  dsimp only
  cases state : other.state with
  | closed => exact (notClosed state).elim
  | closing => exact (noted.not_closing state).elim
  | ready =>
    refine driverCall_continues noted rfl (noted.driven (by simp [state]) notClosed) (by simp) rfl (by simp) ?_
    intro sim here
    have fits := noted.fits here
    rw [state] at fits
    have pair := fits.pair
    unfold MesimLocal.resetAsserted
    cases reader : sim.state with
    | null | directlyRouted | opening | holderRemoved =>
      rw [reader] at pair
      cases pair
    | ready | readingAtr => exact ⟨_, rfl, changeState_fits fits.toThreaded rfl (by simp) (by decide)⟩
    | reset | failed => exact ⟨_, rfl, { fits with pair := by rw [reader]; rfl, waiting := nofun }⟩
  | _ => exact noted.ok

theorem resetRemoved_continues (consistent : mesim.Consistent) (notClosed : mesim.state ≠ .closed) :
    Continues mesim.receiveResetRemoved := by
  have noted := noteReset_consistent consistent false
  unfold receiveResetRemoved
  generalize earlier : mesim.noteReset false = other at noted
  have notClosed : other.state ≠ .closed := earlier ▸ notClosed
  dsimp only
  cases state : other.state with
  | closed => exact (notClosed state).elim
  | closing => exact (noted.not_closing state).elim
  | reset =>
    refine driverCall_continues noted rfl (noted.driven (by simp [state]) notClosed) (by simp) rfl (by simp) ?_
    intro sim here
    have fits := noted.fits here
    rw [state] at fits
    have pair := fits.pair
    unfold MesimLocal.resetRemoved
    cases reader : sim.state with
    | null | opening | ready | directlyRouted | holderRemoved | readingAtr =>
      rw [reader] at pair
      cases pair
    | reset | failed =>
      refine ⟨_, rfl, changeState_fits ⟨fits.unopened, fits.thread⟩ rfl (fun _ => rfl) (by decide)⟩
  | _ => exact noted.ok

/-! ## Messages of the holder -/

/-- The report of the holder changes what the interface last knew of it. -/
def HolderRemovedHandled (mesim : Mesim) : Prop :=
  (mesim.state ≠ .unconfigured ∧ mesim.state ≠ .settingMode ∧ mesim.state ≠ .directlyRouted) ∧
    ∀ sim, mesim.driver = some (.localSim sim) → sim.state ≠ .holderRemoved

def HolderInsertedHandled (mesim : Mesim) : Prop :=
  mesim.state = .holderRemoved ∧ ∀ sim, mesim.driver = some (.localSim sim) → sim.state = .holderRemoved

theorem holderRemoved_continues (consistent : mesim.Consistent) (notClosed : mesim.state ≠ .closed)
    (handled : mesim.HolderRemovedHandled) : Continues mesim.receiveHolderRemoved := by
  obtain ⟨⟨configured, set, routed⟩, elsewhere⟩ := handled
  have removed (next : Mesim) (same : next.driver = mesim.driver) (state : next.state = .holderRemoved)
      (timer : next.timer = none) : Continues next.driverHolderRemoved := by
    refine driverCall_continues consistent same (consistent.driven configured notClosed) (by simp [timer])
      (by rw [state]; rfl) (by simp [state]) ?_
    intro sim here
    have fits := consistent.fits here
    have pair := fits.pair
    unfold MesimLocal.holderRemoved
    cases reader : sim.state with
    | null | opening | directlyRouted =>
      rw [reader] at pair
      cases stands : mesim.state with
      | _ => simp_all [MesimState.goesWith]
    | holderRemoved => exact (elsewhere sim here reader).elim
    | ready | readingAtr | reset | failed =>
      exact ⟨_, rfl, changeState_fits fits.toThreaded (by rw [state]; rfl) (by simp) (by decide)⟩
  unfold receiveHolderRemoved
  cases state : mesim.state with
  | closed => exact (notClosed state).elim
  | closing => exact (consistent.not_closing state).elim
  | directlyRouted => exact (routed state).elim
  | unconfigured => exact (configured state).elim
  | settingMode => exact (set state).elim
  | holderRemoved =>
    have timed := consistent.timer
    rw [state] at timed
    refine removed mesim rfl state ?_
    cases timer : mesim.timer with
    | none => rfl
    | some _ => exact absurd (timed (by simp [timer])) (by decide)
  | holderChanging | simMissing | ready | reset => exact removed _ (by simp) (by simp) (by simp)

theorem holderInserted_continues (consistent : mesim.Consistent) (handled : mesim.HolderInsertedHandled) :
    Continues mesim.receiveHolderInserted := by
  obtain ⟨state, reader⟩ := handled
  have inserted (next : Mesim) (same : next.driver = mesim.driver)
      (timer : next.timer.isSome → next.state.timed) (pair : next.state.goesWith .reset)
      (served : next.state.served) : Continues next.driverHolderInserted := by
    refine driverCall_continues consistent same (consistent.driven (by simp [state]) (by simp [state])) timer served ?_ ?_
    · intro setting
      rw [setting] at pair
      cases pair
    · intro sim here
      unfold MesimLocal.holderInserted
      rw [reader sim here]
      exact ⟨_, rfl, changeState_fits (consistent.fits here).toThreaded pair (by simp) (by decide)⟩
  unfold receiveHolderInserted
  rw [state]
  dsimp only
  split
  · exact inserted _ rfl (by simp) rfl rfl
  · refine inserted _ (by simp) ?_ ?_ ?_ <;> simp only [setInserted_state, setRemoved_state, changeState_state]
    · exact fun _ => rfl
    · rfl
    · rfl

/-! ## Modes -/

/-- A mode can be set when none is being set. -/
def SetModeHandled (mesim : Mesim) (driverType : DriverType) : Prop :=
  mesim.state ≠ .settingMode ∧ driverType ≠ .none

/-- The driver in place is the one just created. -/
def Created (mesim : Mesim) : Prop :=
  (∃ memory, mesim.driver = some (.localSim { type := memory })) ∨ mesim.driver = some (.client {}) ∨
    mesim.driver = some (.implementa {})

theorem setMode_creates (mesim : Mesim) {driverType : DriverType} (memory : LocalType) (type : driverType ≠ .none) :
    ∃ later, mesim.setMode driverType memory = .ok later ∧ later.Created ∧ later.state = mesim.state ∧
      later.timer = mesim.timer := by
  unfold setMode
  cases driverType with
  | none => exact (type rfl).elim
  | localSim => cases mesim.driver <;> exact ⟨_, rfl, .inl ⟨memory, rfl⟩, rfl, rfl⟩
  | client => cases mesim.driver <;> exact ⟨_, rfl, .inr (.inl rfl), rfl, rfl⟩
  | implementa => cases mesim.driver <;> exact ⟨_, rfl, .inr (.inr rfl), rfl, rfl⟩

theorem activate_local (fits : sim.Threaded) (shut : sim.fd = none) (timer : mesim.timer = none)
    (state : mesim.state = .unconfigured ∨ mesim.state = .settingMode) :
    (mesim.put (.localSim sim.activate)).Consistent := by
  refine put_consistent (by simp [timer]) ⟨⟨fits.unopened, fits.thread⟩, ?_, fun _ => rfl, fun _ => shut, ?_⟩
  · obtain state | state := state <;> rw [state] <;> rfl
  · simp [timer]

theorem client_consistent (here : mesim.driver = some (.client clnt)) (timer : mesim.timer = none)
    (served : mesim.state.served ∨ mesim.state = .unconfigured) : mesim.Consistent := by
  refine ⟨by simp [timer], ?_⟩
  rw [here, timer]
  exact ⟨served, nofun⟩

theorem clntActivate_continues (calls : ClntCalls) (here : mesim.driver = some (.client clnt))
    (shut : clnt.listenFd = none ∧ clnt.sockFd = none) (timer : mesim.timer = none)
    (state : mesim.state = .unconfigured ∨ mesim.state = .settingMode) :
    Continues (mesim.clntActivate clnt calls) := by
  have served : mesim.state.served ∨ mesim.state = .unconfigured := by
    obtain state | state := state
    · exact .inr state
    · exact .inl (by rw [state]; rfl)
  unfold clntActivate
  rw [if_neg (by simp [shut])]
  split
  · exact (client_consistent here timer served).ok
  · split
    · exact (client_consistent here timer served).ok
    · split
      · exact Consistent.ok (client_consistent rfl timer served)
      · exact Consistent.ok (client_consistent rfl rfl (.inl rfl))

theorem implActivate_consistent : (mesim.implActivate impl).Consistent :=
  put_impl_consistent (by simp) rfl fun _ => rfl

theorem activate_created (calls : ClntCalls) (created : mesim.Created) (timer : mesim.timer = none)
    (state : mesim.state = .unconfigured) : Continues (mesim.activate calls) := by
  unfold activate
  obtain ⟨memory, here⟩ | here | here := created <;> rw [here]
  · exact (activate_local ⟨fun _ => ⟨rfl, rfl⟩, .inl rfl⟩ rfl timer (.inl state)).ok
  · exact clntActivate_continues calls here ⟨rfl, rfl⟩ timer (.inl state)
  · exact implActivate_consistent.ok

theorem Created.waits (created : mesim.Created) (time : Int) :
    (mesim.changeState .settingMode (some time)).Consistent := by
  refine ⟨fun _ => rfl, ?_⟩
  rw [changeState_driver]
  obtain ⟨memory, here⟩ | here | here := created <;> rw [here]
  · exact ⟨⟨fun _ => ⟨rfl, rfl⟩, .inl rfl⟩, rfl, by simp, fun _ => rfl, fun _ _ => rfl⟩
  · exact ⟨.inl rfl, fun _ _ => ⟨rfl, rfl⟩⟩
  · exact ⟨rfl, by simp⟩

theorem Consistent.untimed (consistent : mesim.Consistent) (state : mesim.state.timed = false) : mesim.timer = none := by
  cases timer : mesim.timer with
  | none => rfl
  | some _ =>
    have timed := consistent.timer (by simp [timer])
    rw [state] at timed
    cases timed

theorem deactivate_ok {driver : Driver} (here : mesim.driver = some driver) :
    ∃ later, mesim.deactivate = .ok later ∧ later.driver = none ∧
      later.released = mesim.released ++ [driver.deactivate] := by
  unfold deactivate
  rw [here]
  exact ⟨_, rfl, by simp, by simp⟩

theorem setMode_continues {driverType : DriverType} (memory : LocalType) (calls : ClntCalls)
    (consistent : mesim.Consistent) (notClosed : mesim.state ≠ .closed) (handled : mesim.SetModeHandled driverType) :
    Continues (mesim.receiveSetMode driverType memory calls) := by
  obtain ⟨idle, type⟩ := handled
  have replaced (configured : mesim.state ≠ .unconfigured) : Continues (do
      let mesim ← mesim.deactivate
      let mesim ← mesim.setMode driverType memory
      return mesim.changeState .settingMode (some (3 * sec))) := by
    obtain ⟨driver, here⟩ := consistent.driven configured notClosed
    obtain ⟨removed, deactivated, -⟩ := deactivate_ok here
    obtain ⟨later, done, created, -⟩ := setMode_creates removed memory type
    rw [deactivated]
    exact ⟨_, by simp only [bind, Except.bind, done]; rfl, created.waits _⟩
  unfold receiveSetMode
  cases state : mesim.state with
  | closed => exact (notClosed state).elim
  | closing => exact (consistent.not_closing state).elim
  | settingMode => exact (idle state).elim
  | unconfigured =>
    obtain ⟨later, done, created, same, timer⟩ := setMode_creates mesim.setRemoved memory type
    rw [setRemoved_state] at same
    rw [setRemoved_timer, consistent.untimed (by rw [state]; rfl)] at timer
    dsimp only
    rw [done]
    exact activate_created calls created timer (same.trans state)
  | holderChanging | directlyRouted | holderRemoved | simMissing | reset | ready =>
    exact replaced (by simp [state])

/-- The holder has not changed back. -/
theorem settled_consistent {state : MesimState} (consistent : mesim.Consistent) (changing : mesim.state = .holderChanging)
    (settled : state = .reset ∨ state = .ready) : (mesim.changeState state none).setInserted.Consistent := by
  have fits := consistent.driver
  rw [changing] at fits
  have served : state.served := by obtain rfl | rfl := settled <;> rfl
  refine ⟨by simp, ?_⟩
  rw [setInserted_driver, changeState_driver, setInserted_state, changeState_state, setInserted_timer,
    changeState_timer]
  cases here : mesim.driver with
  | none =>
    rw [here] at fits
    simp [Driver.Fits] at fits
  | some driver =>
    rw [here] at fits
    cases driver with
    | localSim sim =>
      have pair := fits.pair
      have reset : sim.state = .reset := by
        cases reader : sim.state <;> rw [reader] at pair <;> first | rfl | cases pair
      refine { fits with pair := ?_, waiting := nofun }
      rw [reset]
      obtain rfl | rfl := settled <;> rfl
    | client clnt => exact ⟨.inl served, nofun⟩
    | implementa impl => exact ⟨served, fits.2⟩

/-- The timer of the interface fires. -/
theorem timerFired_continues (calls : ClntCalls) (consistent : mesim.Consistent) (running : mesim.timer.isSome) :
    Continues (timerFired { mesim with timer := none } calls) := by
  have timed := consistent.timer running
  have fits := consistent.driver
  unfold timerFired
  cases state : mesim.state with
  | holderChanging =>
    refine Consistent.ok ?_
    dsimp only
    split
    · exact (settled_consistent consistent state (.inl rfl)).congr rfl rfl rfl
    · exact (settled_consistent consistent state (.inr rfl)).congr rfl rfl rfl
  | settingMode =>
    rw [state] at fits
    dsimp only
    unfold activate
    dsimp only
    cases here : mesim.driver with
    | none =>
      rw [here] at fits
      simp [Driver.Fits] at fits
    | some driver =>
      rw [here] at fits
      cases driver with
      | localSim sim =>
        exact (activate_local fits.toThreaded (fits.shut (.inl (fits.waiting rfl running))) rfl (.inr rfl)).ok
      | client clnt => exact clntActivate_continues calls rfl (fits.2 rfl running) rfl (.inr rfl)
      | implementa impl => exact implActivate_consistent.ok
  | _ =>
    rw [state] at timed
    cases timed

/-! ## Octets -/

/-- Octets of the module that wait for the SIM. -/
theorem send_fits {state : MesimState} {timer : Option Int} (fits : sim.Fits state timer) (buf : Octets) :
    (sim.send buf).Fits state timer := by
  unfold MesimLocal.send
  split
  · split
    · exact fits
    · exact ⟨⟨fits.unopened, fits.thread⟩, fits.pair, fits.timed, fits.shut, fits.waiting⟩
  · exact fits

/-- Octets of the SIM: the answer to reset is read in READY only. -/
theorem receive_fits {state : MesimState} {timer : Option Int} (fits : sim.Fits state timer) (buf : Octets) :
    (sim.receive buf).Fits state timer := by
  unfold MesimLocal.receive
  split
  · exact fits
  · split
    · rename_i reading
      have pair := fits.pair
      have ready : state.goesWith .ready := by
        rw [reading] at pair
        cases state <;> first | rfl | cases pair
      unfold MesimLocal.receiveAtr
      dsimp only
      split
      · exact ⟨⟨fits.unopened, fits.thread⟩, fits.pair, fits.timed, fits.shut, fits.waiting⟩
      · split
        · exact ⟨⟨fits.unopened, fits.thread⟩, fits.pair, fits.timed, fits.shut, fits.waiting⟩
        · have answered : (MesimLocal.changeState sim .ready none).Fits state timer :=
            changeState_fits fits.toThreaded ready nofun (by decide)
          exact ⟨⟨fits.unopened, fits.thread⟩, ready, nofun, nofun, answered.waiting⟩
    · exact fits

theorem receiveData_continues (consistent : mesim.Consistent) (buf : Octets) : Continues (mesim.receiveData buf) := by
  unfold receiveData
  split
  · rename_i ready
    obtain ⟨driver, here⟩ := consistent.driven (by simp [ready]) (by simp [ready])
    rw [here]
    cases driver with
    | localSim sim => exact (put_consistent consistent.timer (send_fits (consistent.fits here) buf)).ok
    | client clnt => exact consistent.ok
    | implementa impl => exact consistent.ok
  · exact consistent.ok

/-- What the other end of the connection says of its holder. -/
theorem implOctets_consistent (buf : Octets) : ∀ {mesim : Mesim} {impl : MesimImpl},
    (mesim.timer.isSome → mesim.state.timed) → mesim.state.served → (impl.timer.isSome → impl.state = .trying) →
    let after := buf.foldl (fun (mesim, impl) x => mesim.implOctet impl x) (mesim, impl)
    (after.1.put (.implementa after.2)).Consistent := by
  induction buf with
  | nil => exact fun timer served trying => put_impl_consistent timer served trying
  | cons x buf ih =>
    intro mesim impl timer served trying
    dsimp only [List.foldl_cons]
    unfold implOctet
    split
    · exact ih timer served trying
    · split
      · exact ih timer served trying
      · split
        · exact ih (fun _ => rfl) rfl trying
        · split
          · exact ih (by simp) (by rw [setRemoved_state]; rfl) trying
          · exact ih timer served trying

theorem implReceive_consistent (consistent : mesim.Consistent) (here : mesim.driver = some (.implementa impl))
    (buf : Octets) : (mesim.implReceive impl buf).Consistent := by
  have fits := consistent.driver
  rw [here] at fits
  obtain ⟨served, trying⟩ := fits
  unfold implReceive
  split
  · exact put_impl_consistent (by simpa using consistent.timer) (by simpa using served) fun _ => rfl
  · split
    · exact consistent
    · exact consistent
    · exact implOctets_consistent buf consistent.timer served trying

theorem driverReceive_continues (consistent : mesim.Consistent) (present : mesim.driver.isSome) (buf : Octets) :
    Continues (mesim.driverReceive buf) := by
  unfold driverReceive
  cases here : mesim.driver with
  | none => simp [here] at present
  | some driver =>
    cases driver with
    | localSim sim => exact (put_consistent consistent.timer (receive_fits (consistent.fits here) buf)).ok
    | client clnt => exact consistent.ok
    | implementa impl => exact (implReceive_consistent consistent here buf).ok

/-! ## A driver stays in place -/

theorem driverCall_present {later : Mesim} {call : MesimLocal → Except Fault MesimLocal}
    (done : mesim.driverCall call = .ok later) : later.driver.isSome := by
  unfold driverCall at done
  cases here : mesim.driver with
  | none =>
    rw [here] at done
    cases done
  | some driver =>
    rw [here] at done
    cases driver with
    | localSim sim =>
      dsimp only at done
      cases called : call sim with
      | error fault =>
        rw [called] at done
        cases done
      | ok after =>
        rw [called] at done
        cases done
        rfl
    | client clnt | implementa impl =>
      cases done
      simp [here]

theorem activate_present {later : Mesim} {calls : ClntCalls} (done : mesim.activate calls = .ok later) :
    later.driver.isSome := by
  unfold activate at done
  cases here : mesim.driver with
  | none =>
    rw [here] at done
    cases done
  | some driver =>
    rw [here] at done
    cases driver with
    | localSim sim | implementa impl =>
      cases done
      rfl
    | client clnt =>
      dsimp only at done
      unfold clntActivate at done
      repeat' split at done
      all_goals cases done
      all_goals simp [here]

theorem setMode_present {later : Mesim} {driverType : DriverType} {memory : LocalType}
    (done : mesim.setMode driverType memory = .ok later) : later.driver.isSome := by
  unfold setMode at done
  cases driverType <;> cases done <;> rfl

theorem receiveMessage_present {later : Mesim} {calls : ClntCalls} {message : MesimMessage}
    (present : mesim.driver.isSome) (done : mesim.receiveMessage calls message = .ok later) : later.driver.isSome := by
  cases message with
  | close | refresh =>
    cases done
    exact present
  | poweringOn =>
    cases done
    exact present
  | poweredOn =>
    cases done
    unfold receivePoweredOn
    dsimp only
    split <;> simpa using present
  | resetAsserted =>
    have done : mesim.receiveResetAsserted = .ok later := done
    unfold receiveResetAsserted at done
    dsimp only at done
    split at done
    · cases done
    · cases done
    · exact driverCall_present done
    · cases done
      exact present
  | resetRemoved =>
    have done : mesim.receiveResetRemoved = .ok later := done
    unfold receiveResetRemoved at done
    dsimp only at done
    split at done
    · cases done
    · cases done
    · exact driverCall_present done
    · cases done
      exact present
  | holderRemoved =>
    have done : mesim.receiveHolderRemoved = .ok later := done
    unfold receiveHolderRemoved at done
    split at done <;> first | cases done | exact driverCall_present done
  | holderInserted =>
    have done : mesim.receiveHolderInserted = .ok later := done
    unfold receiveHolderInserted at done
    split at done
    · exact driverCall_present done
    · cases done
  | setMode driverType memory =>
    have done : mesim.receiveSetMode driverType memory calls = .ok later := done
    unfold receiveSetMode at done
    split at done
    · cases done
    · cases done
    · cases done
    · obtain ⟨created, -, activated⟩ := bind_ok done
      exact activate_present activated
    all_goals
      obtain ⟨removed, -, rest⟩ := bind_ok done
      obtain ⟨created, set, changed⟩ := bind_ok rest
      cases changed
      exact (setMode_present set : created.driver.isSome)

/-! ## One event -/

/-- The message is one that the state handles. -/
def MessageHandled (mesim : Mesim) : MesimMessage → Prop
  | .close => mesim.driver.isSome
  | .setMode driverType _ => mesim.SetModeHandled driverType
  | .holderRemoved => mesim.HolderRemovedHandled
  | .holderInserted => mesim.HolderInsertedHandled
  | .refresh | .resetAsserted | .resetRemoved | .poweringOn | .poweredOn => True

/-- The timer that fires is not the one of a driver that is gone, and a driver that is to
open its descriptor again has closed it. -/
def TimerHandled (mesim : Mesim) : TimerOwner → Prop
  | .mesim => True
  | .driver =>
    (∀ sim, mesim.driver = some (.localSim sim) → sim.timer.isSome → sim.state = .failed → sim.fd = none) ∧
      ∀ impl, mesim.driver = some (.implementa impl) → impl.timer.isSome → impl.sockFd = none
  | .released n => ∀ driver, mesim.released[n]? = some driver → driver.timer = none

/-- The event is one that the state handles; once closed there is nothing to handle. -/
def Handled (mesim : Mesim) : MesimEvent → Prop
  | .expired timer _ _ _ => mesim.state = .closed ∨ mesim.TimerHandled timer
  | .woken message _ _ _ => mesim.state = .closed ∨ ∀ sent, message = some sent → mesim.MessageHandled sent

theorem receiveMessage_continues (calls : ClntCalls) {message : MesimMessage} (consistent : mesim.Consistent)
    (notClosed : mesim.state ≠ .closed) (handled : mesim.MessageHandled message) :
    Continues (mesim.receiveMessage calls message) := by
  cases message with
  | close | refresh => exact consistent.ok
  | resetAsserted => exact resetAsserted_continues consistent notClosed
  | resetRemoved => exact resetRemoved_continues consistent notClosed
  | holderRemoved => exact holderRemoved_continues consistent notClosed handled
  | holderInserted => exact holderInserted_continues consistent handled
  | setMode driverType memory => exact setMode_continues memory calls consistent notClosed handled
  | poweringOn => exact Consistent.ok (consistent.congr rfl rfl rfl)
  | poweredOn =>
    refine Consistent.ok (consistent.congr ?_ ?_ ?_) <;> unfold receivePoweredOn <;> dsimp only <;> split <;> simp

theorem receiveData_driver {later : Mesim} {buf : Octets} (done : mesim.receiveData buf = .ok later)
    (present : mesim.driver.isSome) : later.driver.isSome := by
  unfold receiveData at done
  split at done
  · split at done
    · cases done
    · cases done
      rfl
    · cases done
      exact present
  · cases done
    exact present

theorem wake_continues {message : Option MesimMessage} (data sim : Option Octets) (calls : ClntCalls)
    (consistent : mesim.Consistent) (notClosed : mesim.state ≠ .closed)
    (handled : ∀ sent, message = some sent → mesim.MessageHandled sent) :
    Continues (mesim.wake message data sim calls) := by
  obtain ⟨told, heard, consistent_told⟩ : Continues (message.elim (.ok mesim) (mesim.receiveMessage calls)) := by
    cases message with
    | none => exact consistent.ok
    | some sent => exact receiveMessage_continues calls consistent notClosed (handled sent rfl)
  obtain ⟨fed, read, consistent_fed⟩ : Continues (data.elim (.ok told) told.receiveData) := by
    cases data with
    | none => exact consistent_told.ok
    | some buf => exact receiveData_continues consistent_told buf
  unfold wake
  simp only [heard, read, bind, Except.bind]
  cases sim with
  | none => exact consistent_fed.ok
  | some buf =>
    dsimp only
    split
    · rename_i polled
      refine driverReceive_continues consistent_fed ?_ buf
      -- what has been polled belongs to a driver, and neither step before leaves the
      -- interface without one
      have present : mesim.driver.isSome := by
        unfold Mesim.polled at polled
        cases here : mesim.driver <;> simp_all
      have told_present : told.driver.isSome := by
        cases message with
        | none =>
          cases heard
          exact present
        | some sent => exact receiveMessage_present present heard
      cases data with
      | none =>
        cases read
        exact told_present
      | some buf => exact receiveData_driver read told_present
    · exact consistent_fed.ok

theorem close_continues (present : mesim.driver.isSome) : Continues mesim.close := by
  obtain ⟨driver, here⟩ := Option.isSome_iff_exists.mp present
  have there : (mesim.setRemoved.changeState .closing none).driver = some driver := by simpa using here
  obtain ⟨later, deactivated, gone, -⟩ := deactivate_ok there
  unfold close
  rw [deactivated]
  refine Consistent.ok ⟨by simp, ?_⟩
  rw [changeState_driver, gone]
  exact .inr rfl

theorem expire_continues {timer : TimerOwner} (reader : OpenCalls) (calls : ClntCalls) (answers : ImplCalls)
    (consistent : mesim.Consistent) (handled : mesim.TimerHandled timer) :
    Continues (mesim.expire timer reader calls answers) := by
  unfold expire
  cases timer with
  | mesim =>
    dsimp only
    split
    · rename_i running
      exact timerFired_continues calls consistent running
    · exact consistent.ok
  | driver =>
    obtain ⟨shut, closed⟩ := handled
    dsimp only
    split
    · rename_i sim here
      split
      · rename_i running
        exact localTimerFired_continues reader consistent here running (shut sim here running)
      · exact consistent.ok
    · rename_i impl here
      split
      · rename_i running
        exact implTimerFired_continues answers consistent here running (closed impl here running)
      · exact consistent.ok
    · exact consistent.ok
  | released n =>
    dsimp only
    cases gone : mesim.released[n]? with
    | none => exact consistent.ok
    | some driver =>
      rw [if_neg (by simp [handled driver gone])]
      exact consistent.ok

/-- What an event that the state handles leaves agrees again. -/
theorem step_continues {event : MesimEvent} (consistent : mesim.Consistent) (handled : mesim.Handled event) :
    Continues (mesim.step event) := by
  unfold step
  split
  · exact consistent.ok
  · rename_i notClosed
    cases event with
    | expired timer reader clnt impl =>
      exact expire_continues reader clnt impl consistent (handled.resolve_left notClosed)
    | woken message data sim clnt =>
      have handled := handled.resolve_left notClosed
      by_cases closing : message = some .close
      · subst closing
        exact close_continues (handled .close rfl)
      · have woken := wake_continues data sim clnt consistent notClosed handled
        cases message with
        | none => exact woken
        | some sent =>
          cases sent with
          | close => exact (closing rfl).elim
          | _ => exact woken

/-! ## The events that are not handled -/

/-- The thread does not go on. -/
def Faults (result : Except Fault Mesim) : Prop := ∃ fault, result = .error fault

theorem Faults.bind {result : Except Fault Mesim} {next : Mesim → Except Fault Mesim} (first : Faults result) :
    Faults (result >>= next) := by
  obtain ⟨fault, rfl⟩ := first
  exact ⟨fault, rfl⟩

theorem Faults.not_continues {result : Except Fault Mesim} (faults : Faults result) : ¬ ∃ later, result = .ok later := by
  rintro ⟨later, done⟩
  obtain ⟨fault, failed⟩ := faults
  rw [failed] at done
  cases done

theorem setMode_faults {driverType : DriverType} (memory : LocalType) (calls : ClntCalls)
    (unhandled : ¬ mesim.SetModeHandled driverType) : Faults (mesim.receiveSetMode driverType memory calls) := by
  have unset (other : Mesim) (type : driverType = .none) : Faults (other.setMode driverType memory) := by
    subst type
    exact ⟨_, rfl⟩
  unfold receiveSetMode
  by_cases setting : mesim.state = .settingMode
  · rw [setting]
    exact ⟨_, rfl⟩
  · have type : driverType = .none := by
      by_contra type
      exact unhandled ⟨setting, type⟩
    split
    · exact ⟨_, rfl⟩
    · exact ⟨_, rfl⟩
    · exact ⟨_, rfl⟩
    · exact (unset _ type).bind
    all_goals
      cases deactivated : mesim.deactivate with
      | error fault => exact ⟨fault, rfl⟩
      | ok removed => exact (unset removed type).bind

theorem holderRemoved_faults (unhandled : ¬ mesim.HolderRemovedHandled) : Faults mesim.receiveHolderRemoved := by
  have refused (next : Mesim) (same : next.driver = mesim.driver)
      (reader : ∃ sim, mesim.driver = some (.localSim sim) ∧ sim.state = .holderRemoved) :
      Faults next.driverHolderRemoved := by
    obtain ⟨sim, here, state⟩ := reader
    unfold driverHolderRemoved driverCall MesimLocal.holderRemoved
    rw [same, here]
    dsimp only
    rw [state]
    exact ⟨_, rfl⟩
  unfold HolderRemovedHandled at unhandled
  unfold receiveHolderRemoved
  cases state : mesim.state with
  | closed | closing | directlyRouted | unconfigured | settingMode => exact ⟨_, rfl⟩
  | holderRemoved | holderChanging | simMissing | ready | reset =>
    exact refused _ (by simp) (by simpa [state] using unhandled)

theorem holderInserted_faults (unhandled : ¬ mesim.HolderInsertedHandled) : Faults mesim.receiveHolderInserted := by
  unfold receiveHolderInserted
  by_cases state : mesim.state = .holderRemoved
  · have reader : ∃ sim, mesim.driver = some (.localSim sim) ∧ sim.state ≠ .holderRemoved := by
      simpa [HolderInsertedHandled, state] using unhandled
    obtain ⟨sim, here, elsewhere⟩ := reader
    have refused (next : Mesim) (same : next.driver = mesim.driver) : Faults next.driverHolderInserted := by
      unfold driverHolderInserted driverCall MesimLocal.holderInserted
      rw [same, here]
      dsimp only
      cases stands : sim.state with
      | holderRemoved => exact (elsewhere stands).elim
      | _ => exact ⟨_, rfl⟩
    rw [state]
    dsimp only
    split
    · exact refused _ rfl
    · exact refused _ (by simp)
  · cases stands : mesim.state with
    | holderRemoved => exact (state stands).elim
    | _ => exact ⟨_, rfl⟩

theorem receiveMessage_faults (calls : ClntCalls) {message : MesimMessage} (going : message ≠ .close)
    (unhandled : ¬ mesim.MessageHandled message) : Faults (mesim.receiveMessage calls message) := by
  cases message with
  | close => exact (going rfl).elim
  | setMode driverType memory => exact setMode_faults memory calls unhandled
  | holderRemoved => exact holderRemoved_faults unhandled
  | holderInserted => exact holderInserted_faults unhandled
  | refresh | resetAsserted | resetRemoved | poweringOn | poweredOn => exact (unhandled trivial).elim

theorem expire_faults {timer : TimerOwner} (reader : OpenCalls) (calls : ClntCalls) (answers : ImplCalls)
    (consistent : mesim.Consistent) (unhandled : ¬ mesim.TimerHandled timer) :
    Faults (mesim.expire timer reader calls answers) := by
  unfold expire
  cases timer with
  | mesim => exact (unhandled trivial).elim
  | driver =>
    dsimp only
    cases here : mesim.driver with
    | none => simp [TimerHandled, here] at unhandled
    | some driver =>
      cases driver with
      | localSim sim =>
        have again : sim.timer.isSome ∧ sim.state = .failed ∧ sim.fd ≠ none := by
          simpa [TimerHandled, here] using unhandled
        obtain ⟨running, failed, still⟩ := again
        have opened : sim.fd.isSome := Option.isSome_iff_ne_none.mpr still
        dsimp only
        rw [if_pos running]
        unfold localTimerFired localOpen
        simp only [failed, opened]
        exact ⟨_, rfl⟩
      | client clnt => simp [TimerHandled, here] at unhandled
      | implementa impl =>
        have again : impl.timer.isSome ∧ impl.sockFd ≠ none := by simpa [TimerHandled, here] using unhandled
        obtain ⟨running, still⟩ := again
        have connected : impl.sockFd.isSome := Option.isSome_iff_ne_none.mpr still
        have fits := consistent.driver
        rw [here] at fits
        dsimp only
        rw [if_pos running]
        unfold implTimerFired
        simp only [fits.2 running, connected]
        exact ⟨_, rfl⟩
  | released n =>
    dsimp only
    have left : ∃ driver, mesim.released[n]? = some driver ∧ driver.timer ≠ none := by
      simpa [TimerHandled] using unhandled
    obtain ⟨driver, gone, running⟩ := left
    rw [gone, if_pos (by simpa [Option.isSome_iff_ne_none] using running)]
    exact ⟨_, rfl⟩

theorem step_faults {event : MesimEvent} (consistent : mesim.Consistent) (unhandled : ¬ mesim.Handled event) :
    Faults (mesim.step event) := by
  unfold step
  cases event with
  | expired timer reader clnt impl =>
    obtain ⟨notClosed, unhandled⟩ := not_or.mp unhandled
    rw [if_neg notClosed]
    exact expire_faults reader clnt impl consistent unhandled
  | woken message data sim clnt =>
    obtain ⟨notClosed, unhandled⟩ := not_or.mp unhandled
    rw [if_neg notClosed]
    cases message with
    | none => simp at unhandled
    | some sent =>
      have unhandled : ¬ mesim.MessageHandled sent := fun handled => unhandled fun other same => by
        cases same
        exact handled
      by_cases closing : sent = .close
      · subst closing
        have gone : mesim.driver = none := by simpa [MessageHandled] using unhandled
        dsimp only
        unfold close deactivate
        rw [changeState_driver, setRemoved_driver, gone]
        exact ⟨_, rfl⟩
      · have woken : Faults (mesim.wake (some sent) data sim clnt) :=
          (receiveMessage_faults clnt closing unhandled).bind
        cases sent with
        | close => exact (closing rfl).elim
        | _ => exact woken

theorem step_ok_iff {event : MesimEvent} (consistent : mesim.Consistent) :
    (∃ later, mesim.step event = .ok later) ↔ mesim.Handled event := by
  constructor
  · intro done
    by_contra unhandled
    exact (step_faults consistent unhandled).not_continues done
  · intro handled
    obtain ⟨later, done, -⟩ := step_continues consistent handled
    exact ⟨later, done⟩

theorem step_consistent {event : MesimEvent} {later : Mesim} (consistent : mesim.Consistent)
    (done : mesim.step event = .ok later) : later.Consistent := by
  obtain ⟨other, same, agrees⟩ := step_continues consistent ((step_ok_iff consistent).mp ⟨later, done⟩)
  rw [done] at same
  cases same
  exact agrees

theorem opened_consistent (card : Nat) : (opened card).Consistent := ⟨nofun, .inl rfl⟩

/-! ## Runs -/

/-- The thread of the SIM interface does not abort exactly on the runs in which every
event is one that the state handles; its driver is there wherever it is called. -/
theorem sim_thread_never_aborts_iff (card : Nat) (events : List MesimEvent) :
    (∃ mesim, (opened card).run events = .ok mesim) ↔
      Throughout (taken step) Handled (opened card) events :=
  foldlM_ok_iff Consistent step_ok_iff step_consistent events (opened_consistent card)

/-- The reader is there, but `tcsetattr` fails on it. -/
def unsettable : OpenCalls := { opened := some 7, setAttr := false, modemGet := none }

/-- The calls of the other drivers, which are not made. -/
def uncalled : ClntCalls := { simRoute := false, socket := none, reuseAddr := false, bind := false, listen := false }

def undialled : ImplCalls := { simRoute := false, socket := none, protocol := false, connect := false }

/-- A reader on which one call has failed is not closed, and the next attempt aborts. -/
theorem second_attempt_aborts : ¬ ∀ (card : Nat) (events : List MesimEvent),
    ∃ mesim, (opened card).run events = .ok mesim := by
  intro never
  obtain ⟨mesim, done⟩ := never 0
    [.woken (some (.setMode .localSim .usb)) none none uncalled,
      .expired .driver unsettable uncalled undialled, .expired .driver unsettable uncalled undialled]
  have aborts : (opened 0).run
      [.woken (some (.setMode .localSim .usb)) none none uncalled,
        .expired .driver unsettable uncalled undialled, .expired .driver unsettable uncalled undialled] =
      .error (.assertion .localOpen) := by decide
  rw [aborts] at done
  cases done

end Mesim

end Vstuff.Vgsm
