import Vstuff.Vgsm.SimThread

/-! What a driver of the SIM interface holds: its timer, the descriptor of the reader and
the thread that watches the holder. A driver that is given back leaves all of it, unless
it is given back while its timer runs or before its reader was opened. -/
namespace Vstuff.Vgsm
open Lapd (Octets)
open Transition
set_option linter.all false

/-- What was done with the thread of the driver, and whether its reader has been opened. -/
def Driver.watch : Driver → List ThreadCall × Bool
  | .localSim sim => (sim.modemThread, sim.opened)
  | .client _ | .implementa _ => ([], false)

/-- A driver in place has a thread once its reader has been opened, and not before. -/
def Driver.Watched (driver : Driver) : Prop :=
  driver.watch.1 = if driver.watch.2 then [.create] else []

/-- A driver that has been given back: its timer is not pending, its reader is closed, and
its thread, if it had one, was told to end and waited for, once. -/
structure Driver.Returned (driver : Driver) : Prop where
  timer : driver.timer = none
  reader : ∀ sim, driver = .localSim sim → sim.fd = none
  thread : driver.watch.1 = if driver.watch.2 then [.create, .kill, .join] else []

/-- `vgsm_mesim_local_open` gets as far as the thread. -/
def OpenCalls.watches (calls : OpenCalls) (card : Nat) : Bool :=
  calls.opened.isSome && calls.setFl &&
    (match calls.cardId with
      | .failed => false
      | .einval => true
      | .id other => calls.simId && other != card) &&
    calls.configures && calls.modemGet.isSome

namespace Mesim

/-- What the drivers hold belongs to the one in place. -/
structure Owned (mesim : Mesim) : Prop where
  inPlace : ∀ driver, mesim.driver = some driver → driver.Watched
  gone : ∀ driver ∈ mesim.released, driver.Returned

variable {mesim later : Mesim} {sim : MesimLocal} {impl : MesimImpl} {buf : Octets}

/-! ## What leaves the thread alone -/

/-- No driver is given back, and nothing is done with the thread of the one in place. -/
structure Keeps (before after : Mesim) : Prop where
  released : after.released = before.released
  watch : after.driver.map Driver.watch = before.driver.map Driver.watch

theorem Keeps.refl (mesim : Mesim) : mesim.Keeps mesim := ⟨rfl, rfl⟩

theorem Keeps.symm (keeps : mesim.Keeps later) : later.Keeps mesim := ⟨keeps.released.symm, keeps.watch.symm⟩

theorem Keeps.trans {last : Mesim} (keeps : mesim.Keeps later) (rest : later.Keeps last) : mesim.Keeps last :=
  ⟨rest.released.trans keeps.released, rest.watch.trans keeps.watch⟩

theorem Keeps.owned (keeps : mesim.Keeps later) (owned : mesim.Owned) : later.Owned where
  inPlace := by
    intro driver here
    have watch := keeps.watch
    rw [here] at watch
    obtain ⟨before, there, same⟩ := Option.map_eq_some_iff.mp watch.symm
    have watched := owned.inPlace before there
    unfold Driver.Watched at watched ⊢
    rwa [same] at watched
  gone := by
    rw [keeps.released]
    exact owned.gone

theorem Keeps.owned_iff (keeps : mesim.Keeps later) : later.Owned ↔ mesim.Owned :=
  ⟨keeps.symm.owned, keeps.owned⟩

/-- The driver changes its structure, and not what it says of the thread. -/
theorem put_keeps {before after : Driver} (here : mesim.driver = some before) (driver : later.driver = some after)
    (same : after.watch = before.watch) (released : later.released = mesim.released) : mesim.Keeps later := by
  refine ⟨released, ?_⟩
  rw [driver, here, Option.map_some, Option.map_some, same]

theorem driverCall_keeps {call : MesimLocal → Except Fault MesimLocal} (done : mesim.driverCall call = .ok later)
    (keeps : ∀ sim after, call sim = .ok after → after.modemThread = sim.modemThread ∧ after.opened = sim.opened) :
    mesim.Keeps later := by
  unfold driverCall at done
  split at done
  · cases done
  · rename_i sim here
    cases called : call sim with
    | error fault =>
      rw [called] at done
      cases done
    | ok after =>
      rw [called] at done
      cases done
      obtain ⟨thread, opened⟩ := keeps sim after called
      refine put_keeps here rfl ?_ rfl
      rw [Driver.watch, thread, opened, Driver.watch]
  · cases done
    exact .refl _

theorem resetAsserted_keeps {after : MesimLocal} (done : sim.resetAsserted = .ok after) :
    after.modemThread = sim.modemThread ∧ after.opened = sim.opened := by
  unfold MesimLocal.resetAsserted at done
  split at done <;> cases done <;> exact ⟨rfl, rfl⟩

theorem resetRemoved_keeps {after : MesimLocal} (done : sim.resetRemoved = .ok after) :
    after.modemThread = sim.modemThread ∧ after.opened = sim.opened := by
  unfold MesimLocal.resetRemoved at done
  split at done <;> cases done <;> exact ⟨rfl, rfl⟩

theorem holderRemoved_keeps {after : MesimLocal} (done : sim.holderRemoved = .ok after) :
    after.modemThread = sim.modemThread ∧ after.opened = sim.opened := by
  unfold MesimLocal.holderRemoved at done
  split at done <;> cases done <;> exact ⟨rfl, rfl⟩

theorem holderInserted_keeps {after : MesimLocal} (done : sim.holderInserted = .ok after) :
    after.modemThread = sim.modemThread ∧ after.opened = sim.opened := by
  unfold MesimLocal.holderInserted at done
  split at done
  · cases done
    exact ⟨rfl, rfl⟩
  · cases done

theorem send_watch : (Driver.localSim (sim.send buf)).watch = (Driver.localSim sim).watch := by
  unfold MesimLocal.send
  repeat' split
  all_goals rfl

theorem receive_watch : (Driver.localSim (sim.receive buf)).watch = (Driver.localSim sim).watch := by
  unfold MesimLocal.receive MesimLocal.receiveAtr
  dsimp only
  repeat' split
  all_goals rfl

theorem receiveData_keeps (done : mesim.receiveData buf = .ok later) : mesim.Keeps later := by
  unfold receiveData at done
  split at done
  · split at done
    · cases done
    · rename_i here
      cases done
      exact put_keeps here rfl send_watch rfl
    · cases done
      exact .refl _
  · cases done
    exact .refl _

theorem implOctets_keep (buf : Octets) : ∀ (mesim : Mesim) (impl : MesimImpl),
    (buf.foldl (fun (mesim, impl) x => mesim.implOctet impl x) (mesim, impl)).1.released = mesim.released := by
  induction buf with
  | nil => exact fun _ _ => rfl
  | cons x buf ih =>
    intro mesim impl
    rw [List.foldl_cons, ih]
    unfold implOctet
    repeat' split
    all_goals simp

theorem driverReceive_keeps (done : mesim.driverReceive buf = .ok later) : mesim.Keeps later := by
  unfold driverReceive at done
  split at done
  · cases done
  · rename_i here
    cases done
    exact put_keeps here rfl receive_watch rfl
  · cases done
    exact .refl _
  · rename_i impl here
    cases done
    unfold implReceive
    split
    · exact put_keeps here rfl rfl (by simp)
    · split
      · exact .refl _
      · exact .refl _
      · exact put_keeps here rfl rfl (implOctets_keep buf mesim impl)

theorem activate_keeps {calls : ClntCalls} (done : mesim.activate calls = .ok later) : mesim.Keeps later := by
  unfold activate at done
  split at done
  · cases done
  · rename_i here
    cases done
    exact put_keeps here rfl rfl rfl
  · rename_i clnt here
    unfold clntActivate at done
    dsimp only at done
    split at done
    · cases done
    · split at done
      · cases done
        exact .refl _
      · split at done
        · cases done
          exact .refl _
        · split at done <;> cases done <;> exact put_keeps here rfl rfl rfl
  · rename_i here
    cases done
    exact put_keeps here rfl rfl rfl

theorem timerFired_keeps {calls : ClntCalls} (done : mesim.timerFired calls = .ok later) : mesim.Keeps later := by
  unfold timerFired at done
  split at done
  · cases done
    exact ⟨rfl, rfl⟩
  · exact activate_keeps done
  · cases done

theorem implTimerFired_keeps {calls : ImplCalls} {before : MesimImpl} (here : mesim.driver = some (.implementa before))
    (done : mesim.implTimerFired impl calls = .ok later) : mesim.Keeps later := by
  unfold implTimerFired at done
  repeat' split at done
  all_goals cases done
  all_goals exact put_keeps here rfl rfl rfl

/-! ## Opening the reader -/

theorem localConfigure_watch (calls : OpenCalls) (unopened : sim.modemThread = [] ∧ sim.opened = false) :
    (mesim.localConfigure sim calls).released = mesim.released ∧
      (mesim.localConfigure sim calls).driver.map Driver.watch =
        some (if sim.type != .vgsmDirect && calls.configures && calls.modemGet.isSome then
          (if calls.thread then [.create] else [], true) else ([], false)) := by
  have waits (other : Mesim) (same : other.released = mesim.released) (newstate : LocalState) (timeout : Option Int) :
      (other.put (.localSim (sim.changeState newstate timeout))).released = mesim.released ∧
        (other.put (.localSim (sim.changeState newstate timeout))).driver.map Driver.watch = some ([], false) :=
    ⟨same, by simp [Driver.watch, MesimLocal.changeState, unopened]⟩
  unfold localConfigure
  split
  · rename_i failing
    simp only [Bool.not_eq_true'] at failing
    rw [failing, Bool.and_false, Bool.false_and]
    exact waits _ rfl _ _
  · rename_i configured
    simp only [Bool.not_eq_true', Bool.not_eq_false] at configured
    split
    · rename_i direct
      rw [direct]
      exact waits _ (by simp) _ _
    · rename_i routed
      have routed : (sim.type != .vgsmDirect) = true := by simpa using routed
      cases line : calls.modemGet with
      | none =>
        rw [Option.isSome_none, Bool.and_false]
        exact waits _ rfl _ _
      | some cts =>
        rw [configured, routed]
        have watched (newstate : LocalState) : (Driver.localSim ((sim.watch calls.thread).changeState newstate none)).watch =
            (if calls.thread then [.create] else [], true) := by
          cases calls.thread <;> simp [Driver.watch, MesimLocal.watch, MesimLocal.fail, MesimLocal.changeState, unopened]
        dsimp only
        split
        · exact ⟨by simp, congrArg some (watched _)⟩
        · exact ⟨by simp, congrArg some (watched _)⟩

theorem localOpen_watch {calls : OpenCalls} (unopened : sim.modemThread = [] ∧ sim.opened = false)
    (done : mesim.localOpen sim calls = .ok later) :
    later.released = mesim.released ∧
      later.driver.map Driver.watch =
        some (if calls.watches mesim.card then (if calls.thread then [.create] else [], true) else ([], false)) := by
  have failed (fd : Option Nat) (unwatched : calls.watches mesim.card = false)
      (done : (mesim.changeState .holderRemoved none).localFailed { sim with fd } = later) :
      later.released = mesim.released ∧ later.driver.map Driver.watch =
        some (if calls.watches mesim.card then (if calls.thread then [.create] else [], true) else ([], false)) := by
    subst done
    rw [unwatched]
    exact ⟨rfl, by simp [localFailed, Driver.watch, MesimLocal.fail, MesimLocal.changeState, unopened]⟩
  have configured (fd : Nat) (type : LocalType)
      (watched : calls.watches mesim.card = (type != .vgsmDirect && calls.configures && calls.modemGet.isSome))
      (done : (mesim.changeState .holderRemoved none).localConfigure { sim with fd := some fd, type } calls = later) :
      later.released = mesim.released ∧ later.driver.map Driver.watch =
        some (if calls.watches mesim.card then (if calls.thread then [.create] else [], true) else ([], false)) := by
    subst done
    rw [watched]
    exact localConfigure_watch calls unopened
  unfold localOpen at done
  split at done
  · cases done
  · dsimp only at done
    split at done
    · rename_i opened
      exact failed sim.fd (by simp [OpenCalls.watches, opened]) (Except.ok.inj done)
    · rename_i fd opened
      split at done
      · rename_i blocking
        simp only [Bool.not_eq_true'] at blocking
        exact failed (some fd) (by simp [OpenCalls.watches, blocking]) (Except.ok.inj done)
      · rename_i unblocked
        simp only [Bool.not_eq_true', Bool.not_eq_false] at unblocked
        split at done
        · rename_i id
          exact failed (some fd) (by simp [OpenCalls.watches, id]) (Except.ok.inj done)
        · rename_i id
          refine configured fd .usb ?_ (Except.ok.inj done)
          simp [OpenCalls.watches, opened, unblocked, id, show (LocalType.usb != .vgsmDirect) = true from rfl]
        · rename_i card id
          split at done
          · rename_i unknown
            simp only [Bool.not_eq_true'] at unknown
            exact failed (some fd) (by simp [OpenCalls.watches, id, unknown]) (Except.ok.inj done)
          · rename_i known
            simp only [Bool.not_eq_true', Bool.not_eq_false] at known
            have far (type : LocalType) (same : (card != mesim.card) = (type != .vgsmDirect)) : calls.watches mesim.card =
                (type != .vgsmDirect && calls.configures && calls.modemGet.isSome) := by
              simp [OpenCalls.watches, opened, unblocked, id, known, same]
            split at done
            · rename_i near
              exact configured fd .vgsmDirect (far .vgsmDirect (by simp [near])) (Except.ok.inj done)
            · rename_i other
              exact configured fd .vgsm (far .vgsm (bne_iff_ne.mpr other)) (Except.ok.inj done)

/-! ## Giving a driver back -/

/-- The driver can be deactivated: its timer does not run, and there is a thread to end if
one is looked for. -/
def Returnable (mesim : Mesim) : Prop :=
  ∀ sim, mesim.driver = some (.localSim sim) → sim.timer = none ∧ (sim.type = .vgsmDirect ∨ sim.opened)

theorem deactivate_returned_iff {driver : Driver} (consistent : mesim.Consistent) (owned : mesim.Owned)
    (here : mesim.driver = some driver) : driver.deactivate.Returned ↔ mesim.Returnable := by
  have watched := owned.inPlace driver here
  cases driver with
  | client clnt =>
    refine ⟨fun _ sim there => ?_, fun _ => ⟨rfl, fun _ same => (by cases same), rfl⟩⟩
    rw [here] at there
    cases there
  | implementa impl =>
    refine ⟨fun _ sim there => ?_, fun _ => ⟨rfl, fun _ same => (by cases same), rfl⟩⟩
    rw [here] at there
    cases there
  | localSim sim =>
    have threaded := (consistent.fits here).thread
    have timer : (Driver.deactivate (.localSim sim)).timer = sim.timer := by
      simp only [Driver.deactivate, Driver.timer, MesimLocal.deactivate]
      split <;> rfl
    have reader : sim.deactivate.fd = none := by
      unfold MesimLocal.deactivate
      split <;> rfl
    have thread : (Driver.deactivate (.localSim sim)).watch =
        (if sim.type = .vgsmDirect then sim.modemThread else sim.modemThread ++ [.kill, .join], sim.opened) := by
      simp only [Driver.deactivate, Driver.watch, MesimLocal.deactivate]
      split <;> rfl
    have watched : sim.modemThread = if sim.opened then [.create] else [] := watched
    have ended : ((if sim.type = .vgsmDirect then sim.modemThread else sim.modemThread ++ [.kill, .join]) =
        if sim.opened then [.create, .kill, .join] else []) ↔ (sim.type = .vgsmDirect ∨ sim.opened) := by
      by_cases direct : sim.type = .vgsmDirect
      · have unwatched : sim.modemThread = [] := threaded.resolve_right fun watching => watching.2 direct
        rw [unwatched] at watched
        cases opened : sim.opened with
        | false => simp [direct, unwatched]
        | true => simp [opened] at watched
      · cases opened : sim.opened <;> simp [direct, watched, opened]
    constructor
    · intro returned other there
      rw [here] at there
      cases there
      refine ⟨timer ▸ returned.timer, ended.mp ?_⟩
      have done := returned.thread
      rwa [thread] at done
    · intro returnable
      obtain ⟨idle, watching⟩ := returnable sim here
      refine ⟨timer.trans idle, ?_, ?_⟩
      · intro other same
        cases same
        exact reader
      · rw [thread]
        exact ended.mpr watching

/-- A driver that has not been opened can be given back as it is, when its timer does not run. -/
theorem unconfigured_returned_iff {driver : Driver} (consistent : mesim.Consistent) (here : mesim.driver = some driver)
    (state : mesim.state = .unconfigured) : driver.Returned ↔ driver.timer = none := by
  have fits := consistent.driver
  rw [here, state] at fits
  cases driver with
  | client clnt => exact ⟨fun _ => rfl, fun _ => ⟨rfl, fun _ same => (by cases same), rfl⟩⟩
  | implementa impl => exact absurd fits.1 (by decide)
  | localSim sim =>
    have pair := fits.pair
    have opening : sim.state = .opening := by
      cases reader : sim.state <;> rw [reader] at pair <;> first | rfl | cases pair
    have shut := fits.shut (.inr opening)
    obtain ⟨thread, opened⟩ := fits.unopened shut
    refine ⟨fun returned => returned.timer, fun idle => ⟨idle, ?_, ?_⟩⟩
    · intro other same
      cases same
      exact shut
    · rw [Driver.watch, thread, opened]
      rfl

/-- One more driver is gone, and the one in place is new or is none. -/
theorem owned_append_iff {driver : Driver} (owned : mesim.Owned) (released : later.released = mesim.released ++ [driver])
    (fresh : ∀ created, later.driver = some created → created.Watched) : later.Owned ↔ driver.Returned := by
  constructor
  · intro after
    exact after.gone driver (by simp [released])
  · intro returned
    refine ⟨fresh, fun other there => ?_⟩
    rw [released, List.mem_append, List.mem_singleton] at there
    obtain there | rfl := there
    · exact owned.gone other there
    · exact returned

theorem Created.watched {driver : Driver} (created : mesim.Created) (here : mesim.driver = some driver) :
    driver.Watched := by
  obtain ⟨memory, there⟩ | there | there := created <;> rw [there] at here <;> cases here <;> rfl

theorem setMode_released {driverType : DriverType} {memory : LocalType} (done : mesim.setMode driverType memory = .ok later) :
    later.released = mesim.released ++ mesim.driver.toList := by
  unfold setMode at done
  cases here : mesim.driver with
  | none => cases driverType <;> rw [here] at done <;> cases done <;> simp
  | some driver => cases driverType <;> rw [here] at done <;> cases done <;> rfl

/-! ## What an event leaves -/

/-- A mode is set, or the interface closed, while the driver in place can be given back. -/
def MessageKept (mesim : Mesim) : MesimMessage → Prop
  | .close => mesim.Returnable
  | .setMode driverType _ =>
    driverType = .none ∨
      match mesim.state with
      | .unconfigured => ∀ driver, mesim.driver = some driver → driver.timer = none
      | .closed | .closing | .settingMode => True
      | _ => mesim.Returnable
  | _ => True

/-- The reader is closed when it is opened again, and when it is opened to the end there is
a thread to watch its holder. -/
def TimerKept (mesim : Mesim) (calls : OpenCalls) : TimerOwner → Prop
  | .driver => ∀ sim, mesim.driver = some (.localSim sim) → sim.timer.isSome → sim.state ≠ .readingAtr →
      sim.fd = none ∧ (calls.watches mesim.card → calls.thread)
  | .mesim | .released _ => True

/-- The event leaves what the drivers hold with the driver in place. -/
def Kept (mesim : Mesim) : MesimEvent → Prop
  | .expired timer reader _ _ => mesim.state = .closed ∨ mesim.TimerKept reader timer
  | .woken message _ _ _ => mesim.state = .closed ∨ ∀ sent, message = some sent → mesim.MessageKept sent

theorem receiveSetMode_owned_iff {driverType : DriverType} {memory : LocalType} {calls : ClntCalls}
    (consistent : mesim.Consistent) (owned : mesim.Owned)
    (done : mesim.receiveSetMode driverType memory calls = .ok later) :
    later.Owned ↔ mesim.MessageKept (.setMode driverType memory) := by
  have type : driverType ≠ .none := by
    rintro rfl
    exact (setMode_faults memory calls fun handled => handled.2 rfl).not_continues ⟨later, done⟩
  have replaced (done : (do
      let mesim ← mesim.deactivate
      let mesim ← mesim.setMode driverType memory
      return mesim.changeState .settingMode (some (3 * sec))) = .ok later) : later.Owned ↔ mesim.Returnable := by
    obtain ⟨removed, deactivated, rest⟩ := bind_ok done
    obtain ⟨created, set, changed⟩ := bind_ok rest
    cases changed
    cases here : mesim.driver with
    | none =>
      unfold deactivate at deactivated
      rw [here] at deactivated
      cases deactivated
    | some driver =>
      obtain ⟨other, same, gone, released⟩ := deactivate_ok here
      rw [deactivated] at same
      cases same
      obtain ⟨other, same, fresh, -⟩ := setMode_creates removed memory type
      rw [set] at same
      cases same
      have appended := setMode_released set
      rw [gone, released, Option.toList_none, List.append_nil] at appended
      rw [← deactivate_returned_iff consistent owned here]
      exact owned_append_iff owned appended fun _ there => fresh.watched there
  unfold receiveSetMode at done
  unfold MessageKept
  cases state : mesim.state with
  | closed | closing | settingMode =>
    rw [state] at done
    cases done
  | unconfigured =>
    rw [state] at done
    obtain ⟨created, set, activated⟩ := bind_ok done
    obtain ⟨other, same, fresh, -⟩ := setMode_creates mesim.setRemoved memory type
    rw [set] at same
    cases same
    have appended := setMode_released set
    rw [setRemoved_driver, setRemoved_released] at appended
    rw [(activate_keeps activated).owned_iff]
    simp only [type, false_or]
    cases here : mesim.driver with
    | none =>
      rw [here, Option.toList_none, List.append_nil] at appended
      refine ⟨fun _ _ same => (by cases same), fun _ => ⟨fun _ there => fresh.watched there, ?_⟩⟩
      rw [appended]
      exact owned.gone
    | some driver =>
      rw [here] at appended
      rw [owned_append_iff owned appended fun _ there => fresh.watched there,
        unconfigured_returned_iff consistent here state]
      exact ⟨fun idle _ there => by cases there; exact idle, fun idle => idle driver rfl⟩
  | holderChanging | directlyRouted | holderRemoved | simMissing | reset | ready =>
    rw [state] at done
    simp only [type, false_or]
    exact replaced done

theorem receiveMessage_owned_iff {message : MesimMessage} {calls : ClntCalls} (consistent : mesim.Consistent)
    (owned : mesim.Owned) (going : message ≠ .close) (done : mesim.receiveMessage calls message = .ok later) :
    later.Owned ↔ mesim.MessageKept message := by
  have kept (keeps : mesim.Keeps later) : later.Owned ↔ True := iff_true_intro (keeps.owned owned)
  cases message with
  | close => exact (going rfl).elim
  | refresh =>
    cases done
    exact kept (.refl _)
  | poweringOn =>
    cases done
    exact kept ⟨rfl, rfl⟩
  | poweredOn =>
    cases done
    refine kept ⟨?_, ?_⟩ <;> unfold receivePoweredOn <;> dsimp only <;> split <;> simp
  | resetAsserted =>
    have done : mesim.receiveResetAsserted = .ok later := done
    unfold receiveResetAsserted at done
    dsimp only at done
    split at done
    · cases done
    · cases done
    · have keeps := driverCall_keeps done fun _ _ => resetAsserted_keeps
      exact kept ⟨keeps.released, keeps.watch⟩
    · cases done
      exact kept ⟨rfl, rfl⟩
  | resetRemoved =>
    have done : mesim.receiveResetRemoved = .ok later := done
    unfold receiveResetRemoved at done
    dsimp only at done
    split at done
    · cases done
    · cases done
    · have keeps := driverCall_keeps done fun _ _ => resetRemoved_keeps
      exact kept ⟨keeps.released, keeps.watch⟩
    · cases done
      exact kept ⟨rfl, rfl⟩
  | holderRemoved =>
    have done : mesim.receiveHolderRemoved = .ok later := done
    unfold receiveHolderRemoved at done
    split at done <;> first
      | cases done
      | exact kept (driverCall_keeps done fun _ _ => holderRemoved_keeps)
      | exact kept (Keeps.trans ⟨by simp, by simp⟩ (driverCall_keeps done fun _ _ => holderRemoved_keeps))
  | holderInserted =>
    have done : mesim.receiveHolderInserted = .ok later := done
    unfold receiveHolderInserted at done
    split at done
    · refine kept (Keeps.trans ⟨?_, ?_⟩ (driverCall_keeps done fun _ _ => holderInserted_keeps)) <;> split <;> simp
    · cases done
  | setMode driverType memory => exact receiveSetMode_owned_iff consistent owned done

/-- After the message nothing happens to the threads. -/
theorem wake_keeps {message : Option MesimMessage} {data sim : Option Octets} {calls : ClntCalls}
    (done : mesim.wake message data sim calls = .ok later) :
    ∃ told, message.elim (.ok mesim) (mesim.receiveMessage calls) = .ok told ∧ told.Keeps later := by
  obtain ⟨told, heard, rest⟩ := bind_ok done
  obtain ⟨fed, read, rest⟩ := bind_ok rest
  have after : told.Keeps fed := by
    cases data with
    | none =>
      cases read
      exact .refl _
    | some buf => exact receiveData_keeps read
  refine ⟨told, heard, after.trans ?_⟩
  cases sim with
  | none =>
    cases rest
    exact .refl _
  | some buf =>
    dsimp only at rest
    split at rest
    · exact driverReceive_keeps rest
    · cases rest
      exact .refl _

theorem wake_owned_iff {message : Option MesimMessage} {data sim : Option Octets} {calls : ClntCalls}
    (consistent : mesim.Consistent) (owned : mesim.Owned) (going : message ≠ some .close)
    (done : mesim.wake message data sim calls = .ok later) :
    later.Owned ↔ ∀ sent, message = some sent → mesim.MessageKept sent := by
  obtain ⟨told, heard, keeps⟩ := wake_keeps done
  rw [keeps.owned_iff]
  cases message with
  | none =>
    cases heard
    exact ⟨fun _ _ same => (by cases same), fun _ => owned⟩
  | some sent =>
    rw [receiveMessage_owned_iff consistent owned (fun same => going (congrArg some same)) heard]
    exact ⟨fun kept _ same => by cases same; exact kept, fun kept => kept sent rfl⟩

theorem close_owned_iff (consistent : mesim.Consistent) (owned : mesim.Owned) (done : mesim.close = .ok later) :
    later.Owned ↔ mesim.Returnable := by
  cases here : mesim.driver with
  | none =>
    unfold close deactivate at done
    rw [changeState_driver, setRemoved_driver, here] at done
    cases done
  | some driver =>
    have there : (mesim.setRemoved.changeState .closing none).driver = some driver := by simpa using here
    obtain ⟨removed, deactivated, gone, released⟩ := deactivate_ok there
    unfold close at done
    rw [deactivated] at done
    cases done
    rw [changeState_released, setRemoved_released] at released
    rw [← deactivate_returned_iff consistent owned here]
    refine owned_append_iff owned released fun created there => ?_
    rw [changeState_driver, gone] at there
    cases there

theorem watch_owned_iff {watch : List ThreadCall × Bool} (owned : mesim.Owned) (released : later.released = mesim.released)
    (known : later.driver.map Driver.watch = some watch) :
    later.Owned ↔ watch.1 = if watch.2 then [.create] else [] := by
  obtain ⟨driver, here, rfl⟩ := Option.map_eq_some_iff.mp known
  refine ⟨fun after => after.inPlace driver here, fun watched => ⟨?_, released ▸ owned.gone⟩⟩
  intro other there
  rw [here] at there
  cases there
  exact watched

theorem localOpen_owned_iff {calls : OpenCalls} (consistent : mesim.Consistent) (owned : mesim.Owned)
    (here : mesim.driver = some (.localSim sim))
    (done : mesim.localOpen { sim with timer := none } calls = .ok later) :
    later.Owned ↔ sim.fd = none ∧ (calls.watches mesim.card → calls.thread) := by
  have shut : sim.fd = none := by
    cases fd : sim.fd with
    | none => rfl
    | some _ =>
      unfold localOpen at done
      rw [if_pos (by simp [fd])] at done
      cases done
  have unopened : ({ sim with timer := none } : MesimLocal).modemThread = [] ∧
      ({ sim with timer := none } : MesimLocal).opened = false := (consistent.fits here).unopened shut
  obtain ⟨released, watch⟩ := localOpen_watch unopened done
  rw [watch_owned_iff owned released watch]
  cases calls.watches mesim.card <;> cases calls.thread <;> simp [shut]

theorem expire_owned_iff {timer : TimerOwner} {reader : OpenCalls} {calls : ClntCalls} {answers : ImplCalls}
    (consistent : mesim.Consistent) (owned : mesim.Owned)
    (done : mesim.expire timer reader calls answers = .ok later) : later.Owned ↔ mesim.TimerKept reader timer := by
  have kept (keeps : mesim.Keeps later) : later.Owned ↔ True := iff_true_intro (keeps.owned owned)
  unfold expire at done
  cases timer with
  | mesim =>
    dsimp only at done
    split at done
    · have keeps := timerFired_keeps done
      exact kept ⟨keeps.released, keeps.watch⟩
    · cases done
      exact kept (.refl _)
  | released n =>
    dsimp only at done
    split at done
    · cases done
    · cases done
      exact kept (.refl _)
  | driver =>
    dsimp only at done
    unfold TimerKept
    cases here : mesim.driver with
    | none =>
      rw [here] at done
      cases done
      exact ⟨fun _ _ same => (by cases same), fun _ => owned⟩
    | some driver =>
      rw [here] at done
      cases driver with
      | client clnt =>
        cases done
        exact ⟨fun _ _ same => (by cases same), fun _ => owned⟩
      | implementa impl =>
        dsimp only at done
        refine ⟨fun _ _ same => (by cases same), fun _ => ?_⟩
        split at done
        · exact (implTimerFired_keeps here done).owned owned
        · cases done
          exact owned
      | localSim sim =>
        have fits := consistent.fits here
        dsimp only at done
        split at done
        · rename_i running
          have timed := fits.timed running
          unfold localTimerFired at done
          cases state : sim.state with
          | null | holderRemoved | reset | ready | directlyRouted =>
            rw [state] at timed
            cases timed
          | readingAtr =>
            simp only [state] at done
            cases done
            refine ⟨fun _ other same _ late => ?_, fun _ => Keeps.owned (put_keeps here rfl ?_ rfl) owned⟩
            · cases same
              exact (late state).elim
            · rfl
          | opening | failed =>
            simp only [state] at done
            have again := localOpen_owned_iff consistent owned here (by simpa only [state] using done)
            rw [again]
            refine ⟨fun kept other same _ _ => ?_, fun kept => kept sim rfl running (by simp [state])⟩
            cases same
            exact kept
        · rename_i idle
          cases done
          refine ⟨fun _ other same running => ?_, fun _ => owned⟩
          cases same
          exact (idle running).elim

/-! ## Only the timer of the reader opens it -/

/-- What is called does not fail on a reader that is still open. -/
def Harmless {α : Type} (result : Except Fault α) : Prop := result ≠ .error (.assertion .localOpen)

theorem Harmless.bind {α β : Type} {first : Except Fault α} {next : α → Except Fault β} (harmless : Harmless first)
    (rest : ∀ a, first = .ok a → Harmless (next a)) : Harmless (first >>= next) := by
  intro failed
  cases result : first with
  | error fault =>
    rw [result] at failed
    cases failed
    exact harmless result
  | ok a =>
    rw [result] at failed
    exact rest a result failed

theorem driverCall_harmless {call : MesimLocal → Except Fault MesimLocal} (harmless : ∀ sim, Harmless (call sim)) :
    Harmless (mesim.driverCall call) := by
  unfold driverCall
  split
  · nofun
  · rename_i sim _
    intro failed
    cases result : call sim with
    | error fault =>
      rw [result] at failed
      cases failed
      exact harmless sim result
    | ok after =>
      rw [result] at failed
      cases failed
  · nofun

theorem activate_harmless (calls : ClntCalls) : Harmless (mesim.activate calls) := by
  unfold activate clntActivate
  dsimp only
  repeat' split
  all_goals nofun

theorem setMode_harmless (driverType : DriverType) (memory : LocalType) : Harmless (mesim.setMode driverType memory) := by
  unfold setMode
  cases driverType <;> nofun

theorem deactivate_harmless : Harmless mesim.deactivate := by
  unfold deactivate
  split <;> nofun

theorem receiveSetMode_harmless (driverType : DriverType) (memory : LocalType) (calls : ClntCalls) :
    Harmless (mesim.receiveSetMode driverType memory calls) := by
  unfold receiveSetMode
  split
  · nofun
  · nofun
  · nofun
  · exact (setMode_harmless driverType memory).bind fun _ _ => activate_harmless calls
  all_goals
    refine deactivate_harmless.bind fun removed _ => ?_
    exact (setMode_harmless driverType memory).bind fun _ _ => nofun

theorem receiveMessage_harmless (calls : ClntCalls) (message : MesimMessage) :
    Harmless (mesim.receiveMessage calls message) := by
  cases message with
  | close | refresh | poweringOn | poweredOn => nofun
  | resetAsserted =>
    show Harmless mesim.receiveResetAsserted
    unfold receiveResetAsserted
    dsimp only
    split <;> first
      | exact driverCall_harmless fun sim => by unfold MesimLocal.resetAsserted; split <;> nofun
      | nofun
  | resetRemoved =>
    show Harmless mesim.receiveResetRemoved
    unfold receiveResetRemoved
    dsimp only
    split <;> first
      | exact driverCall_harmless fun sim => by unfold MesimLocal.resetRemoved; split <;> nofun
      | nofun
  | holderRemoved =>
    show Harmless mesim.receiveHolderRemoved
    unfold receiveHolderRemoved
    split <;> first
      | exact driverCall_harmless fun sim => by unfold MesimLocal.holderRemoved; split <;> nofun
      | nofun
  | holderInserted =>
    show Harmless mesim.receiveHolderInserted
    unfold receiveHolderInserted
    split <;> first
      | exact driverCall_harmless fun sim => by unfold MesimLocal.holderInserted; split <;> nofun
      | nofun
  | setMode driverType memory => exact receiveSetMode_harmless driverType memory calls

theorem wake_harmless (message : Option MesimMessage) (data sim : Option Octets) (calls : ClntCalls) :
    Harmless (mesim.wake message data sim calls) := by
  unfold wake
  dsimp only
  refine Harmless.bind ?_ fun told _ => Harmless.bind ?_ fun fed _ => ?_
  · cases message with
    | none => nofun
    | some sent => exact receiveMessage_harmless calls sent
  · cases data with
    | none => nofun
    | some buf =>
      show Harmless (told.receiveData buf)
      unfold receiveData
      repeat' split
      all_goals nofun
  · unfold driverReceive
    repeat' split
    all_goals nofun

theorem close_harmless : Harmless mesim.close := by
  unfold close deactivate
  split <;> nofun

/-- The timer of a driver fails so when the reader it opens again is still open. -/
theorem expire_harmless {timer : TimerOwner} {reader : OpenCalls} (calls : ClntCalls) (answers : ImplCalls)
    (kept : mesim.TimerKept reader timer) : Harmless (mesim.expire timer reader calls answers) := by
  unfold expire
  cases timer with
  | mesim =>
    dsimp only
    split
    · unfold timerFired
      split
      · nofun
      · exact activate_harmless calls
      · nofun
    · nofun
  | released n =>
    dsimp only
    split <;> nofun
  | driver =>
    dsimp only
    split
    · rename_i sim here
      split
      · rename_i running
        unfold localTimerFired localOpen
        cases state : sim.state with
        | null | holderRemoved | reset | ready | directlyRouted | readingAtr => nofun
        | opening | failed =>
          obtain ⟨shut, -⟩ := kept sim here running (by simp [state])
          simp only [shut, Option.isSome_none, Bool.false_eq_true, if_false]
          repeat' split
          all_goals nofun
      · nofun
    · split
      · unfold implTimerFired
        repeat' split
        all_goals nofun
      · nofun
    · nofun

/-! ## Runs -/

/-- A part of a step that leaves the drivers with what they hold exactly when it is kept. -/
theorem owned_and_harmless {result : Except Fault Mesim} {kept : Prop} (owned : ∀ later, result = .ok later → (later.Owned ↔ kept))
    (harmless : kept → Harmless result) (fails : (∀ fault, result = .error fault → fault ≠ .assertion .localOpen) →
      (∀ later, result ≠ .ok later) → kept) :
    ((∀ later, result = .ok later → later.Owned) ∧
      (∀ fault, result = .error fault → fault ≠ .assertion .localOpen)) ↔ kept := by
  constructor
  · rintro ⟨reached, unharmed⟩
    cases done : result with
    | ok later => exact (owned later done).mp (reached later done)
    | error fault => exact fails unharmed fun later same => by rw [done] at same; cases same
  · intro held
    refine ⟨fun later done => (owned later done).mpr held, ?_⟩
    rintro fault failed rfl
    exact harmless held failed

/-- A mode that cannot be set leaves the driver in place as it is. -/
theorem messageKept_of_faults {message : MesimMessage} (unhandled : ¬ mesim.MessageHandled message) :
    mesim.MessageKept message := by
  cases message with
  | setMode driverType memory =>
    by_cases type : driverType = .none
    · exact .inl type
    · refine .inr ?_
      have setting : mesim.state = .settingMode := by
        by_contra idle
        exact unhandled ⟨idle, type⟩
      rw [setting]
      trivial
  | close =>
    intro sim here
    exact (unhandled (by simp [MessageHandled, here])).elim
  | _ => trivial

theorem expire_owned_and_harmless_iff {timer : TimerOwner} (reader : OpenCalls) (calls : ClntCalls) (answers : ImplCalls)
    (consistent : mesim.Consistent) (owned : mesim.Owned) :
    ((∀ later, mesim.expire timer reader calls answers = .ok later → later.Owned) ∧
      (∀ fault, mesim.expire timer reader calls answers = .error fault → fault ≠ .assertion .localOpen)) ↔
        mesim.TimerKept reader timer := by
  refine owned_and_harmless (fun _ done => expire_owned_iff consistent owned done)
    (expire_harmless calls answers) fun unharmed stopped => ?_
  cases timer with
  | mesim | released n => trivial
  | driver =>
    intro sim here running late
    have timed := (consistent.fits here).timed running
    have fired : mesim.expire .driver reader calls answers = mesim.localOpen { sim with timer := none } reader := by
      unfold expire localTimerFired
      simp only [here, running, if_true]
      cases state : sim.state with
      | null | holderRemoved | reset | ready | directlyRouted =>
        rw [state] at timed
        cases timed
      | readingAtr => exact (late state).elim
      | opening | failed => rfl
    rw [fired] at unharmed stopped
    by_cases shut : sim.fd = none
    · have threaded := (consistent.fits here).toThreaded
      have opens : Continues (mesim.localOpen { sim with timer := none } reader) :=
        localOpen_continues reader shut ⟨threaded.unopened, threaded.thread⟩
      obtain ⟨later, done, -⟩ := opens
      exact (stopped later done).elim
    · refine (unharmed _ ?_ rfl).elim
      unfold localOpen
      rw [if_pos (Option.isSome_iff_ne_none.mpr shut)]

theorem step_owned_iff {event : MesimEvent} (consistent : mesim.Consistent) (owned : mesim.Owned) :
    ((∀ later, mesim.step event = .ok later → later.Owned) ∧
      (∀ fault, mesim.step event = .error fault → fault ≠ .assertion .localOpen)) ↔ mesim.Kept event := by
  by_cases closed : mesim.state = .closed
  · have stays : mesim.step event = .ok mesim := if_pos closed
    have kept : mesim.Kept event := by cases event <;> exact .inl closed
    rw [stays]
    refine ⟨fun _ => kept, fun _ => ⟨fun _ same => by cases same; exact owned, nofun⟩⟩
  · cases event with
    | expired timer reader clnt impl =>
      have fired : mesim.step (.expired timer reader clnt impl) = mesim.expire timer reader clnt impl := if_neg closed
      rw [fired, expire_owned_and_harmless_iff reader clnt impl consistent owned]
      exact ⟨.inr, fun kept => kept.resolve_left closed⟩
    | woken message data sim clnt =>
      have kept_iff : mesim.Kept (.woken message data sim clnt) ↔ ∀ sent, message = some sent → mesim.MessageKept sent :=
        ⟨fun kept => kept.resolve_left closed, .inr⟩
      rw [kept_iff]
      have unhandled_kept (stopped : ∀ later, mesim.step (.woken message data sim clnt) ≠ .ok later) :
          ∀ sent, message = some sent → mesim.MessageKept sent := by
        have unhandled : ¬ mesim.Handled (.woken message data sim clnt) := fun handled => by
          obtain ⟨later, done⟩ := (step_ok_iff consistent).mpr handled
          exact stopped later done
        rintro sent rfl
        exact messageKept_of_faults fun handled => unhandled (.inr fun other same => by cases same; exact handled)
      by_cases closing : message = some .close
      · subst closing
        have ends : mesim.step (.woken (some .close) data sim clnt) = mesim.close := if_neg closed
        rw [ends] at unhandled_kept ⊢
        refine owned_and_harmless (fun _ done => ?_) (fun _ => close_harmless) fun _ => unhandled_kept
        rw [close_owned_iff consistent owned done]
        exact ⟨fun returnable _ same => by cases same; exact returnable, fun kept => kept .close rfl⟩
      · have woken : mesim.step (.woken message data sim clnt) = mesim.wake message data sim clnt := by
          unfold step
          rw [if_neg closed]
          cases message with
          | none => rfl
          | some sent =>
            cases sent with
            | close => exact (closing rfl).elim
            | _ => rfl
        rw [woken] at unhandled_kept ⊢
        exact owned_and_harmless (fun _ done => wake_owned_iff consistent owned closing done)
          (fun _ => wake_harmless message data sim clnt) fun _ => unhandled_kept

theorem opened_owned (card : Nat) : (opened card).Owned where
  inPlace _ here := by cases here
  gone _ member := absurd member List.not_mem_nil

/-- What the drivers hold follows the driver in place through a run, and no reader is
opened again before it is closed, exactly when every event leaves it so. -/
theorem resources_follow_driver_iff (card : Nat) (events : List MesimEvent) :
    ((∀ before, before <+: events → ∀ mesim, (opened card).run before = .ok mesim → mesim.Owned) ∧
      (∀ fault, (opened card).run events = .error fault → fault ≠ .assertion .localOpen)) ↔
      Throughout (taken step) Kept (opened card) events :=
  @foldlM_good_iff _ _ _ step Kept Consistent Owned (· = .assertion .localOpen) step_owned_iff step_consistent events _
    (opened_consistent card) (opened_owned card)

/-- A mode set twice within the second before the reader is opened: the first driver is
freed while its timer runs. -/
theorem replaced_driver_leaves_its_timer : ¬ ∀ (card : Nat) (events : List MesimEvent) (mesim : Mesim),
    (opened card).run events = .ok mesim → ∀ driver ∈ mesim.released, driver.timer = none := by
  intro follows
  have idle := follows 0
    [.woken (some (.setMode .localSim .usb)) none none uncalled,
      .woken (some (.setMode .localSim .usb)) none none uncalled] _ rfl
    (.localSim (MesimLocal.activate { type := .usb })) (by decide)
  revert idle
  decide

end Mesim

end Vstuff.Vgsm
