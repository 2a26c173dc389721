import Vstuff.Lib.Machine
import Vstuff.Lib.Script

/-! The supervision of an ME: a status, one timer that moves it on, and unsolicited responses that
change it meanwhile (`me.c`). The handlers of the timer run in the monitor thread and those of the
responses in the communication thread; each change of the status is made under the lock of the ME
and is one step. Between the expiry of the timer and the look at the status there may be others. -/
namespace Vstuff.Vgsm.Monitor
open Transition
set_option linter.all false

/-- `enum vgsm_me_status`. -/
inductive MeStatus where
  | unconfigured
  | closed
  | off
  | poweringOn
  | poweringOff
  | resetting
  | waitingInitialization
  | initializing
  | ready
  | offline
  | waitingSim
  | waitingPin
  | failed
  deriving DecidableEq, Repr

/-- The fields of `struct vgsm_me` the supervision uses. `pending` is that of its timer, and
`opened` says that `me_fd` is not -1. The last field is not in the source: it counts the expiries
in POWERING_ON, one after the other, that have found the module without power. -/
structure Me where
  status : MeStatus
  pending : Bool
  opened : Bool
  interfaceVersion : Nat
  inService : Bool
  powerAttempts : Nat
  failureCount : Nat
  failureAttempts : Nat
  darkExpiries : Nat
  deriving DecidableEq, Repr

/-- What the procedures cannot know: whether a system call or a request succeeds, and what is
found by it. Requests whose failures take one exit are one question, and so is a request that is
made again until it is answered. -/
inductive Question where
  | openDevice
  | setFlags
  | secondVersion
  | flush
  | getAttributes
  | setAttributes
  | openMesim
  | powerGet
  | powered
  | openComm
  | ignite
  | emergOff
  | codec
  | atInterface
  | prepin
  | setClock
  | audio
  | spicNoSim
  | spic
  | cpinNoSim
  | cpin
  | cpinReady
  | cpinKnown
  | pinNeeded
  | attemptsLeft
  | pinConfigured
  | pinAccepted
  | network
  | messageFormat
  | messageService
  | reporting
  | identity
  | simInserted
  | imsi
  | cardId
  | cardIdParsed
  | serviceCentre
  | creg
  | registered
  | smond
  | cops
  | copsParsed
  | postponed
  | flow
  deriving DecidableEq, Repr

abbrev Proc := Script Me Question

/-! ## The status -/

/-- SEC, in the microseconds of a longtime_t. -/
def sec : Int := 1000000

def failedRetryTime : Int := 5 * sec
def readyUpdateTime : Int := 30 * sec
def poweringOnTimeout : Int := 10 * sec
def waitingInitializationDelay : Int := 2 * sec
def waitingInitializationSimInsertedDelay : Int := 5 * sec

def Me.setStatus (me : Me) (status : MeStatus) (timeout : Int) : Me :=
  { me with
    status := status
    pending := decide (timeout ≥ 0)
    failureCount := if status = .failed then me.failureCount + 1 else me.failureCount
    failureAttempts := if status = .failed then me.failureAttempts + 1 else me.failureAttempts
    darkExpiries := if status = .off then 0 else me.darkExpiries }

/-- `vgsm_me_set_status`. -/
def setStatus (status : MeStatus) (timeout : Int) : Proc Unit := .modify fun me => me.setStatus status timeout

/-- `vgsm_me_failed` and `vgsm_me_failed_text`. -/
def failed : Proc Unit := setStatus .failed failedRetryTime

/-- `vgsm_me_ignite`. -/
def ignite : Proc Unit := do
  if !(← .query .ignite) then failed

/-- `vgsm_me_emerg_off`. -/
def emergOff : Proc Unit := do
  if !(← .query .emergOff) then failed

/-! ## Opening -/

/-- `close(me->me_fd)` and `me->me_fd = -1`. -/
def closeFd : Proc Unit := .modify fun me => { me with opened := false }

/-- `vgsm_me_open` from VGSM_IOC_POWER_GET on. -/
def openPowered : Proc Unit := do
  if !(← .query .powerGet) then
    failed
    return ← closeFd
  let powered ← .query .powered
  if !(← .query .openComm) then
    failed
    return ← closeFd
  if powered then
    setStatus .waitingInitialization 0
  else
    ignite
    .modify fun me => { me with powerAttempts := 0 }
    setStatus .poweringOn poweringOnTimeout

/-- `vgsm_me_open`. When `fcntl` cannot set the flags of the device, the status stays as it is. -/
def openMe : Proc Unit := do
  if !(← .query .openDevice) then
    return ← setStatus .closed failedRetryTime
  .modify fun me => { me with opened := true }
  if !(← .query .setFlags) then
    return ← closeFd
  let second ← .query .secondVersion
  .modify fun me => { me with interfaceVersion := if second then 2 else 1 }
  if !(← .query .flush) then
    setStatus .closed failedRetryTime
    return ← closeFd
  if !(← .query .getAttributes) then
    setStatus .closed failedRetryTime
    return ← closeFd
  if !(← .query .setAttributes) then
    setStatus .closed failedRetryTime
    return ← closeFd
  if second then
    if !(← .query .openMesim) then
      failed
      return ← closeFd
  openPowered

/-! ## Initialization -/

/-- `vgsm_me_init_at_interface`, whose requests all have to be answered OK. -/
def initAtInterface : Proc Bool := do
  if !(← .query .atInterface) then
    failed
    return false
  return true

/-- `vgsm_me_prepin_configure`. A refused time is a failure twice over. -/
def prepinConfigure : Proc Bool := do
  if !(← .query .prepin) then
    failed
    return false
  if !(← .query .setClock) then
    failed
    failed
    return false
  if !(← .query .audio) then
    failed
    return false
  return true

/-- `vgsm_me_pin_check_and_input`. -/
def pinCheckAndInput : Proc Bool := do
  if ← .query .spicNoSim then
    setStatus .waitingSim (-1)
    return false
  if !(← .query .spic) then
    failed
    return false
  if ← .query .cpinNoSim then
    setStatus .waitingSim (-1)
    return false
  if !(← .query .cpin) then
    failed
    return false
  if ← .query .cpinReady then
    return true
  if ← .query .pinNeeded then
    if !(← .query .attemptsLeft) then
      setStatus .waitingPin (-1)
      return false
    if ← .query .pinConfigured then
      if ← .query .pinAccepted then
        return true
      setStatus .waitingPin (-1)
      return false
    setStatus .waitingPin (-1)
    return false
  if ← .query .cpinKnown then
    setStatus .waitingPin (-1)
    return false
  failed
  return false

/-- `vgsm_me_configure`. A refused SMS mode or message service is a failure, but the configuration
goes on. -/
def configure : Proc Bool := do
  if !(← .query .network) then
    failed
    return false
  if !(← .query .messageFormat) then failed
  if !(← .query .messageService) then failed
  if !(← .query .reporting) then
    failed
    return false
  return true

/-- `vgsm_me_update_static_info`. A card number that cannot be parsed leaves the status alone. -/
def updateStaticInfo : Proc Bool := do
  if !(← .query .identity) then
    failed
    return false
  if !(← .query .simInserted) then
    return true
  if !(← .query .imsi) then
    failed
    return false
  if !(← .query .cardId) then
    failed
    return false
  if !(← .query .cardIdParsed) then
    return false
  if !(← .query .serviceCentre) then
    failed
    return false
  return true

/-- `vgsm_update_smond`. No failure of it reaches the status. -/
def updateSmond : Proc Bool := .query .smond

/-- `vgsm_update_cops`. An operator that cannot be parsed leaves the status alone. -/
def updateCops : Proc Bool := do
  if !(← .query .cops) then
    failed
    return false
  .query .copsParsed

/-- `vgsm_me_update_net_info`. -/
def updateNetInfo : Proc Bool := do
  if !(← .query .creg) then
    failed
    return false
  if ← .query .registered then
    if !(← updateSmond) then
      return false
    return ← updateCops
  return true

/-- `vgsm_me_postponed_configuration`. -/
def postponedConfiguration : Proc Bool := do
  if !(← .query .postponed) then
    failed
    return false
  return true

/-- `vgsm_me_flow_configuration`. -/
def flowConfiguration : Proc Bool := do
  if !(← .query .flow) then
    failed
    return false
  return true

/-- `initialization_failed`: if nobody has changed the status it becomes FAILED. -/
def initializationFailed : Proc Unit := do
  if (← .read Me.status) = .initializing then failed

/-- The steps of the initialization up to the first that fails. -/
def initializationSteps : Proc Bool := do
  if !(← initAtInterface) then return false
  if !(← prepinConfigure) then return false
  if !(← pinCheckAndInput) then return false
  if !(← configure) then return false
  if !(← updateStaticInfo) then return false
  if !(← updateNetInfo) then return false
  if !(← postponedConfiguration) then return false
  flowConfiguration

/-- The end of `vgsm_me_initialize`. An ME out of service becomes OFFLINE with a running timer. -/
def initialized : Proc Unit := do
  .modify fun me => { me with failureAttempts := 0 }
  if ← .read Me.inService then
    setStatus .ready readyUpdateTime
  else
    setStatus .offline readyUpdateTime

/-- `vgsm_me_initialize` from VGSM_IOC_POWER_GET on. -/
def initializePowered : Proc Unit := do
  if !(← .query .powerGet) then
    failed
    return ← initializationFailed
  if !(← .query .powered) then
    .modify fun me => { me with powerAttempts := 0 }
    setStatus .poweringOn poweringOnTimeout
    ignite
    return ← initializationFailed
  if !(← initializationSteps) then
    return ← initializationFailed
  initialized

/-- `vgsm_me_initialize`. -/
def initializeMe : Proc Unit := do
  setStatus .initializing (-1)
  if (← .read Me.interfaceVersion) = 1 then
    if !(← .query .codec) then
      failed
      return ← initializationFailed
  initializePowered

/-! ## The timer -/

/-- RESETTING and POWERING_ON. -/
def poweringOnFired : Proc Unit := do
  if !(← .query .powerGet) then
    return ← failed
  if ← .query .powered then
    .modify fun me => { me with darkExpiries := 0 }
    setStatus .waitingInitialization 0
  else
    .modify fun me => { me with powerAttempts := me.powerAttempts + 1, darkExpiries := me.darkExpiries + 1 }
    if (← .read Me.powerAttempts) > 3 then
      setStatus .off (-1)
    else
      setStatus .poweringOn poweringOnTimeout
      ignite

/-- FAILED: the device is opened anew, or the ME is power-cycled after the third failure. -/
def failedFired : Proc Unit := do
  if (← .read Me.failureAttempts) < 3 then
    closeFd
    setStatus .closed (1 * sec)
  else
    .modify fun me => { me with failureAttempts := 0 }
    emergOff
    setStatus .poweringOn poweringOnTimeout
    ignite

/-- READY: the timer is started again if the network information could be updated. -/
def readyFired : Proc Unit := do
  if ← updateNetInfo then
    setStatus .ready readyUpdateTime

/-- `vgsm_me_timer_fired`. In the other statuses the timer is unexpected. -/
def timerFired : MeStatus → Proc Unit
  | .closed => openMe
  | .resetting | .poweringOn => poweringOnFired
  | .poweringOff => do
    emergOff
    setStatus .off (-1)
  | .failed => failedFired
  | .waitingInitialization => initializeMe
  | .ready => readyFired
  | .initializing | .off | .unconfigured | .waitingSim | .waitingPin | .offline => pure ()

/-- `vgsm_timerset_run` has taken the timer off its list. -/
def Me.expired (me : Me) : Me := { me with pending := false }

/-- What the ghost count becomes when the handler begins: only expiries in POWERING_ON follow one
another. -/
def Me.dispatched (me : Me) : Me :=
  { me with darkExpiries := if me.status = .poweringOn then me.darkExpiries else 0 }

/-! ## Unsolicited responses -/

/-- The responses that touch the status, ^SCKS with its parameter. -/
inductive Urc where
  | sysstart
  | shutdown
  | scks (inserted : Bool)
  deriving DecidableEq, Repr

/-- `handle_unsolicited_scks`, which holds the lock throughout. -/
def Me.scks (me : Me) (inserted : Bool) : Me :=
  if inserted then me.setStatus .waitingInitialization waitingInitializationSimInsertedDelay
  else if me.status = .ready ∨ me.status = .waitingPin then me.setStatus .waitingSim (-1)
  else me

/-- `handle_unsolicited_sysstart`, `handle_unsolicited_shutdown` and `handle_unsolicited_scks`. -/
def Urc.handle : Urc → Proc Unit
  | .sysstart => setStatus .waitingInitialization waitingInitializationDelay
  | .shutdown => do
    emergOff
    setStatus .off (-1)
  | .scks inserted => .modify fun me => me.scks inserted

/-! ## Runs -/

/-- The ME, and what is left of the handlers of the two threads. `firing` says that the timer has
expired and its handler has not yet looked at the status, `fired` is the status it has last found,
and `urc` is the response that has come last. -/
structure Config where
  me : Me
  monitor : Proc Unit
  comm : Proc Unit
  firing : Bool
  fired : MeStatus
  urc : Urc

inductive Event where
  /-- The timer expires. -/
  | expiry
  /-- `vgsm_me_timer_fired` looks at the status. -/
  | dispatch
  /-- A step of the handler of the timer, with the answer to what it asks. -/
  | monitor (answer : Bool)
  | urc (urc : Urc)
  /-- A step of the handler of an unsolicited response. -/
  | comm (answer : Bool)
  deriving DecidableEq, Repr

def step (c : Config) : Event → Option Config
  | .expiry =>
    if c.monitor.returned ∧ c.firing = false ∧ c.me.pending then some { c with me := c.me.expired, firing := true }
    else none
  | .dispatch =>
    if c.firing then
      some { c with
        me := c.me.dispatched
        monitor := timerFired c.me.status
        firing := false
        fired := c.me.status }
    else none
  | .monitor answer => (c.monitor.step c.me answer).map fun (monitor, me) => { c with monitor, me }
  | .urc urc => if c.comm.returned then some { c with comm := urc.handle, urc } else none
  | .comm answer => (c.comm.step c.me answer).map fun (comm, me) => { c with comm, me }

/-- `vgsm_me_open` is about to be called in CLOSED. -/
structure Start (c : Config) : Prop where
  status : c.me.status = .closed
  pending : c.me.pending = true
  opened : c.me.opened = false
  dark : c.me.darkExpiries = 0
  monitor : c.monitor.returned = true
  firing : c.firing = false
  comm : c.comm.returned = true

/-- The statuses in which the timer has to run, and those in which it must not. -/
def MeStatus.timed : List MeStatus := [.closed, .poweringOn, .failed, .waitingInitialization, .ready]

def MeStatus.resting : List MeStatus := [.off, .waitingSim, .waitingPin, .offline]

/-- The handler of the timer is not running. -/
def Config.quiet (c : Config) : Prop := c.monitor.returned = true ∧ c.firing = false

/-- While no handler runs, the timer runs in the statuses it has to and in no other; its handler
never finds an unexpected status, the device is opened only when it is closed, and fewer than four
expiries have found the ME without power since it was last OFF. -/
structure Supervised (c : Config) : Prop where
  timed : c.quiet → c.comm.returned → c.me.status ∈ MeStatus.timed → c.me.pending = true
  resting : c.quiet → c.comm.returned → c.me.status ∈ MeStatus.resting → c.me.pending = false
  settled : c.quiet → c.comm.returned → c.me.status ≠ .initializing
  expected : c.firing = true → c.me.status ∈ MeStatus.timed
  opening : c.firing = true → c.me.status = .closed → c.me.opened = false
  dark : c.quiet → c.me.darkExpiries < 4

/-- The answers that keep the handler of an expiry from ending with the status as it was: `fcntl`
sets the flags, and in READY the network information is found and parsed. -/
def Told (fired : MeStatus) (question : Question) (answer : Bool) : Prop :=
  (question = .setFlags → answer = true) ∧
    (fired = .ready → question = .smond ∨ question = .copsParsed → answer = true)

/-- The responses that put the ME to rest, and stop its timer. -/
def Urc.Rests (me : Me) : Urc → Prop
  | .sysstart => False
  | .shutdown => True
  | .scks inserted => inserted = false ∧ (me.status = .ready ∨ me.status = .waitingPin)

end Vstuff.Vgsm.Monitor
