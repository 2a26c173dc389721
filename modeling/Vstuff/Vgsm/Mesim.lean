import Vstuff.Vgsm.Comm

/-! The SIM interface of a GSM module (`chan_vgsm/mesim.c`): one thread takes messages
from a pipe, octets from the module and from the SIM, and the expiries of its timers.
The SIM is behind one of three drivers (`mesim_local.c`, `mesim_clnt.c`, `mesim_impl.c`),
of which each mode that is set creates a new one. What goes out to the module, to the
SIM and to the lines of the reader is left out. -/
namespace Vstuff.Vgsm
open Lapd (Octets)
set_option linter.all false

/-- `enum vgsm_mesim_state`. -/
inductive MesimState where
  | closed | closing | unconfigured | settingMode | directlyRouted | holderRemoved | holderChanging
  | simMissing | ready | reset
  deriving DecidableEq, Repr

/-- `enum vgsm_mesim_driver_type`. -/
inductive DriverType where
  | none | localSim | client | implementa
  deriving DecidableEq, Repr

/-- `enum vgsm_mesim_local_type`. -/
inductive LocalType where
  | vgsmDirect | vgsm | usb
  deriving DecidableEq, Repr

/-- `enum vgsm_mesim_local_state`. -/
inductive LocalState where
  | null | opening | holderRemoved | reset | readingAtr | ready | directlyRouted | failed
  deriving DecidableEq, Repr

/-- `enum vgsm_mesim_impl_state`. -/
inductive ImplState where
  | null | trying | ready
  deriving DecidableEq, Repr

/-- What is done with a thread. -/
inductive ThreadCall where
  | create | kill | join
  deriving DecidableEq, Repr

/-- `struct vgsm_mesim_local`. A descriptor of -1 is `none`; of the timer the delta it
was started with, while it is pending. The memory is not cleared, so `type` begins as
whatever was there. The last two fields are not in the source: what was done with
`modem_thread`, and whether the reader was opened to the end. -/
structure MesimLocal where
  fd : Option Nat := none
  type : LocalType
  state : LocalState := .null
  outBuf : Octets := []
  atrBuf : Octets := []
  timer : Option Int := none
  modemThread : List ThreadCall := []
  opened : Bool := false
  deriving DecidableEq, Repr

/-- `struct vgsm_mesim_clnt`. -/
structure MesimClnt where
  listenFd : Option Nat := none
  sockFd : Option Nat := none
  deriving DecidableEq, Repr

/-- `struct vgsm_mesim_impl`; the parser is in the middle of an octet or not. -/
structure MesimImpl where
  sockFd : Option Nat := none
  state : ImplState := .null
  readingHexOctet : Bool := false
  timer : Option Int := none
  deriving DecidableEq, Repr

/-- `struct vgsm_mesim_driver`, with the structure it is embedded in. -/
inductive Driver where
  | localSim (sim : MesimLocal)
  | client (clnt : MesimClnt)
  | implementa (impl : MesimImpl)
  deriving DecidableEq, Repr

/-- The timer in the driver's structure. -/
def Driver.timer : Driver → Option Int
  | .localSim sim => sim.timer
  | .client _ => none
  | .implementa impl => impl.timer

/-- `struct vgsm_mesim`: `card` is the card of the module, `rts` the line that tells the
module whether a SIM is inserted. `released` is not in the source: the drivers given back
to the allocator, as they were then. -/
structure Mesim where
  card : Nat
  state : MesimState := .unconfigured
  insertOverride : Bool := false
  rts : Bool := false
  isReset : Bool := true
  timer : Option Int := none
  driver : Option Driver := none
  released : List Driver := []
  deriving DecidableEq, Repr

/-- The functions that assert. -/
inductive Place where
  | setMode | receiveSetMode | receiveResetAsserted | receiveResetRemoved | receiveHolderRemoved
  | receiveHolderInserted | timerFired | localOpen | localTimerFired | localResetAsserted
  | localResetRemoved | localHolderInserted | localHolderRemoved | clntActivate | implTimerFired
  deriving DecidableEq, Repr

/-- Where the thread ends: an assertion fails, `mesim->driver` is dereferenced while it is
NULL, or the timer in a structure that has been freed fires. -/
inductive Fault where
  | assertion (place : Place)
  | nullDriver
  | freed
  deriving DecidableEq, Repr

/-! ## What the system answers -/

/-- The answer of `VGSM_IOC_SIM_GET_CARD_ID`. -/
inductive CardId where
  | failed
  | einval
  | id (card : Nat)
  deriving DecidableEq, Repr

/-- The calls of `vgsm_mesim_local_open`: the descriptor, whether the others succeed, the
CTS line, and whether the thread is created. -/
structure OpenCalls where
  opened : Option Nat
  setFl : Bool := true
  cardId : CardId := .einval
  simId : Bool := true
  flush : Bool := true
  setAttr : Bool := true
  flushAgain : Bool := true
  getSerial : Bool := true
  setSerial : Bool := true
  simRoute : Bool := true
  modemGet : Option Bool
  thread : Bool := true
  deriving DecidableEq, Repr

/-- The calls on the line of the reader, and on the route of the SIM, all succeed. -/
def OpenCalls.configures (calls : OpenCalls) : Bool :=
  calls.flush && calls.setAttr && calls.flushAgain && calls.getSerial && calls.setSerial && calls.simRoute

/-- The calls of `vgsm_mesim_clnt_activate`. -/
structure ClntCalls where
  simRoute : Bool
  socket : Option Nat
  reuseAddr : Bool
  bind : Bool
  listen : Bool
  deriving DecidableEq, Repr

/-- The calls of `vgsm_mesim_impl_timer_fired`. -/
structure ImplCalls where
  simRoute : Bool
  socket : Option Nat
  protocol : Bool
  connect : Bool
  deriving DecidableEq, Repr

/-! ## The interface and its line -/

/-- `vgsm_mesim_change_state`: without a timeout the timer is stopped. -/
def Mesim.changeState (mesim : Mesim) (newstate : MesimState) (timeout : Option Int) : Mesim :=
  { mesim with state := newstate, timer := timeout }

/-- `vgsm_mesim_set_inserted`. -/
def Mesim.setInserted (mesim : Mesim) : Mesim := { mesim with rts := true }

/-- `vgsm_mesim_set_removed`. -/
def Mesim.setRemoved (mesim : Mesim) : Mesim :=
  if mesim.insertOverride then mesim else { mesim with rts := false }

/-- The driver writes its structure. -/
def Mesim.put (mesim : Mesim) (driver : Driver) : Mesim := { mesim with driver := some driver }

section Line

variable (mesim : Mesim) (newstate : MesimState) (timeout : Option Int) (driver : Driver)

@[simp] theorem Mesim.changeState_card : (mesim.changeState newstate timeout).card = mesim.card := rfl
@[simp] theorem Mesim.changeState_state : (mesim.changeState newstate timeout).state = newstate := rfl
@[simp] theorem Mesim.changeState_timer : (mesim.changeState newstate timeout).timer = timeout := rfl
@[simp] theorem Mesim.changeState_isReset : (mesim.changeState newstate timeout).isReset = mesim.isReset := rfl
@[simp] theorem Mesim.changeState_driver : (mesim.changeState newstate timeout).driver = mesim.driver := rfl
@[simp] theorem Mesim.changeState_released : (mesim.changeState newstate timeout).released = mesim.released := rfl

@[simp] theorem Mesim.setInserted_state : mesim.setInserted.state = mesim.state := rfl
@[simp] theorem Mesim.setInserted_timer : mesim.setInserted.timer = mesim.timer := rfl
@[simp] theorem Mesim.setInserted_driver : mesim.setInserted.driver = mesim.driver := rfl
@[simp] theorem Mesim.setInserted_released : mesim.setInserted.released = mesim.released := rfl

@[simp] theorem Mesim.setRemoved_card : mesim.setRemoved.card = mesim.card := by unfold setRemoved; split <;> rfl
@[simp] theorem Mesim.setRemoved_state : mesim.setRemoved.state = mesim.state := by unfold setRemoved; split <;> rfl
@[simp] theorem Mesim.setRemoved_timer : mesim.setRemoved.timer = mesim.timer := by unfold setRemoved; split <;> rfl
@[simp] theorem Mesim.setRemoved_driver : mesim.setRemoved.driver = mesim.driver := by unfold setRemoved; split <;> rfl
@[simp] theorem Mesim.setRemoved_released : mesim.setRemoved.released = mesim.released := by unfold setRemoved; split <;> rfl

@[simp] theorem Mesim.put_state : (mesim.put driver).state = mesim.state := rfl
@[simp] theorem Mesim.put_timer : (mesim.put driver).timer = mesim.timer := rfl
@[simp] theorem Mesim.put_driver : (mesim.put driver).driver = some driver := rfl
@[simp] theorem Mesim.put_released : (mesim.put driver).released = mesim.released := rfl

end Line

/-! ## The local reader -/

namespace MesimLocal

/-- `vgsm_mesim_local_change_state`. -/
def changeState (sim : MesimLocal) (newstate : LocalState) (timeout : Option Int) : MesimLocal :=
  { sim with state := newstate, timer := timeout }

/-- `FAILED_RESTART_TIME`. -/
def failedRestartTime : Int := 30 * sec

/-- The reader waits before it is opened again. -/
def fail (sim : MesimLocal) : MesimLocal := sim.changeState .failed (some failedRestartTime)

/-- `vgsm_mesim_local_is_inserted`: the CTS line has the opposite meaning on a vGSM-II. -/
def isInserted (sim : MesimLocal) (cts : Bool) : Bool := if sim.type = .vgsm then cts else !cts

/-- The creation of the thread in `vgsm_mesim_local_open`, which goes on when it fails. -/
def watch (sim : MesimLocal) (created : Bool) : MesimLocal :=
  let sim := if created then { sim with modemThread := sim.modemThread ++ [.create] } else sim.fail
  { sim with opened := true }

/-- `vgsm_mesim_local_deactivate`. -/
def deactivate (sim : MesimLocal) : MesimLocal :=
  let sim := if sim.type = .vgsmDirect then sim else
    { sim with modemThread := sim.modemThread ++ [.kill, .join] }
  { sim with fd := none }

/-- `vgsm_mesim_local_activate`. -/
def activate (sim : MesimLocal) : MesimLocal := sim.changeState .opening (some (1 * sec))

/-- `vgsm_mesim_local_reset_asserted`. -/
def resetAsserted (sim : MesimLocal) : Except Fault MesimLocal :=
  match sim.state with
  | .null | .directlyRouted | .opening => .error (.assertion .localResetAsserted)
  | .holderRemoved | .reset | .failed => .ok sim
  | .ready | .readingAtr => .ok (sim.changeState .reset none)

/-- `vgsm_mesim_local_reset_removed`. -/
def resetRemoved (sim : MesimLocal) : Except Fault MesimLocal :=
  match sim.state with
  | .null | .opening | .ready | .directlyRouted => .error (.assertion .localResetRemoved)
  | .holderRemoved | .reset | .failed | .readingAtr =>
    .ok ({ sim with atrBuf := [], outBuf := [] }.changeState .readingAtr (some (1 * sec)))

/-- `vgsm_mesim_local_holder_inserted`. -/
def holderInserted (sim : MesimLocal) : Except Fault MesimLocal :=
  match sim.state with
  | .holderRemoved => .ok (sim.changeState .reset none)
  | _ => .error (.assertion .localHolderInserted)

/-- `vgsm_mesim_local_holder_removed`. -/
def holderRemoved (sim : MesimLocal) : Except Fault MesimLocal :=
  match sim.state with
  | .null | .opening | .holderRemoved | .directlyRouted => .error (.assertion .localHolderRemoved)
  | .ready | .readingAtr | .reset | .failed => .ok (sim.changeState .holderRemoved none)

/-- `sizeof` of either buffer. -/
def bufSize : Nat := 64

/-- `vgsm_mesim_local_send`: what comes before the SIM has answered to reset waits. -/
def send (sim : MesimLocal) (buf : Octets) : MesimLocal :=
  if sim.state = .readingAtr then
    if bufSize < sim.outBuf.length + buf.length then sim else { sim with outBuf := sim.outBuf ++ buf }
  else sim

/-- The interface octets of `vgsm_sim_atr_is_complete`, what is behind them, and whether a
check octet follows. The four upper bits of an octet tell which octets come next; of these
the last tells the same of those behind it. -/
def atrInterface (tckNeeded : Bool) (pres : UInt8) (rest : Octets) : Option (Octets × Bool) :=
  let group := pres.toNat / 16 % 2 + pres.toNat / 32 % 2 + pres.toNat / 64 % 2
  if pres.toNat / 128 = 1 then
    match _ : rest.drop group with
    | [] => none
    | td :: rest' => atrInterface (tckNeeded || td &&& 15 != 0) td rest'
  else if rest.length < group then none
  else some (rest.drop group, tckNeeded)
termination_by rest.length
decreasing_by
  rename_i shorter
  have size := congrArg List.length shorter
  simp only [List.length_drop, List.length_cons] at size
  omega

/-- `vgsm_sim_atr_is_complete`. -/
def atrIsComplete : Octets → Bool
  | _ :: t0 :: rest =>
    match atrInterface false t0 rest with
    | none => false
    | some (rest, tckNeeded) => (t0 &&& 15).toNat + (if tckNeeded then 1 else 0) ≤ rest.length
  | _ => false

/-- `vgsm_mesim_local_receive_atr`. -/
def receiveAtr (sim : MesimLocal) (buf : Octets) : MesimLocal :=
  let sim := { sim with atrBuf := sim.atrBuf ++ buf.take (bufSize - sim.atrBuf.length) }
  if !atrIsComplete sim.atrBuf then sim
  else if sim.atrBuf.head? ≠ some 0x3b then sim
  else { sim.changeState .ready none with outBuf := [] }

/-- `vgsm_mesim_local_receive`; in the states other than READING_ATR the structure does
not change. -/
def receive (sim : MesimLocal) (buf : Octets) : MesimLocal :=
  if sim.type = .vgsmDirect then sim
  else if sim.state = .readingAtr then sim.receiveAtr buf
  else sim

end MesimLocal

/-- A call of `vgsm_mesim_local_open` fails. -/
def Mesim.localFailed (mesim : Mesim) (sim : MesimLocal) : Mesim := mesim.put (.localSim sim.fail)

/-- The second half of `vgsm_mesim_local_open`, once the type of the reader is known. -/
def Mesim.localConfigure (mesim : Mesim) (sim : MesimLocal) (calls : OpenCalls) : Mesim :=
  if !calls.configures then mesim.localFailed sim
  else if sim.type = .vgsmDirect then
    (mesim.setRemoved.changeState .directlyRouted none).put
      (.localSim (sim.changeState .directlyRouted none))
  else
    match calls.modemGet with
    | none => mesim.localFailed sim
    | some cts =>
      let sim := sim.watch calls.thread
      if sim.isInserted cts then
        (mesim.changeState .holderChanging (some (6 * sec))).setRemoved.put
          (.localSim (sim.changeState .reset none))
      else
        (mesim.setRemoved.changeState .holderRemoved none).put
          (.localSim (sim.changeState .holderRemoved none))

/-- `vgsm_mesim_local_open`. -/
def Mesim.localOpen (mesim : Mesim) (sim : MesimLocal) (calls : OpenCalls) : Except Fault Mesim :=
  if sim.fd.isSome then .error (.assertion .localOpen)
  else
    let mesim := mesim.changeState .holderRemoved none
    match calls.opened with
    | none => .ok (mesim.localFailed sim)
    | some fd =>
      let sim := { sim with fd := some fd }
      if !calls.setFl then .ok (mesim.localFailed sim)
      else
        match calls.cardId with
        | .failed => .ok (mesim.localFailed sim)
        | .einval => .ok (mesim.localConfigure { sim with type := .usb } calls)
        | .id card =>
          if !calls.simId then .ok (mesim.localFailed sim)
          else if card = mesim.card then .ok (mesim.localConfigure { sim with type := .vgsmDirect } calls)
          else .ok (mesim.localConfigure { sim with type := .vgsm } calls)

/-- `vgsm_mesim_local_timer_fired`. -/
def Mesim.localTimerFired (mesim : Mesim) (sim : MesimLocal) (calls : OpenCalls) : Except Fault Mesim :=
  match sim.state with
  | .null | .holderRemoved | .reset | .ready | .directlyRouted => .error (.assertion .localTimerFired)
  | .opening | .failed => mesim.localOpen sim calls
  | .readingAtr => .ok (mesim.put (.localSim sim.fail))

/-! ## The SIM client -/

/-- `vgsm_mesim_clnt_activate`. -/
def Mesim.clntActivate (mesim : Mesim) (clnt : MesimClnt) (calls : ClntCalls) : Except Fault Mesim :=
  if clnt.listenFd.isSome || clnt.sockFd.isSome then .error (.assertion .clntActivate)
  else if !calls.simRoute then .ok mesim
  else
    match calls.socket with
    | none => .ok mesim
    | some fd =>
      let mesim := mesim.put (.client { clnt with listenFd := some fd })
      if !(calls.reuseAddr && calls.bind && calls.listen) then .ok mesim
      else .ok (mesim.changeState .holderRemoved none)

/-! ## The Implementa client -/

/-- `vgsm_mesim_impl_deactivate`. -/
def MesimImpl.deactivate (impl : MesimImpl) : MesimImpl :=
  { impl with sockFd := none, state := .null, timer := none }

/-- `vgsm_mesim_impl_activate`. -/
def Mesim.implActivate (mesim : Mesim) (impl : MesimImpl) : Mesim :=
  (mesim.changeState .holderRemoved none).put
    (.implementa { impl with state := .trying, timer := some (1 * sec) })

/-- `vgsm_mesim_impl_timer_fired`. -/
def Mesim.implTimerFired (mesim : Mesim) (impl : MesimImpl) (calls : ImplCalls) : Except Fault Mesim :=
  match impl.state with
  | .null => .error (.assertion .implTimerFired)
  | .trying =>
    if impl.sockFd.isSome then .error (.assertion .implTimerFired)
    else if !calls.simRoute then .ok (mesim.put (.implementa impl))
    else
      match calls.socket with
      | none => .ok (mesim.put (.implementa impl))
      | some fd =>
        if !calls.protocol then .ok (mesim.put (.implementa { impl with sockFd := some fd }))
        else if !calls.connect then
          .ok (mesim.put (.implementa { impl with sockFd := none, state := .trying, timer := some (5 * sec) }))
        else
          .ok ((mesim.changeState .ready none).setInserted.put
            (.implementa { impl with sockFd := some fd, state := .ready }))
  | .ready => .ok (mesim.put (.implementa impl))

/-- `isxdigit`. -/
def isXDigit (x : UInt8) : Bool :=
  (48 ≤ x && x ≤ 57) || (65 ≤ x && x ≤ 70) || (97 ≤ x && x ≤ 102)

/-- One octet of `vgsm_mesim_impl_receive_ready`: a digit begins an octet for the module,
`+` (43) and `-` (45) tell of the holder. -/
def Mesim.implOctet (mesim : Mesim) (impl : MesimImpl) (x : UInt8) : Mesim × MesimImpl :=
  if impl.readingHexOctet then (mesim, { impl with readingHexOctet := false })
  else if isXDigit x then (mesim, { impl with readingHexOctet := true })
  else if x = 43 then (mesim.changeState .holderChanging (some (3 * sec)), impl)
  else if x = 45 then ((mesim.changeState .holderRemoved none).setRemoved, impl)
  else (mesim, impl)

/-- `vgsm_mesim_impl_receive`. Nothing is read when the connection is closed, and when the
descriptor is -1. -/
def Mesim.implReceive (mesim : Mesim) (impl : MesimImpl) (buf : Octets) : Mesim :=
  if buf = [] ∨ impl.sockFd = none then
    mesim.setRemoved.put (.implementa { impl with sockFd := none, state := .trying, timer := some (1 * sec) })
  else
    match impl.state with
    | .null | .trying => mesim
    | .ready =>
      let (mesim, impl) := buf.foldl (fun (mesim, impl) x => mesim.implOctet impl x) (mesim, impl)
      mesim.put (.implementa impl)

/-! ## The driver in place -/

/-- `driver->deactivate`. -/
def Driver.deactivate : Driver → Driver
  | .localSim sim => .localSim sim.deactivate
  | .client clnt => .client clnt
  | .implementa impl => .implementa impl.deactivate

namespace Mesim

/-- `vgsm_mesim_deactivate`. -/
def deactivate (mesim : Mesim) : Except Fault Mesim :=
  match mesim.driver with
  | none => .error .nullDriver
  | some driver =>
    .ok { mesim with driver := none, released := mesim.released ++ [driver.deactivate] }.setRemoved

/-- `vgsm_mesim_activate`. -/
def activate (mesim : Mesim) (calls : ClntCalls) : Except Fault Mesim :=
  match mesim.driver with
  | none => .error .nullDriver
  | some (.localSim sim) => .ok (mesim.put (.localSim sim.activate))
  | some (.client clnt) => mesim.clntActivate clnt calls
  | some (.implementa impl) => .ok (mesim.implActivate impl)

/-- `vgsm_mesim_set_mode`: the driver in place is destroyed as it is. `memory` is what the
memory of a local driver held where its type is. -/
def setMode (mesim : Mesim) (driverType : DriverType) (memory : LocalType) : Except Fault Mesim :=
  let mesim := match mesim.driver with
    | none => mesim
    | some driver => { mesim with driver := none, released := mesim.released ++ [driver] }
  match driverType with
  | .none => .error (.assertion .setMode)
  | .localSim => .ok (mesim.put (.localSim { type := memory }))
  | .client => .ok (mesim.put (.client {}))
  | .implementa => .ok (mesim.put (.implementa {}))

/-- A call of the driver that changes the structure of the local one only. -/
def driverCall (mesim : Mesim) (call : MesimLocal → Except Fault MesimLocal) : Except Fault Mesim :=
  match mesim.driver with
  | none => .error .nullDriver
  | some (.localSim sim) => (call sim).map fun sim => mesim.put (.localSim sim)
  | some _ => .ok mesim

/-- `driver->reset_asserted`. -/
def driverResetAsserted (mesim : Mesim) : Except Fault Mesim := mesim.driverCall MesimLocal.resetAsserted

/-- `driver->reset_removed`. -/
def driverResetRemoved (mesim : Mesim) : Except Fault Mesim := mesim.driverCall MesimLocal.resetRemoved

/-- `driver->holder_removed`, which only the local driver has. -/
def driverHolderRemoved (mesim : Mesim) : Except Fault Mesim := mesim.driverCall MesimLocal.holderRemoved

/-- `driver->holder_inserted`, which only the local driver has. -/
def driverHolderInserted (mesim : Mesim) : Except Fault Mesim := mesim.driverCall MesimLocal.holderInserted

/-- Whether `driver->get_polls` gives a descriptor to poll; one of -1 is never ready. -/
def polled (mesim : Mesim) : Bool :=
  match mesim.driver with
  | some (.localSim sim) => sim.fd.isSome
  | some (.implementa impl) => impl.state = .ready && impl.sockFd.isSome
  | _ => false

/-- `driver->receive`, which every driver has. -/
def driverReceive (mesim : Mesim) (buf : Octets) : Except Fault Mesim :=
  match mesim.driver with
  | none => .error .nullDriver
  | some (.localSim sim) => .ok (mesim.put (.localSim (sim.receive buf)))
  | some (.client _) => .ok mesim
  | some (.implementa impl) => .ok (mesim.implReceive impl buf)

/-! ## Messages -/

/-- `vgsm_mesim_receive_data`. -/
def receiveData (mesim : Mesim) (buf : Octets) : Except Fault Mesim :=
  match mesim.state with
  | .ready =>
    match mesim.driver with
    | none => .error .nullDriver
    | some (.localSim sim) => .ok (mesim.put (.localSim (sim.send buf)))
    | some _ => .ok mesim
  | _ => .ok mesim

/-- `vgsm_mesim_receive_message_set_mode`. -/
def receiveSetMode (mesim : Mesim) (driverType : DriverType) (memory : LocalType) (calls : ClntCalls) :
    Except Fault Mesim :=
  match mesim.state with
  | .closed | .closing | .settingMode => .error (.assertion .receiveSetMode)
  | .unconfigured => do
    let mesim ← mesim.setRemoved.setMode driverType memory
    mesim.activate calls
  | .holderChanging | .directlyRouted | .holderRemoved | .simMissing | .reset | .ready => do
    let mesim ← mesim.deactivate
    let mesim ← mesim.setMode driverType memory
    return mesim.changeState .settingMode (some (3 * sec))

/-- `vgsm_mesim_receive_message_powering_on`. -/
def receivePoweringOn (mesim : Mesim) : Mesim := { mesim.setInserted with insertOverride := true }

/-- `vgsm_mesim_receive_message_powered_on`. -/
def receivePoweredOn (mesim : Mesim) : Mesim :=
  let mesim := { mesim with insertOverride := false }
  match mesim.state with
  | .holderChanging | .holderRemoved | .directlyRouted => mesim.setRemoved
  | _ => mesim.setInserted

/-- The reset line of the module, as it was told last. -/
def noteReset (mesim : Mesim) (isReset : Bool) : Mesim := { mesim with isReset }

/-- `vgsm_mesim_receive_message_reset_asserted`. -/
def receiveResetAsserted (mesim : Mesim) : Except Fault Mesim :=
  let mesim := mesim.noteReset true
  match mesim.state with
  | .closed | .closing => .error (.assertion .receiveResetAsserted)
  | .ready => (mesim.changeState .reset none).driverResetAsserted
  | _ => .ok mesim

/-- `vgsm_mesim_receive_message_reset_removed`. -/
def receiveResetRemoved (mesim : Mesim) : Except Fault Mesim :=
  let mesim := mesim.noteReset false
  match mesim.state with
  | .closed | .closing => .error (.assertion .receiveResetRemoved)
  | .reset => (mesim.changeState .ready none).driverResetRemoved
  | _ => .ok mesim

/-- `vgsm_mesim_receive_message_holder_removed`. -/
def receiveHolderRemoved (mesim : Mesim) : Except Fault Mesim :=
  match mesim.state with
  | .closed | .closing | .directlyRouted | .unconfigured | .settingMode =>
    .error (.assertion .receiveHolderRemoved)
  | .holderRemoved => mesim.driverHolderRemoved
  | .holderChanging | .simMissing | .ready | .reset =>
    (mesim.changeState .holderRemoved none).setRemoved.driverHolderRemoved

/-- `vgsm_mesim_receive_message_holder_inserted`. -/
def receiveHolderInserted (mesim : Mesim) : Except Fault Mesim :=
  match mesim.state with
  | .holderRemoved =>
    let mesim := if mesim.isReset then mesim.changeState .reset none
      else (mesim.changeState .holderChanging (some (3 * sec))).setRemoved
    mesim.setInserted.driverHolderInserted
  | _ => .error (.assertion .receiveHolderInserted)

/-- `vgsm_mesim_timer_fired`. -/
def timerFired (mesim : Mesim) (calls : ClntCalls) : Except Fault Mesim :=
  match mesim.state with
  | .holderChanging =>
    .ok (mesim.changeState (if mesim.isReset then .reset else .ready) none).setInserted
  | .settingMode => mesim.activate calls
  | _ => .error (.assertion .timerFired)

end Mesim

/-- `struct vgsm_mesim_message`, with the mode to set and what the allocator gives. -/
inductive MesimMessage where
  | close | refresh | resetAsserted | resetRemoved | holderRemoved | holderInserted
  | setMode (driverType : DriverType) (memory : LocalType)
  | poweringOn | poweredOn
  deriving DecidableEq, Repr

/-- Whose timer it is; the drivers given back are numbered in their order. -/
inductive TimerOwner where
  | mesim | driver | released (n : Nat)
  deriving DecidableEq, Repr

/-- What `vgsm_mesim_thread_main` waits for: a timer expires, or the poll returns with a
message, with octets of the module or with octets of the SIM, or with several of them. -/
inductive MesimEvent where
  | expired (timer : TimerOwner) (reader : OpenCalls) (clnt : ClntCalls) (impl : ImplCalls)
  | woken (message : Option MesimMessage) (data : Option Octets) (sim : Option Octets) (clnt : ClntCalls)
  deriving DecidableEq, Repr

namespace Mesim

/-- `vgsm_mesim_receive_message`, for the messages after which the thread goes on. -/
def receiveMessage (mesim : Mesim) (calls : ClntCalls) : MesimMessage → Except Fault Mesim
  | .close | .refresh => .ok mesim
  | .resetAsserted => mesim.receiveResetAsserted
  | .resetRemoved => mesim.receiveResetRemoved
  | .holderRemoved => mesim.receiveHolderRemoved
  | .holderInserted => mesim.receiveHolderInserted
  | .setMode driverType memory => mesim.receiveSetMode driverType memory calls
  | .poweringOn => .ok mesim.receivePoweringOn
  | .poweredOn => .ok mesim.receivePoweredOn

/-- The end of the thread: CLOSE leaves the loop, the driver is deactivated behind it. -/
def close (mesim : Mesim) : Except Fault Mesim :=
  (mesim.setRemoved.changeState .closing none).deactivate.map (·.changeState .closed none)

/-- One pass of the loop behind `poll`; the descriptor of the driver is the one of before
the message. -/
def wake (mesim : Mesim) (message : Option MesimMessage) (data sim : Option Octets) (calls : ClntCalls) :
    Except Fault Mesim := do
  let polled := mesim.polled
  let mesim ← message.elim (.ok mesim) (mesim.receiveMessage calls)
  let mesim ← data.elim (.ok mesim) mesim.receiveData
  match sim with
  | some buf => if polled then mesim.driverReceive buf else return mesim
  | none => return mesim

/-- A timer fires when it is pending, and is not pending any more by then. -/
def expire (mesim : Mesim) (timer : TimerOwner) (reader : OpenCalls) (clnt : ClntCalls) (impl : ImplCalls) :
    Except Fault Mesim :=
  match timer with
  | .mesim => if mesim.timer.isSome then { mesim with timer := none }.timerFired clnt else .ok mesim
  | .driver =>
    match mesim.driver with
    | some (.localSim sim) =>
      if sim.timer.isSome then mesim.localTimerFired { sim with timer := none } reader else .ok mesim
    | some (.implementa i) =>
      if i.timer.isSome then mesim.implTimerFired { i with timer := none } impl else .ok mesim
    | _ => .ok mesim
  | .released n => if (mesim.released[n]?.bind Driver.timer).isSome then .error .freed else .ok mesim

/-- One event. After CLOSED the thread has ended. -/
def step (mesim : Mesim) (event : MesimEvent) : Except Fault Mesim :=
  if mesim.state = .closed then .ok mesim
  else
    match event with
    | .expired timer reader clnt impl => mesim.expire timer reader clnt impl
    | .woken (some .close) _ _ _ => mesim.close
    | .woken message data sim clnt => mesim.wake message data sim clnt

/-- The interface as `vgsm_mesim_thread_main` begins, in a module of the card. -/
def opened (card : Nat) : Mesim := { card }

/-- Event after event, until a fault. -/
def run (mesim : Mesim) (events : List MesimEvent) : Except Fault Mesim := events.foldlM step mesim

end Mesim

end Vstuff.Vgsm
