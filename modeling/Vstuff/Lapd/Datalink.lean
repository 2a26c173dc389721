import Vstuff.Lapd.Sock

/-! The point-to-point procedures of `datalink.c`, one definition for each
function, and the socket entry points of `input.c` and `af_lapd.c` that call
them. Logging is left out. -/
namespace Vstuff.Lapd
set_option linter.all false

/-! ## Layer management primitives -/

/-- `lapd_clear_exception_conditions_procedure`. -/
def clearExceptionConditions (s : Sock) : Sock :=
  { s with
    ownReceiverBusy := false
    peerReceiverBusy := false
    rejectException := false
    acknowledgePending := false }

/-- `lapd_establish_datalink_procedure`. -/
def establishDatalink (s : Sock) : Sock :=
  let s := { clearExceptionConditions s with retransCnt := 0 }
  startT200 (stopT203 (sendUframe s .sabme true))

/-- `lapd_mdl_assign_request`. -/
def mdlAssignRequest (s : Sock) (tei : Nat) : Sock :=
  let s := { s with assigned := true }
  match s.state with
  | .teiUnassigned | .awaitingTei => changeState { s with tei := tei } .teiAssigned
  | .establishAwaitingTei =>
    let s := establishDatalink { s with tei := tei }
    changeState { s with layer3Initiated := true } .awaitingEstablish
  | _ => s

/-- `lapd_mdl_remove_request`. -/
def mdlRemoveRequest (s : Sock) : Sock :=
  let s := { s with assigned := false }
  match s.state with
  | .teiAssigned => changeState (discardUiQueue s) .teiUnassigned
  | .awaitingEstablish =>
    let s := stopT200 (discardUiQueue (discardIQueue s))
    dlPrimitive (changeState s .teiUnassigned) .releaseIndication
  | .awaitingRelease =>
    let s := stopT200 (discardUiQueue s)
    dlPrimitive (changeState s .teiUnassigned) .releaseConfirm
  | .linkConnectionEstablished =>
    let s := stopT203 (stopT200 (discardUiQueue (discardIQueue s)))
    dlPrimitive (changeState s .teiUnassigned) .releaseIndication
  | .timerRecovery =>
    let s := stopT200 (discardUiQueue (discardIQueue s))
    dlPrimitive (changeState s .teiUnassigned) .releaseIndication
  | _ => s

/-- `lapd_mdl_error_response`. -/
def mdlErrorResponse (s : Sock) : Sock :=
  match s.state with
  | .awaitingTei => changeState (discardUiQueue s) .teiUnassigned
  | .establishAwaitingTei =>
    dlPrimitive (changeState (discardUiQueue s) .teiUnassigned) .releaseIndication
  | _ => s

/-- `lapd_persistent_deactivation`. -/
def persistentDeactivation (s : Sock) : Sock :=
  match s.state with
  | .awaitingTei => changeState (discardUiQueue s) .teiUnassigned
  | .establishAwaitingTei =>
    dlPrimitive (changeState (discardUiQueue s) .teiUnassigned) .releaseIndication
  | .teiAssigned => discardUiQueue s
  | .awaitingEstablish =>
    let s := stopT200 (discardUiQueue (discardIQueue s))
    dlPrimitive (changeState s .teiAssigned) .releaseIndication
  | .awaitingRelease =>
    let s := stopT200 (discardUiQueue s)
    dlPrimitive (changeState s .teiAssigned) .releaseConfirm
  | .linkConnectionEstablished =>
    let s := stopT203 (stopT200 (discardUiQueue (discardIQueue s)))
    dlPrimitive (changeState s .teiAssigned) .releaseIndication
  | .timerRecovery =>
    let s := stopT200 (discardUiQueue (discardIQueue s))
    dlPrimitive (changeState s .teiAssigned) .releaseIndication
  | _ => s

/-- `lapd_mdl_primitive`: a socket in use by a process gets the primitive
through its backlog, otherwise it is handled on the spot. -/
def mdlPrimitiveWith (recv : Sock → MdlPrimitive → Sock) (s : Sock) (pri : MdlPrimitive) : Sock :=
  if s.owned then { s with backlog := s.backlog ++ [.mdl pri] } else recv s pri

/-- `lapd_utme_tei_remove` as far as this socket is concerned: the management
entity of a TE socket is its own. -/
def utmeTeiRemove (s : Sock) : Sock :=
  mdlPrimitiveWith (fun s _ => mdlRemoveRequest s) s .removeRequest

/-- The indications that make `lapd_mdl_error_indication` act. -/
def verifiesTei (errors : List MdlError) : Bool :=
  errors.any fun e => e == .C || e == .D || e == .G || e == .H

/-- `lapd_mdl_error_indication`. -/
def mdlErrorIndication (s : Sock) (errors : List MdlError) : Sock :=
  if verifiesTei errors then
    match s.dev.role with
    | .nt => if s.dev.netTme then { s with out := s.out ++ [.startTeiCheck s.tei] } else s
    | .te => if s.usrTme then utmeTeiRemove s else s
  else s

/-- The primitives' half of `lapd_dlc_recv`. -/
def mdlRecv (s : Sock) : MdlPrimitive → Sock
  | .assignRequest tei => mdlAssignRequest s tei
  | .removeRequest => mdlRemoveRequest s
  | .errorResponse => mdlErrorResponse s
  | .errorIndication errors => mdlErrorIndication s errors
  | .persistentDeactivation => persistentDeactivation s

/-- `lapd_mdl_primitive`. -/
def mdlPrimitive (s : Sock) (pri : MdlPrimitive) : Sock := mdlPrimitiveWith mdlRecv s pri

/-! ## Procedures shared by the frame handlers -/

/-- `lapd_transmit_enquiry_procedure`. -/
def transmitEnquiry (s : Sock) : Sock :=
  let s := if s.ownReceiverBusy then sendSframe s .command .rnr true
    else sendSframe s .command .rr true
  startT200 { s with acknowledgePending := false }

/-- `lapd_nr_error_recovery_procedure`. -/
def nrErrorRecovery (s : Sock) : Sock :=
  { establishDatalink (mdlPrimitive s (.errorIndication [.J])) with layer3Initiated := false }

/-- `lapd_enquiry_response_procedure`. -/
def enquiryResponse (s : Sock) : Sock :=
  let s := if s.ownReceiverBusy then sendSframe s .response .rnr true
    else sendSframe s .response .rr true
  { s with acknowledgePending := false }

/-- `lapd_set_own_receiver_busy`. -/
def setOwnReceiverBusy (s : Sock) : Sock :=
  match s.state with
  | .linkConnectionEstablished | .timerRecovery =>
    if s.ownReceiverBusy then s
    else { sendSframe { s with ownReceiverBusy := true } .response .rnr false with
      acknowledgePending := false }
  | _ => s

/-- `lapd_clear_own_receiver_busy`. -/
def clearOwnReceiverBusy (s : Sock) : Sock :=
  match s.state with
  | .linkConnectionEstablished | .timerRecovery =>
    if s.ownReceiverBusy then
      { sendSframe { s with ownReceiverBusy := false } .response .rr false with
        acknowledgePending := false }
    else s
  | _ => s

/-- `lapd_frame_reject`. Its `switch` tests `error == LAPD_FE_LENGTH`, which is
1 or 0, so a wrong length is indicated as O and everything else as N. -/
def frameReject (s : Sock) (error : FormatError) : Sock :=
  let s := mdlPrimitive s (.errorIndication [if error = .length then .O else .N])
  if s.state = .linkConnectionEstablished ∨ s.state = .timerRecovery then
    changeState { establishDatalink s with layer3Initiated := false } .awaitingEstablish
  else s

/-! ## I frames -/

/-- The receiving half of `lapd_socket_handle_iframe`, the same in states 7 and
8 but for the pending acknowledgement after a REJ. -/
def acceptIframe (s : Sock) (skb : RxSkb) (nS : Seq) (p : Bool) : Sock :=
  if s.ownReceiverBusy then
    if p then { sendSframe s .response .rnr true with acknowledgePending := false } else s
  else if nS = s.vR then
    let s := dlDataIndication { s with vR := s.vR + 1, rejectException := false } skb
    if p then { sendSframe s .response .rr true with acknowledgePending := false }
    else sendSframe s .response .rr false
  else if s.rejectException then
    if p then { sendSframe s .response .rr true with acknowledgePending := false } else s
  else
    let s := sendSframe { s with rejectException := true } .response .rej p
    if s.state = .linkConnectionEstablished then { s with acknowledgePending := false } else s

/-- Acknowledgement of frames in state 7 with the timers that follow it, in the
handlers of I and RR. -/
def acknowledgeTimed (s : Sock) (nR : Seq) : Sock :=
  if nR = s.vS then startT203 (stopT200 (acknowledge s nR))
  else if nR ≠ s.vA then startT200 (acknowledge s nR)
  else s

/-- `lapd_socket_handle_iframe`. -/
def handleIframe (s : Sock) (skb : RxSkb) (nS nR : Seq) (p : Bool) : Sock :=
  if skb.len > s.dev.mtu then frameReject s .n201
  else
    let s := if s.rmemAlloc < s.rcvbuf ∧ s.ownReceiverBusy then clearOwnReceiverBusy s else s
    if s.rmemAlloc ≥ s.rcvbuf then setOwnReceiverBusy s
    else match s.state with
      | .linkConnectionEstablished =>
        let s := acceptIframe s skb nS p
        if isValidNr s nR then
          if s.peerReceiverBusy then acknowledge s nR else acknowledgeTimed s nR
        else nrErrorRecovery (changeState s .awaitingEstablish)
      | .timerRecovery =>
        let s := acceptIframe s skb nS p
        if isValidNr s nR then acknowledge s nR
        else nrErrorRecovery (changeState s .awaitingEstablish)
      | _ => s

/-! ## S frames -/

/-- What the three supervisory handlers do first in state 7: a final bit is not
expected there, a poll is answered. -/
def answerPoll (s : Sock) (cr : Bool) (pF : Bool) : Sock :=
  if pF then
    if rxIsResponse s.dev.role cr then mdlPrimitive s (.errorIndication [.A])
    else enquiryResponse s
  else s

/-- State 8 of the three supervisory handlers. They differ in the timers they
set when the response to the enquiry arrives. -/
def recoverySframe (s : Sock) (cr : Bool) (nR : Seq) (pF : Bool) (timers : Sock → Sock) : Sock :=
  if rxIsResponse s.dev.role cr then
    if isValidNr s nR then
      if pF then
        let s := timers (acknowledge s nR)
        invokeRetransmission (changeState s .linkConnectionEstablished)
      else acknowledge s nR
    else changeState (nrErrorRecovery s) .awaitingEstablish
  else
    let s := if pF then enquiryResponse s else s
    if isValidNr s nR then acknowledge s nR
    else changeState (nrErrorRecovery s) .awaitingEstablish

/-- `lapd_socket_handle_sframe_rr`. -/
def handleSframeRr (s : Sock) (cr : Bool) (nR : Seq) (pF : Bool) : Sock :=
  match s.state with
  | .linkConnectionEstablished =>
    let s := answerPoll { s with peerReceiverBusy := false } cr pF
    if isValidNr s nR then acknowledgeTimed s nR
    else nrErrorRecovery (changeState s .awaitingEstablish)
  | .timerRecovery =>
    recoverySframe { s with peerReceiverBusy := false } cr nR pF fun s => startT203 (stopT200 s)
  | _ => s

/-- `lapd_socket_handle_sframe_rnr`. -/
def handleSframeRnr (s : Sock) (cr : Bool) (nR : Seq) (pF : Bool) : Sock :=
  match s.state with
  | .linkConnectionEstablished =>
    let s := answerPoll { s with peerReceiverBusy := true } cr pF
    if isValidNr s nR then
      startT200 (stopT203 (invokeRetransmission (acknowledge s nR)))
    else nrErrorRecovery (changeState s .awaitingEstablish)
  | .timerRecovery => recoverySframe { s with peerReceiverBusy := true } cr nR pF startT200
  | _ => s

/-- `lapd_socket_handle_sframe_rej`. -/
def handleSframeRej (s : Sock) (cr : Bool) (nR : Seq) (pF : Bool) : Sock :=
  match s.state with
  | .linkConnectionEstablished =>
    let s := answerPoll { s with peerReceiverBusy := false } cr pF
    if isValidNr s nR then
      invokeRetransmission (startT203 (stopT200 (acknowledge s nR)))
    else nrErrorRecovery (changeState s .awaitingEstablish)
  | .timerRecovery =>
    recoverySframe { s with peerReceiverBusy := false } cr nR pF fun s => startT203 (stopT200 s)
  | _ => s

/-- `lapd_socket_handle_sframe`. -/
def handleSframe (s : Sock) (skb : RxSkb) (function : SframeFunction) (nR : Seq) (pF : Bool) :
    Sock :=
  if skb.len ≠ 6 then frameReject s .length
  else match function with
    | .rr => handleSframeRr s skb.frame.cr nR pF
    | .rnr => handleSframeRnr s skb.frame.cr nR pF
    | .rej => handleSframeRej s skb.frame.cr nR pF
    | .invalid => s

/-! ## U frames -/

/-- `lapd_socket_handle_uframe_ua`. The sequence variables are reset before they
are compared, as in the source. -/
def handleUframeUa (s : Sock) (pF : Bool) : Sock :=
  match s.state with
  | .teiAssigned => mdlPrimitive s (.errorIndication [.C, .D])
  | .awaitingEstablish =>
    if !pF then mdlPrimitive s (.errorIndication [.D])
    else
      let s := { startT203 (stopT200 s) with vS := 0, vR := 0, vA := 0 }
      let s := changeState s .linkConnectionEstablished
      if s.layer3Initiated then runIQueue (dlPrimitive s .establishConfirm)
      else if s.vS ≠ s.vA then dlPrimitive (discardIQueue s) .establishIndication
      else s
  | .awaitingRelease =>
    if !pF then mdlPrimitive s (.errorIndication [.D])
    else dlPrimitive (changeState (stopT200 s) .teiAssigned) .releaseConfirm
  | .linkConnectionEstablished | .timerRecovery => mdlPrimitive s (.errorIndication [.C, .D])
  | _ => s

/-- `lapd_socket_handle_uframe_disc`. -/
def handleUframeDisc (s : Sock) (pF : Bool) : Sock :=
  match s.state with
  | .teiAssigned | .awaitingEstablish => sendUframe s .dm pF
  | .awaitingRelease => sendUframe s .ua pF
  | .linkConnectionEstablished =>
    let s := stopT203 (stopT200 (sendUframe (discardIQueue s) .ua pF))
    dlPrimitive (changeState s .teiAssigned) .releaseIndication
  | .timerRecovery =>
    let s := stopT200 (sendUframe (discardIQueue s) .ua pF)
    dlPrimitive (changeState s .teiAssigned) .releaseIndication
  | _ => s

/-- `lapd_socket_handle_uframe_frmr`. It does not look at the state. -/
def handleUframeFrmr (s : Sock) : Sock :=
  let s := establishDatalink (mdlPrimitive s (.errorIndication [.K]))
  changeState { s with layer3Initiated := false } .awaitingEstablish

/-- `lapd_socket_handle_uframe_dm`. -/
def handleUframeDm (s : Sock) (pF : Bool) : Sock :=
  match s.state with
  | .teiAssigned =>
    if !pF ∧ s.skState = .normalDlc then
      changeState { establishDatalink s with layer3Initiated := true } .awaitingEstablish
    else s
  | .awaitingEstablish =>
    if pF then
      dlPrimitive (changeState (stopT200 (discardIQueue s)) .teiAssigned) .releaseIndication
    else s
  | .awaitingRelease =>
    if pF then dlPrimitive (changeState (stopT200 s) .teiAssigned) .releaseConfirm else s
  | .linkConnectionEstablished | .timerRecovery =>
    if pF then mdlPrimitive s (.errorIndication [.B])
    else
      let s := establishDatalink (mdlPrimitive s (.errorIndication [.E]))
      changeState { s with layer3Initiated := false } .awaitingEstablish
  | _ => s

/-- States 7 and 8 of `lapd_socket_handle_uframe_sabme`: the link is reset in
place, the state is left as it is. -/
def resetLink (s : Sock) (pF : Bool) : Sock :=
  let s := clearExceptionConditions (sendUframe s .ua pF)
  let s := startT203 (stopT200 (mdlPrimitive s (.errorIndication [.F])))
  let s := { s with vS := 0, vR := 0, vA := 0 }
  if s.vS ≠ s.vA then dlPrimitive (discardIQueue s) .establishIndication else s

/-- `lapd_socket_handle_uframe_sabme`. -/
def handleUframeSabme (s : Sock) (pF : Bool) : Sock :=
  match s.state with
  | .teiAssigned =>
    if s.skState = .normalDlc then
      let s := startT203 { clearExceptionConditions s with vS := 0, vR := 0, vA := 0 }
      let s := sendUframe (changeState s .linkConnectionEstablished) .ua pF
      dlPrimitive s .establishIndication
    else sendUframe s .dm pF
  | .awaitingEstablish => sendUframe s .ua pF
  | .awaitingRelease => sendUframe s .dm pF
  | .linkConnectionEstablished | .timerRecovery => resetLink s pF
  | _ => s

/-- `lapd_socket_handle_uframe`. -/
def handleUframe (s : Sock) (skb : RxSkb) (function : UframeFunction) (pF : Bool) : Sock :=
  if function ≠ .ui ∧ skb.len ≠ 5 then frameReject s .length
  else match function with
    | .sabme => handleUframeSabme s pF
    | .dm => handleUframeDm s pF
    | .ui => dlUnitDataIndication s skb
    | .disc => handleUframeDisc s pF
    | .ua => handleUframeUa s pF
    | .frmr => handleUframeFrmr s
    | .xid => s
    | .invalid => frameReject s .undefinedCommand

/-- `lapd_dlc_recv`. -/
def dlcRecv (s : Sock) : Item → Sock
  | .mdl pri => mdlRecv s pri
  | .frame skb => match skb.frame.control with
    | .iframe nS nR p => handleIframe s skb nS nR p
    | .sframe function nR pF => handleSframe s skb function nR pF
    | .uframe function pF => handleUframe s skb function pF

/-! ## Requests of layer 3 -/

/-- `lapd_dl_establish_request`. -/
def dlEstablishRequest (s : Sock) : Sock :=
  match s.state with
  | .teiUnassigned =>
    changeState { s with out := s.out ++ [.assignIndication] } .establishAwaitingTei
  | .awaitingTei => changeState s .establishAwaitingTei
  | .teiAssigned =>
    changeState { establishDatalink s with layer3Initiated := true } .awaitingEstablish
  | .awaitingEstablish => { discardIQueue (establishDatalink s) with layer3Initiated := true }
  | .linkConnectionEstablished | .timerRecovery =>
    let s := establishDatalink (discardIQueue s)
    changeState { s with layer3Initiated := true } .awaitingEstablish
  | _ => s

/-- `lapd_dl_release_request`. -/
def dlReleaseRequest (s : Sock) : Sock :=
  match s.state with
  | .teiAssigned => dlPrimitive s .releaseConfirm
  | .linkConnectionEstablished =>
    let s := sendUframe { discardIQueue s with retransCnt := 0 } .disc true
    changeState (stopT203 (startT200 s)) .awaitingRelease
  | .timerRecovery =>
    let s := sendUframe { discardIQueue s with retransCnt := 0 } .disc true
    changeState (startT200 s) .awaitingRelease
  | _ => s

/-- `lapd_dl_data_request`. -/
def dlDataRequest (s : Sock) (skb : Skb) : Sock :=
  match s.state with
  | .awaitingEstablish => if s.layer3Initiated then sockQueueIframe s skb else s
  | .linkConnectionEstablished => runIQueue (sockQueueIframe s skb)
  | .timerRecovery => sockQueueIframe s skb
  | _ => s

/-- `lapd_dl_unit_data_request`, on a frame `lapd_prepare_uframe` built. -/
def dlUnitDataRequest (s : Sock) (frame : Frame) : Sock :=
  let s := { s with uQueue := s.uQueue ++ [frame] }
  match s.state with
  | .teiUnassigned =>
    let s := changeState s .awaitingTei
    { s with out := s.out ++ [.assignIndication] }
  | .awaitingTei | .establishAwaitingTei => s
  | _ => runUiQueue s

/-! ## Timers -/

/-- `lapd_timer_T200` once the timer has fired. -/
def timerT200 (s : Sock) : Sock :=
  let s := stopT200 s
  if s.owned then startT200 s
  else match s.state with
    | .awaitingEstablish =>
      if s.retransCnt = s.sap.N200 then
        let s := changeState (discardIQueue s) .teiAssigned
        dlPrimitive (mdlPrimitive s (.errorIndication [.G])) .releaseIndication
      else startT200 (sendUframe { s with retransCnt := s.retransCnt + 1 } .sabme true)
    | .awaitingRelease =>
      if s.retransCnt = s.sap.N200 then
        let s := dlPrimitive (changeState s .teiAssigned) .releaseConfirm
        mdlPrimitive s (.errorIndication [.H])
      else startT200 (sendUframe { s with retransCnt := s.retransCnt + 1 } .disc true)
    | .linkConnectionEstablished =>
      changeState { transmitEnquiry { s with retransCnt := 0 } with retransCnt := 1 } .timerRecovery
    | .timerRecovery =>
      if s.retransCnt = s.sap.N200 then
        let s := establishDatalink (mdlPrimitive s (.errorIndication [.I]))
        changeState { s with layer3Initiated := false } .awaitingEstablish
      else { transmitEnquiry s with retransCnt := s.retransCnt + 1 }
    | _ => s

/-- `lapd_timer_T203` once the timer has fired. When a process owns the socket
it is T200 that is started again, as in the source. -/
def timerT203 (s : Sock) : Sock :=
  let s := stopT203 s
  if s.owned then startT200 s
  else match s.state with
    | .linkConnectionEstablished =>
      changeState { transmitEnquiry s with retransCnt := 0 } .timerRecovery
    | _ => s

end Vstuff.Lapd
