import Bbsim.Foundation.StateMachine

/-! State machines of the devices. The event tables of the OLT, its PON ports, the ONUs with their
ports, and the services. -/

namespace Bbsim.Devices

open Foundation

inductive OnuState where
  | created
  | initialized
  | discovered
  | enabled
  | disabled
  | ponDisabled
  | imageDownloadStarted
  | imageDownloadInProgress
  | imageDownloadComplete
  | imageDownloadError
  | imageActivated
  | imageCommitted
deriving DecidableEq, Repr

inductive OnuTx where
  | init
  | discover
  | enable
  | disable
  | ponDisable
  | startImageDownload
  | progressImageDownload
  | completeImageDownload
  | failImageDownload
  | activateImage
  | commitImage
deriving DecidableEq, Repr

def onuEvents : List (EventDesc OnuTx OnuState) := [
  ⟨.init, [.created, .disabled, .ponDisabled], .initialized⟩,
  ⟨.discover, [.initialized], .discovered⟩,
  ⟨.enable, [.discovered, .ponDisabled], .enabled⟩,
  ⟨.disable, [.enabled, .ponDisabled, .imageActivated, .imageDownloadError, .imageCommitted],
    .disabled⟩,
  ⟨.ponDisable, [.enabled, .imageActivated, .imageDownloadError, .imageCommitted,
    .imageDownloadComplete], .ponDisabled⟩,
  ⟨.startImageDownload, [.enabled, .imageDownloadComplete, .imageDownloadError, .imageCommitted],
    .imageDownloadStarted⟩,
  ⟨.progressImageDownload, [.imageDownloadStarted], .imageDownloadInProgress⟩,
  ⟨.completeImageDownload, [.imageDownloadInProgress], .imageDownloadComplete⟩,
  ⟨.failImageDownload, [.imageDownloadInProgress], .imageDownloadError⟩,
  ⟨.activateImage, [.imageDownloadComplete], .imageActivated⟩,
  ⟨.commitImage, [.enabled], .imageCommitted⟩]

def OnuState.after (state : OnuState) (tx : OnuTx) : Option OnuState :=
  transition onuEvents tx state

namespace OnuState

variable {state entered : OnuState} {tx : OnuTx}

/-- Only the initial event leaves a state in which the channel may be missing or closed. -/
theorem source_of_after (accepted : state.after tx = some entered) (later : tx ≠ .init) :
    state ≠ .created ∧ state ≠ .disabled := by
  cases tx <;> cases state <;> first | contradiction | simp

theorem after_init (accepted : state.after .init = some entered) : entered = .initialized := by
  cases state <;> cases accepted <;> rfl

theorem disabled_of_after {state : OnuState} (accepted : state.after tx = some .disabled) :
    tx = .disable := by
  cases tx <;> cases state <;> first | rfl | cases accepted

theorem after_disable (accepted : state.after .disable = some entered) : entered = .disabled := by
  cases state <;> cases accepted <;> rfl

theorem created_not_entered (accepted : state.after tx = some entered) : entered ≠ .created := by
  rintro rfl
  cases tx <;> cases state <;> cases accepted

theorem init_of_after {state : OnuState} (accepted : state.after tx = some .initialized) :
    tx = .init := by
  cases tx <;> cases state <;> first | rfl | cases accepted

end OnuState

/-- Operational state of an ONU, a UNI, a POTS port, a PON or the OLT. -/
inductive PortState where
  | down
  | up
deriving DecidableEq, Repr

inductive PortTx where
  | enable
  | disable
deriving DecidableEq, Repr

def portEvents : List (EventDesc PortTx PortState) := [
  ⟨.enable, [.down], .up⟩,
  ⟨.disable, [.up], .down⟩]

def PortState.after (state : PortState) (tx : PortTx) : Option PortState :=
  transition portEvents tx state

inductive ServiceState where
  | created
  | initialized
  | disabled
deriving DecidableEq, Repr

inductive ServiceTx where
  | init
  | disable
deriving DecidableEq, Repr

def serviceEvents : List (EventDesc ServiceTx ServiceState) := [
  ⟨.init, [.created, .disabled], .initialized⟩,
  ⟨.disable, [.initialized], .disabled⟩]

def ServiceState.after (state : ServiceState) (tx : ServiceTx) : Option ServiceState :=
  transition serviceEvents tx state

inductive EapolState where
  | created
  | authStarted
  | startSent
  | responseIdentitySent
  | responseChallengeSent
  | responseSuccessReceived
  | authFailed
deriving DecidableEq, Repr

inductive EapolEvent where
  | startAuth
  | startSent
  | responseIdentitySent
  | responseChallengeSent
  | responseSuccessReceived
  | authFailed
deriving DecidableEq, Repr

def eapolEvents : List (EventDesc EapolEvent EapolState) := [
  ⟨.startAuth, [.created, .responseSuccessReceived, .authFailed], .authStarted⟩,
  ⟨.startSent, [.authStarted], .startSent⟩,
  ⟨.responseIdentitySent, [.startSent], .responseIdentitySent⟩,
  ⟨.responseChallengeSent, [.responseIdentitySent], .responseChallengeSent⟩,
  ⟨.responseSuccessReceived, [.responseChallengeSent], .responseSuccessReceived⟩,
  ⟨.authFailed, [.authStarted, .startSent, .responseIdentitySent, .responseChallengeSent],
    .authFailed⟩]

def EapolState.after (state : EapolState) (event : EapolEvent) : Option EapolState :=
  transition eapolEvents event state

inductive DhcpState where
  | created
  | started
  | discoverySent
  | requestSent
  | ackReceived
  | failed
deriving DecidableEq, Repr

inductive DhcpEvent where
  | start
  | discoverySent
  | requestSent
  | ackReceived
  | failed
deriving DecidableEq, Repr

def dhcpEvents : List (EventDesc DhcpEvent DhcpState) := [
  ⟨.start, [.created, .ackReceived, .failed], .started⟩,
  ⟨.discoverySent, [.started], .discoverySent⟩,
  ⟨.requestSent, [.discoverySent], .requestSent⟩,
  ⟨.ackReceived, [.requestSent], .ackReceived⟩,
  ⟨.failed, [.started, .discoverySent, .requestSent], .failed⟩]

def DhcpState.after (state : DhcpState) (event : DhcpEvent) : Option DhcpState :=
  transition dhcpEvents event state

inductive PonState where
  | created
  | enabled
  | disabled
deriving DecidableEq, Repr

def ponEvents : List (EventDesc PortTx PonState) := [
  ⟨.enable, [.created, .disabled], .enabled⟩,
  ⟨.disable, [.enabled], .disabled⟩]

def PonState.after (state : PonState) (tx : PortTx) : Option PonState :=
  transition ponEvents tx state

inductive OltState where
  | created
  | initialized
  | enabled
  | disabled
  | deleted
deriving DecidableEq, Repr

inductive OltTx where
  | init
  | enable
  | disable
  | delete
deriving DecidableEq, Repr

def oltEvents : List (EventDesc OltTx OltState) := [
  ⟨.init, [.created, .deleted], .initialized⟩,
  ⟨.enable, [.initialized, .disabled], .enabled⟩,
  ⟨.disable, [.enabled], .disabled⟩,
  ⟨.delete, [.disabled, .enabled], .deleted⟩]

def OltState.after (state : OltState) (tx : OltTx) : Option OltState :=
  transition oltEvents tx state

/-- `ControlledActivation`. -/
inductive Mode where
  | default
  | onlyOnu
  | onlyPon
  | both
deriving DecidableEq, Repr

end Bbsim.Devices
