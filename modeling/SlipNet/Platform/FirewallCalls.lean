import SlipNet.Foundation.Handles
import SlipNet.Platform.Firewall
import SlipNet.Standard.Integers

/-!
# The calls of a firewall probe

The two files of `probeTCP` as programs over the calls they make, with every
`close` of their loops.  Run on fixed replies they return what their models
return.  Whatever the replies, a probe closes each socket it tried and frees the
list of addresses, also when the loop leaves one of its turns half way.
-/

namespace SlipNet.Platform.Probes

open SlipNet.Foundation
open SlipNet.Standard

/-! ## The calls -/

variable {A H : Type}

/-- `elapsed` reads the clock for the latency. -/
inductive ProbeCall (A H : Type)
  | getaddrinfo (host port : Str)
  | freeaddrinfo (addressList : List A)
  | socket (address : A)
  | getfl (socketFd : H)
  | setfl (socketFd : H) (flags : Int32)
  | ioctlsocket (socketFd : H)
  | connect (socketFd : H) (address : A)
  | select (socketFd : H) (timeout : Timeval)
  | getsockopt (socketFd : H)
  | close (socketFd : H)
  | elapsed

/-- The list of `getaddrinfo` is empty for a null pointer; `getsockopt` gives
the error it stores. -/
abbrev ProbeCall.Reply : ProbeCall A H → Type
  | .getaddrinfo _ _ => Int × List A
  | .freeaddrinfo _ => Unit
  | .socket _ => Option H
  | .getfl _ => Int32
  | .setfl _ _ => Int
  | .ioctlsocket _ => Int
  | .connect _ _ => ConnectOutcome
  | .select _ _ => Int
  | .getsockopt _ => Int
  | .close _ => Unit
  | .elapsed => Int

abbrev ProbeProgram (A H α : Type) := Program (ProbeCall A H) ProbeCall.Reply α

inductive Resource (A H : Type)
  | addresses (addressList : List A)
  | socket (socketFd : H)
  deriving DecidableEq

/-- A lookup stores a list only if it succeeds. -/
def resources : Handles (ProbeCall A H) ProbeCall.Reply (Resource A H) where
  issued _ := True
  opened
    | .getaddrinfo _ _, lookup =>
        if lookup.1 ≠ 0 ∨ lookup.2.isEmpty then none
        else some (.addresses lookup.2)
    | .socket _, reply => reply.map .socket
    | _, _ => none
  used
    | .getfl socketFd => [.socket socketFd]
    | .setfl socketFd _ => [.socket socketFd]
    | .ioctlsocket socketFd => [.socket socketFd]
    | .connect socketFd _ => [.socket socketFd]
    | .select socketFd _ => [.socket socketFd]
    | .getsockopt socketFd => [.socket socketFd]
    | _ => []
  closed
    | .freeaddrinfo addressList => some (.addresses addressList)
    | .close socketFd => some (.socket socketFd)
    | _ => none

def getaddrinfo (host port : Str) : ProbeProgram A H (Int × List A) :=
  .call (.getaddrinfo host port) .done

def freeaddrinfo (addressList : List A) : ProbeProgram A H Unit :=
  .call (.freeaddrinfo addressList) .done

def socket (address : A) : ProbeProgram A H (Option H) :=
  .call (.socket address) .done

def getfl (socketFd : H) : ProbeProgram A H Int32 :=
  .call (.getfl socketFd) .done

def setfl (socketFd : H) (flags : Int32) : ProbeProgram A H Int :=
  .call (.setfl socketFd flags) .done

def ioctlsocket (socketFd : H) : ProbeProgram A H Int :=
  .call (.ioctlsocket socketFd) .done

def connect (socketFd : H) (address : A) : ProbeProgram A H ConnectOutcome :=
  .call (.connect socketFd address) .done

def select (socketFd : H) (timeout : Timeval) : ProbeProgram A H Int :=
  .call (.select socketFd timeout) .done

def getsockopt (socketFd : H) : ProbeProgram A H Int :=
  .call (.getsockopt socketFd) .done

def close (socketFd : H) : ProbeProgram A H Unit :=
  .call (.close socketFd) .done

def elapsed : ProbeProgram A H Int := .call .elapsed .done

/-! ## Around the loop -/

/-- What the loop makes of its addresses, with the socket it left open. -/
abbrev Ended (H : Type) := FirewallProbeResult × Option H

def closeLeft : Option H → ProbeProgram A H Unit
  | none => return ()
  | some socketFd => close socketFd

def probeWith (loop : List A → FirewallProbeResult → ProbeProgram A H (Ended H))
    (host : Str) (port : Int) : ProbeProgram A H FirewallProbeResult := do
  let result : FirewallProbeResult := { port := port }
  if port < 1 ∨ port > 65535 then
    return { result with evidence := "Invalid TCP port.".toList }
  else
    let lookup ← getaddrinfo (cStr host) (printInt port)
    if lookup.1 ≠ 0 ∨ lookup.2.isEmpty then
      return { result with
        evidence := "Unable to resolve the target address.".toList }
    else
      let ended ← loop lookup.2 result
      closeLeft ended.2
      freeaddrinfo lookup.2
      let latencyMs ← elapsed
      return conclude latencyMs ended.1

/-! ## The two loops -/

namespace Linux

open Platform.Linux

def setNonBlocking (socketFd : H) : ProbeProgram A H Bool := do
  let flags ← getfl socketFd
  if flags < 0 then return false
  else
    let status ← setfl socketFd (flags ||| O_NONBLOCK)
    return status = 0

def probeAddresses (timeoutMs : Int) :
    List A → FirewallProbeResult → ProbeProgram A H (Ended H)
  | [], result => return (result, none)
  | address :: addresses, result => do
      match ← socket address with
      | none => probeAddresses timeoutMs addresses result
      | some socketFd =>
          if !(← setNonBlocking socketFd) then
            close socketFd
            probeAddresses timeoutMs addresses result
          else
            match ← connect socketFd address with
            | .succeeded => return ({ result with state := .open }, socketFd)
            | .failed error =>
                if error ≠ EINPROGRESS then
                  if error = ECONNREFUSED then
                    close socketFd
                    return ({ result with
                      state := .closed, evidence := refusedEvidence }, none)
                  else
                    close socketFd
                    probeAddresses timeoutMs addresses result
                else
                  let selected ← select socketFd (timevalOf timeoutMs)
                  if selected = 0 then
                    close socketFd
                    return ({ result with
                      state := .filtered, evidence := silentEvidence }, none)
                  else if selected < 0 then
                    close socketFd
                    probeAddresses timeoutMs addresses result
                  else
                    let socketError ← getsockopt socketFd
                    close socketFd
                    return (classifyError ECONNREFUSED socketError result, none)

def probeTCP (host : Str) (port timeoutMs : Int) :
    ProbeProgram A H FirewallProbeResult :=
  probeWith (probeAddresses timeoutMs) host port

end Linux

namespace Windows

open Platform.Windows

def awaitAnswer (socketFd : H) (timeoutMs : Int)
    (result : FirewallProbeResult) : ProbeProgram A H FirewallProbeResult := do
  let selected ← select socketFd (timevalOf timeoutMs)
  if selected = 0 then
    return { result with state := .filtered, evidence := silentEvidence }
  else if selected < 0 then
    return { result with
      state := .unknown
      evidence := "Unable to determine TCP connection state.".toList }
  else
    let socketError ← getsockopt socketFd
    return classifyError WSAECONNREFUSED socketError result

def probeAddresses (timeoutMs : Int) :
    List A → FirewallProbeResult → ProbeProgram A H (Ended H)
  | [], result => return (result, none)
  | address :: addresses, result => do
      match ← socket address with
      | none => probeAddresses timeoutMs addresses result
      | some socketFd =>
          let status ← ioctlsocket socketFd
          if status ≠ 0 then
            close socketFd
            probeAddresses timeoutMs addresses result
          else
            match ← connect socketFd address with
            | .succeeded =>
                close socketFd
                return ({ result with state := .open }, none)
            | .failed error =>
                if error ≠ WSAEWOULDBLOCK ∧ error ≠ WSAEINPROGRESS then
                  close socketFd
                  return (if error = WSAECONNREFUSED then
                    { result with
                      state := .closed, evidence := refusedEvidence }
                  else result, none)
                else
                  let answered ← awaitAnswer socketFd timeoutMs result
                  close socketFd
                  return (answered, none)

def probeTCP (host : Str) (port timeoutMs : Int) :
    ProbeProgram A H FirewallProbeResult :=
  probeWith (probeAddresses timeoutMs) host port

end Windows

/-! ## Fixed replies

An address stands for its socket and brings the outcomes of its calls. -/

section Fixed

variable {replies : (c : ProbeCall A A) → c.Reply}

def classified (ran : Option (Ended A) × Log (ProbeCall A A) ProbeCall.Reply) :
    Option FirewallProbeResult :=
  ran.1.map Prod.fst

theorem shows_next {c : ProbeCall A A} {result : FirewallProbeResult}
    {rest : c.Reply → ProbeProgram A A (Ended A)}
    (h : Program.Shows replies classified (rest (replies c)) result) :
    Program.Shows replies classified (.call c .done >>= rest) result :=
  Program.shows_call (fun _ => rfl) h

theorem fst_run_probeWith
    {loop : List A → FirewallProbeResult → ProbeProgram A A (Ended A)}
    {model : List A → FirewallProbeResult → FirewallProbeResult}
    (hloop : ∀ addresses result,
      Program.Shows replies classified (loop addresses result)
        (model addresses result))
    (host : Str) (port : Int) :
    ((probeWith loop host port).run replies).1 =
      some (Platform.probeWith model
        (replies (.getaddrinfo (cStr host) (printInt port))) port
        (replies .elapsed)) := by
  unfold probeWith Platform.probeWith
  dsimp only
  split_ifs with hport hlookup
  · rfl
  · change Prod.fst (Program.run replies (ite _ _ _)) = _
    rw [if_pos hlookup]
    rfl
  · change Prod.fst (Program.run replies (ite _ _ _)) = _
    rw [if_neg hlookup, Program.fst_run_bind]
    obtain ⟨ended, hran, hended⟩ := Option.map_eq_some_iff.mp (hloop
      (replies (.getaddrinfo (cStr host) (printInt port))).2 { port := port })
    rw [hran, ← hended]
    cases hleft : ended.2 <;> simp only [Option.bind_some, hleft] <;> rfl

end Fixed

namespace Linux

open Platform.Linux (AddressCalls)

def repliesOf (lookup : Int × List AddressCalls) (latencyMs : Int) :
    (c : ProbeCall AddressCalls AddressCalls) → c.Reply
  | .getaddrinfo _ _ => lookup
  | .freeaddrinfo _ => ()
  | .socket address => if address.socket < 0 then none else some address
  | .getfl socketFd => socketFd.getfl
  | .setfl socketFd flags => socketFd.setfl flags
  | .ioctlsocket _ => 0
  | .connect socketFd _ => socketFd.connect
  | .select socketFd timeout => socketFd.select timeout
  | .getsockopt socketFd => socketFd.socketError
  | .close _ => ()
  | .elapsed => latencyMs

variable (lookup : Int × List AddressCalls) (latencyMs : Int)

theorem fst_run_setNonBlocking (calls : AddressCalls) :
    ((setNonBlocking calls).run (repliesOf lookup latencyMs)).1 =
      some (Platform.Linux.setNonBlocking calls) := by
  rw [Platform.Linux.setNonBlocking]
  exact Program.shows_call (fun _ => rfl) (Program.shows_ite rfl rfl)

theorem shows_probeAddresses (timeoutMs : Int) (addresses : List AddressCalls)
    (result : FirewallProbeResult) :
    Program.Shows (repliesOf lookup latencyMs) classified
      (probeAddresses timeoutMs addresses result)
      (Platform.Linux.probeAddresses timeoutMs addresses result) := by
  induction addresses generalizing result with
  | nil => rfl
  | cons calls addresses ih =>
      rw [probeAddresses, Platform.Linux.probeAddresses]
      refine shows_next ?_
      rw [repliesOf]
      by_cases hsocket : calls.socket < 0
      · rw [if_pos hsocket, if_pos hsocket]
        exact ih result
      rw [if_neg hsocket, if_neg hsocket]
      refine Program.shows_bind
        (fst_run_setNonBlocking lookup latencyMs calls) ?_
      refine Program.shows_ite (ih result) (shows_next ?_)
      change Program.Shows _ _ (match calls.connect with
        | .succeeded => _
        | .failed _ => _) _
      cases calls.connect with
      | succeeded => rfl
      | failed error =>
          refine Program.shows_ite (Program.shows_ite rfl (ih result)) ?_
          refine shows_next (Program.shows_ite rfl ?_)
          exact Program.shows_ite (ih result) rfl

theorem fst_run_probeTCP (host : Str) (port timeoutMs : Int) :
    ((probeTCP host port timeoutMs).run (repliesOf lookup latencyMs)).1 =
      some (Platform.Linux.probeTCP lookup port timeoutMs latencyMs) :=
  fst_run_probeWith (shows_probeAddresses lookup latencyMs timeoutMs) host port

end Linux

namespace Windows

open Platform.Windows (AddressCalls)

def repliesOf (lookup : Int × List AddressCalls) (latencyMs : Int) :
    (c : ProbeCall AddressCalls AddressCalls) → c.Reply
  | .getaddrinfo _ _ => lookup
  | .freeaddrinfo _ => ()
  | .socket address => if address.socket = none then none else some address
  | .getfl _ => 0
  | .setfl _ _ => 0
  | .ioctlsocket socketFd => socketFd.ioctlsocket
  | .connect socketFd _ => socketFd.connect
  | .select socketFd timeout => socketFd.select timeout
  | .getsockopt socketFd => socketFd.socketError
  | .close _ => ()
  | .elapsed => latencyMs

variable (lookup : Int × List AddressCalls) (latencyMs : Int)

theorem fst_run_awaitAnswer (calls : AddressCalls) (timeoutMs : Int)
    (result : FirewallProbeResult) :
    ((awaitAnswer calls timeoutMs result).run (repliesOf lookup latencyMs)).1 =
      some (let selected := calls.select (timevalOf timeoutMs)
        if selected = 0 then
          { result with state := .filtered, evidence := silentEvidence }
        else if selected < 0 then
          { result with
            state := .unknown
            evidence := "Unable to determine TCP connection state.".toList }
        else
          classifyError Platform.Windows.WSAECONNREFUSED calls.socketError
            result) :=
  Program.shows_call (fun _ => rfl)
    (Program.shows_ite rfl (Program.shows_ite rfl rfl))

theorem shows_probeAddresses (timeoutMs : Int) (addresses : List AddressCalls)
    (result : FirewallProbeResult) :
    Program.Shows (repliesOf lookup latencyMs) classified
      (probeAddresses timeoutMs addresses result)
      (Platform.Windows.probeAddresses timeoutMs addresses result) := by
  induction addresses generalizing result with
  | nil => rfl
  | cons calls addresses ih =>
      rw [probeAddresses, Platform.Windows.probeAddresses]
      refine shows_next ?_
      rw [repliesOf]
      by_cases hsocket : calls.socket = none
      · rw [if_pos hsocket, if_pos hsocket]
        exact ih result
      rw [if_neg hsocket, if_neg hsocket]
      refine shows_next (Program.shows_ite (ih result) (shows_next ?_))
      change Program.Shows _ _ (match calls.connect with
        | .succeeded => _
        | .failed _ => _) _
      cases calls.connect with
      | succeeded => rfl
      | failed error =>
          refine Program.shows_ite rfl ?_
          refine Program.shows_bind
            (fst_run_awaitAnswer lookup latencyMs calls timeoutMs result) ?_
          rfl

theorem fst_run_probeTCP (host : Str) (port timeoutMs : Int) :
    ((probeTCP host port timeoutMs).run (repliesOf lookup latencyMs)).1 =
      some (Platform.Windows.probeTCP lookup port timeoutMs latencyMs) :=
  fst_run_probeWith (shows_probeAddresses lookup latencyMs timeoutMs) host port

end Windows

/-! ## Every socket is closed and the list is freed -/

section Contract

variable [DecidableEq A] [DecidableEq H] {α : Type}
  {post : α → List (Resource A H) → Prop} {addressList : List A}

def holding (addressList : List A) (left : Option H) : List (Resource A H) :=
  .addresses addressList :: (left.map .socket).toList

/-- The loop gives back every socket but the one it leaves. -/
def Leaves (addressList : List A) (ended : Ended H)
    (held : List (Resource A H)) : Prop :=
  held = holding addressList ended.2

theorem safe_socket {address : A} {rest : Option H → ProbeProgram A H α}
    (hnone : resources.monitor.Safe post (rest none) (holding addressList none))
    (hsome : ∀ socketFd, resources.monitor.Safe post (rest (some socketFd))
      (holding addressList (some socketFd))) :
    resources.monitor.Safe post (socket address >>= rest)
      (holding addressList none) := by
  refine Handles.safe_open rfl rfl fun reply _ => ?_
  cases reply with
  | none => exact hnone
  | some socketFd => exact hsome socketFd

theorem safe_close {socketFd : H} {rest : Unit → ProbeProgram A H α}
    (h : resources.monitor.Safe post (rest ()) (holding addressList none)) :
    resources.monitor.Safe post (close socketFd >>= rest)
      (holding addressList (some socketFd)) := by
  refine Handles.safe_close (fun _ => rfl) rfl rfl
    (List.mem_cons_of_mem _ List.mem_cons_self) fun _ => ?_
  simpa [holding] using h

theorem safe_use {socketFd : H} {c : ProbeCall A H}
    {rest : c.Reply → ProbeProgram A H α}
    (hopened : ∀ reply, resources.opened c reply = none)
    (hused : resources.used c = [.socket socketFd])
    (hclosed : resources.closed c = none)
    (h : ∀ reply, resources.monitor.Safe post (rest reply)
      (holding addressList (some socketFd))) :
    resources.monitor.Safe post (.call c .done >>= rest)
      (holding addressList (some socketFd)) :=
  Handles.safe_use hopened hused hclosed
    (List.mem_cons_of_mem _ List.mem_cons_self) h

theorem Linux.safe_setNonBlocking {socketFd : H}
    {rest : Bool → ProbeProgram A H α}
    (h : ∀ done, resources.monitor.Safe post (rest done)
      (holding addressList (some socketFd))) :
    resources.monitor.Safe post (setNonBlocking socketFd >>= rest)
      (holding addressList (some socketFd)) := by
  have hset : resources.monitor.Safe
      (fun _ held => held = holding addressList (some socketFd))
      (setNonBlocking socketFd) (holding addressList (some socketFd)) := by
    refine safe_use (fun _ => rfl) rfl rfl fun flags => ?_
    split_ifs
    · rfl
    · exact safe_use (fun _ => rfl) rfl rfl fun _ => rfl
  refine hset.bind ?_
  rintro done _ rfl
  exact h done

theorem Linux.safe_probeAddresses (timeoutMs : Int) (addresses : List A)
    (result : FirewallProbeResult) :
    resources.monitor.Safe (Leaves addressList)
      (probeAddresses (H := H) timeoutMs addresses result)
      (holding addressList none) := by
  induction addresses generalizing result with
  | nil => rfl
  | cons address addresses ih =>
      rw [probeAddresses]
      refine safe_socket (ih result) fun socketFd => ?_
      refine Linux.safe_setNonBlocking fun done => ?_
      split_ifs
      · exact safe_close (ih result)
      refine safe_use (fun _ => rfl) rfl rfl fun outcome => ?_
      cases outcome with
      | succeeded => rfl
      | failed error =>
          dsimp only
          split_ifs
          · exact safe_close rfl
          · exact safe_close (ih result)
          refine safe_use (fun _ => rfl) rfl rfl fun selected => ?_
          split_ifs
          · exact safe_close rfl
          · exact safe_close (ih result)
          · exact safe_use (fun _ => rfl) rfl rfl fun _ => safe_close rfl

theorem Windows.safe_awaitAnswer {socketFd : H} (timeoutMs : Int)
    (result : FirewallProbeResult) {rest : FirewallProbeResult →
      ProbeProgram A H α}
    (h : ∀ answered, resources.monitor.Safe post (rest answered)
      (holding addressList (some socketFd))) :
    resources.monitor.Safe post
      (awaitAnswer socketFd timeoutMs result >>= rest)
      (holding addressList (some socketFd)) := by
  have hawait : resources.monitor.Safe
      (fun _ held => held = holding addressList (some socketFd))
      (awaitAnswer socketFd timeoutMs result)
      (holding addressList (some socketFd)) := by
    refine safe_use (fun _ => rfl) rfl rfl fun selected => ?_
    split_ifs
    · rfl
    · rfl
    · exact safe_use (fun _ => rfl) rfl rfl fun _ => rfl
  refine hawait.bind ?_
  rintro answered _ rfl
  exact h answered

theorem Windows.safe_probeAddresses (timeoutMs : Int) (addresses : List A)
    (result : FirewallProbeResult) :
    resources.monitor.Safe (Leaves addressList)
      (probeAddresses (H := H) timeoutMs addresses result)
      (holding addressList none) := by
  induction addresses generalizing result with
  | nil => rfl
  | cons address addresses ih =>
      rw [probeAddresses]
      refine safe_socket (ih result) fun socketFd => ?_
      refine safe_use (fun _ => rfl) rfl rfl fun status => ?_
      split_ifs
      · exact safe_close (ih result)
      refine safe_use (fun _ => rfl) rfl rfl fun outcome => ?_
      cases outcome with
      | succeeded => exact safe_close rfl
      | failed error =>
          dsimp only
          split_ifs
          · exact safe_close rfl
          · exact safe_close rfl
          · exact Windows.safe_awaitAnswer timeoutMs result
              fun _ => safe_close rfl

theorem safe_closeLeft {left : Option H} {rest : Unit → ProbeProgram A H α}
    (h : resources.monitor.Safe post (rest ()) (holding addressList none)) :
    resources.monitor.Safe post (closeLeft left >>= rest)
      (holding addressList left) := by
  cases left with
  | none => exact h
  | some socketFd => exact safe_close h

theorem safe_probeWith
    {loop : List A → FirewallProbeResult → ProbeProgram A H (Ended H)}
    (hloop : ∀ addressList result, resources.monitor.Safe (Leaves addressList)
      (loop addressList result) (holding addressList none))
    (host : Str) (port : Int) :
    resources.monitor.Safe (fun _ held => held = [])
      (probeWith loop host port) [] := by
  unfold probeWith
  dsimp only
  split_ifs
  · rfl
  refine Handles.safe_open rfl rfl fun lookup _ => ?_
  by_cases hlookup : lookup.1 ≠ 0 ∨ lookup.2.isEmpty
  · have hopened : resources.opened (.getaddrinfo (cStr host)
        (printInt port) : ProbeCall A H) lookup = none := if_pos hlookup
    rw [if_pos hlookup, hopened]
    rfl
  have hopened : resources.opened (.getaddrinfo (cStr host)
      (printInt port) : ProbeCall A H) lookup = some (.addresses lookup.2) :=
    if_neg hlookup
  rw [if_neg hlookup, hopened]
  refine (hloop lookup.2 _).bind ?_
  rintro ended _ rfl
  refine safe_closeLeft ?_
  refine Handles.safe_close (fun _ => rfl) rfl rfl List.mem_cons_self
    fun _ => ?_
  refine Handles.safe_plain (fun _ => rfl) rfl rfl fun _ => ?_
  simp [holding]

end Contract

/-- However many addresses the lookup gives and whatever comes of them, the
probe works on open sockets only and leaves neither a socket nor the list
behind. -/
theorem probeTCP_releases [DecidableEq A] [DecidableEq H] (host : Str)
    (port timeoutMs : Int) :
    let handles : Handles (ProbeCall A H) _ _ := resources
    handles.Releases (Linux.probeTCP host port timeoutMs) ∧
      handles.Releases (Windows.probeTCP host port timeoutMs) :=
  ⟨Handles.releases_of_safe (safe_probeWith
      (fun _ _ => Linux.safe_probeAddresses timeoutMs _ _) host port),
    Handles.releases_of_safe (safe_probeWith
      (fun _ _ => Windows.safe_probeAddresses timeoutMs _ _) host port)⟩

end SlipNet.Platform.Probes
