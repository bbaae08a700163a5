import SlipNet.Foundation.Handles
import SlipNet.Network.BannerGrabber
import SlipNet.Platform.TcpSend

/-!
# The calls behind a connection

The two TCP files as programs over the calls of the socket interface, and their
three callers on top of them.  Run on fixed replies, `tcpConnect` returns what
its model returns and closes the same sockets.  Whatever the replies, a caller
works on open sockets only and closes the socket it opened, once, on every way
out.
-/

namespace SlipNet.Platform.Sockets

open SlipNet.Foundation
open SlipNet.Standard
open SlipNet.Network

/-! ## The socket interface -/

/-- `startup` is the first use of Winsock; `send` is told how many bytes it is
offered. -/
inductive SocketCall (H : Type)
  | startup
  | socket
  | inet_pton (host : Str)
  | getfl (socketFd : H)
  | setfl (socketFd : H) (flags : Int32)
  | ioctlsocket (socketFd : H)
  | connect (socketFd : H) (address : UInt32) (port : UInt16)
  | select (socketFd : H) (writeReady : Bool) (timeout : Timeval)
  | getsockopt (socketFd : H)
  | send (socketFd : H) (data : Str) (offered : Int)
  | recv (socketFd : H) (size : Int)
  | close (socketFd : H)

/-- `socket` gives no handle, and `recv` no bytes, when the call fails. -/
abbrev SocketCall.Reply {H : Type} : SocketCall H → Type
  | .startup => Bool
  | .socket => Option H
  | .inet_pton _ => Int × UInt32
  | .getfl _ => Int32
  | .setfl _ _ => Int
  | .ioctlsocket _ => Int
  | .connect _ _ _ => ConnectOutcome
  | .select _ _ _ => Int
  | .getsockopt _ => Int × Int
  | .send _ _ offered => SendReturn offered
  | .recv _ _ => Option Str
  | .close _ => Unit

abbrev SocketProgram (H α : Type) := Program (SocketCall H) SocketCall.Reply α

def sockets {H : Type} (issued : H → Prop) :
    Handles (SocketCall H) SocketCall.Reply H where
  issued := issued
  opened
    | .socket, reply => reply
    | _, _ => none
  used
    | .getfl socketFd => [socketFd]
    | .setfl socketFd _ => [socketFd]
    | .ioctlsocket socketFd => [socketFd]
    | .connect socketFd _ _ => [socketFd]
    | .select socketFd _ _ => [socketFd]
    | .getsockopt socketFd => [socketFd]
    | .send socketFd _ _ => [socketFd]
    | .recv socketFd _ => [socketFd]
    | _ => []
  closed
    | .close socketFd => some socketFd
    | _ => none

/-- What the platform layer offers.  Sending takes as many turns as the first
argument allows. -/
structure TcpApi (H : Type) where
  tcpConnect : Str → Int → Int → SocketProgram H TcpConnection
  tcpSend : Nat → TcpConnection → Str → SocketProgram H Bool
  tcpReceive : TcpConnection → Int → SocketProgram H Str
  tcpClose : TcpConnection → SocketProgram H TcpConnection

section Shared

variable {H : Type}

def startup : SocketProgram H Bool := .call .startup .done

def socket : SocketProgram H (Option H) := .call .socket .done

def inet_pton (host : Str) : SocketProgram H (Int × UInt32) :=
  .call (.inet_pton host) .done

def getfl (socketFd : H) : SocketProgram H Int32 :=
  .call (.getfl socketFd) .done

def setfl (socketFd : H) (flags : Int32) : SocketProgram H Int :=
  .call (.setfl socketFd flags) .done

def ioctlsocket (socketFd : H) : SocketProgram H Int :=
  .call (.ioctlsocket socketFd) .done

def connect (socketFd : H) (address : UInt32) (port : UInt16) :
    SocketProgram H ConnectOutcome :=
  .call (.connect socketFd address port) .done

def select (socketFd : H) (writeReady : Bool) (timeout : Timeval) :
    SocketProgram H Int :=
  .call (.select socketFd writeReady timeout) .done

def getsockopt (socketFd : H) : SocketProgram H (Int × Int) :=
  .call (.getsockopt socketFd) .done

def send (socketFd : H) (data : Str) (offered : Int) :
    SocketProgram H (SendReturn offered) :=
  .call (.send socketFd data offered) .done

def recv (socketFd : H) (size : Int) : SocketProgram H (Option Str) :=
  .call (.recv socketFd size) .done

def close (socketFd : H) : SocketProgram H Unit := .call (.close socketFd) .done

/-! ## The two files -/

def waitForSocket (socketFd : H) (writeReady : Bool) (timeoutMs : Int) :
    SocketProgram H Bool := do
  let result ← select socketFd writeReady (timevalOf timeoutMs)
  return result > 0

def giveUp (socketFd : H) : SocketProgram H TcpConnection := do
  close socketFd
  return {}

def awaitConnection (socketFd : H) (handle timeoutMs : Int) :
    SocketProgram H TcpConnection := do
  if !(← waitForSocket socketFd true timeoutMs) then giveUp socketFd
  else
    let status ← getsockopt socketFd
    if status.1 ≠ 0 ∨ status.2 ≠ 0 then giveUp socketFd
    else return ⟨handle, true⟩

/-- The loop of `tcpSend` over what is left of the data. -/
def sendLoop (rules : SendRules) (socketFd : H) :
    Nat → Str → SocketProgram H Bool
  | 0, _ => .cut
  | fuel + 1, data => do
      if data = [] then return true
      else
        let sent ← send socketFd data (rules.offered data.length)
        if rules.failed sent.1 then return false
        else sendLoop rules socketFd fuel (data.drop sent.1.toNat)

/-- `tcpSend`, with the socket read from the handle. -/
def sendOn (rules : SendRules) (socketOf : Int → H) (fuel : Nat)
    (connection : TcpConnection) (data : Str) : SocketProgram H Bool :=
  if !connection.valid then return false
  else sendLoop rules (socketOf connection.handle) fuel data

def receiveOn (socketOf : Int → H) (connection : TcpConnection)
    (maxBytes : Int) : SocketProgram H Str := do
  if !connection.valid ∨ maxBytes ≤ 0 then return []
  else if !(← waitForSocket (socketOf connection.handle) false 2000) then
    return []
  else
    let received ← recv (socketOf connection.handle) maxBytes
    return received.getD []

def closeOn (socketOf : Int → H) (connection : TcpConnection) :
    SocketProgram H TcpConnection := do
  if connection.valid then
    close (socketOf connection.handle)
    return {}
  else return {}

end Shared

namespace Linux

def tcpConnect (host : Str) (port timeoutMs : Int) :
    SocketProgram Int TcpConnection := do
  match ← socket with
  | none => return {}
  | some socketFd =>
      let parsed ← inet_pton (cStr host)
      if parsed.1 ≠ 1 then giveUp socketFd
      else
        let flags ← getfl socketFd
        if flags < 0 then giveUp socketFd
        else
          let status ← setfl socketFd (flags ||| Platform.Linux.O_NONBLOCK)
          if status < 0 then giveUp socketFd
          else
            match ← connect socketFd parsed.2 (UInt16.ofInt port) with
            | .succeeded => return ⟨socketFd, true⟩
            | .failed _ => awaitConnection socketFd socketFd timeoutMs

def tcp : TcpApi Int where
  tcpConnect := tcpConnect
  tcpSend := sendOn Platform.Linux.sendRules id
  tcpReceive := receiveOn id
  tcpClose := closeOn id

end Linux

namespace Windows

/-- `static_cast<SOCKET>(handle)` -/
def socketOf (handle : Int) : UInt64 := UInt64.ofInt handle

def tcpConnect (host : Str) (port timeoutMs : Int) :
    SocketProgram UInt64 TcpConnection := do
  if !(← startup) then return {}
  else
    match ← socket with
    | none => return {}
    | some socketFd =>
        let parsed ← inet_pton (cStr host)
        if parsed.1 ≠ 1 then giveUp socketFd
        else
          let status ← ioctlsocket socketFd
          if status ≠ 0 then giveUp socketFd
          else
            let handle := Platform.Windows.handleOf socketFd
            match ← connect socketFd parsed.2 (UInt16.ofInt port) with
            | .succeeded => return ⟨handle, true⟩
            | .failed error =>
                if error ≠ Platform.Windows.WSAEWOULDBLOCK ∧
                    error ≠ Platform.Windows.WSAEINPROGRESS ∧
                    error ≠ Platform.Windows.WSAEALREADY then giveUp socketFd
                else awaitConnection socketFd handle timeoutMs

def tcp : TcpApi UInt64 where
  tcpConnect := tcpConnect
  tcpSend := sendOn Platform.Windows.sendRules socketOf
  tcpReceive := receiveOn socketOf
  tcpClose := closeOn socketOf

end Windows

/-! ## The callers -/

namespace TcpApi

variable {H : Type} (api : TcpApi H)

/-- `PortScanner::checkPort` -/
def checkPort (stopRequested : Bool) (host : Str) (port : Int) :
    SocketProgram H Bool := do
  if stopRequested then return false
  else
    let connection ← api.tcpConnect host port 2000
    if !connection.valid then return false
    else
      let _ ← api.tcpClose connection
      return true

def readReply (connection : TcpConnection) : SocketProgram H Str := do
  let response ← api.tcpReceive connection 4096
  let _ ← api.tcpClose connection
  return response

/-- `probe` and `grab` ask the web ports before they read; what `tcpSend`
returns is not looked at. -/
def exchange (asks : Bool) (fuel : Nat) (request : Str)
    (connection : TcpConnection) : SocketProgram H Str := do
  if asks then
    let _ ← api.tcpSend fuel connection request
    api.readReply connection
  else api.readReply connection

/-- `ServiceDetector::probe` -/
def probe (fuel : Nat) (host : Str) (port : Int) : SocketProgram H Str := do
  let connection ← api.tcpConnect host port 2000
  if !connection.valid then return []
  else
    api.exchange (port = 80 ∨ port = 443 ∨ port = 8000 ∨ port = 8080 ∨
      port = 8443 ∨ port = 8888) fuel Services.httpRequest connection

/-- `BannerGrabber::grab` -/
def grab (fuel : Nat) (host : Str) (port : Int) :
    SocketProgram H BannerResult := do
  let result : BannerResult :=
    { host := host, port := port, protocol := protocolOf port }
  let connection ← api.tcpConnect host port 2000
  if !connection.valid then return result
  else
    let banner ← api.exchange (result.protocol = "HTTP".toList) fuel
      (headRequest host) connection
    return { result with
      connected := true
      banner := if banner ≠ [] then clean banner else [] }

end TcpApi

/-! ## Every socket is closed -/

def owned {H : Type} (socketOf : Int → H) (connection : TcpConnection) :
    List H :=
  if connection.valid then [socketOf connection.handle] else []

section Contract

variable {H : Type} [DecidableEq H] {issued : H → Prop}

/-- Connecting opens what the connection holds, sending and receiving leave it
alone, closing gives it back. -/
structure Keeps (api : TcpApi H) (issued : H → Prop) (socketOf : Int → H) :
    Prop where
  connect : ∀ host port timeoutMs, (sockets issued).monitor.Safe
    (fun connection held => held = owned socketOf connection)
    (api.tcpConnect host port timeoutMs) []
  send : ∀ fuel connection data, (sockets issued).monitor.Safe
    (fun _ held => held = owned socketOf connection)
    (api.tcpSend fuel connection data) (owned socketOf connection)
  receive : ∀ connection maxBytes, (sockets issued).monitor.Safe
    (fun _ held => held = owned socketOf connection)
    (api.tcpReceive connection maxBytes) (owned socketOf connection)
  close : ∀ connection, (sockets issued).monitor.Safe (fun _ held => held = [])
    (api.tcpClose connection) (owned socketOf connection)

variable {α : Type} {post : α → List H → Prop} {socketFd : H}

theorem safe_giveUp {socketOf : Int → H} :
    (sockets issued).monitor.Safe
      (fun connection held => held = owned socketOf connection)
      (giveUp socketFd) [socketFd] :=
  Handles.safe_close (fun _ => rfl) rfl rfl List.mem_cons_self fun _ => by
    simp [owned]

theorem safe_waitForSocket (writeReady : Bool) (timeoutMs : Int)
    {rest : Bool → SocketProgram H α}
    (h : ∀ ready, (sockets issued).monitor.Safe post (rest ready) [socketFd]) :
    (sockets issued).monitor.Safe post
      (waitForSocket socketFd writeReady timeoutMs >>= rest) [socketFd] :=
  Handles.safe_use (fun _ => rfl) rfl rfl List.mem_cons_self fun _ => h _

theorem safe_awaitConnection {socketOf : Int → H} {handle : Int}
    (hhandle : socketOf handle = socketFd) (timeoutMs : Int) :
    (sockets issued).monitor.Safe
      (fun connection held => held = owned socketOf connection)
      (awaitConnection socketFd handle timeoutMs) [socketFd] := by
  refine safe_waitForSocket true timeoutMs fun ready => ?_
  cases ready with
  | false => exact safe_giveUp
  | true =>
      refine Handles.safe_use (fun _ => rfl) rfl rfl List.mem_cons_self
        fun status => ?_
      split_ifs
      · exact safe_giveUp
      · simp [owned, hhandle]

theorem safe_sendLoop (rules : SendRules) (fuel : Nat) (data : Str) :
    (sockets issued).monitor.Safe (fun _ held => held = [socketFd])
      (sendLoop rules socketFd fuel data) [socketFd] := by
  induction fuel generalizing data with
  | zero => trivial
  | succ fuel ih =>
      rw [sendLoop]
      split_ifs
      · rfl
      · refine Handles.safe_use (fun _ => rfl) rfl rfl List.mem_cons_self
          fun sent => ?_
        split_ifs
        · rfl
        · exact ih _

theorem safe_sendOn (rules : SendRules) (socketOf : Int → H) (fuel : Nat)
    (connection : TcpConnection) (data : Str) :
    (sockets issued).monitor.Safe
      (fun _ held => held = owned socketOf connection)
      (sendOn rules socketOf fuel connection data)
      (owned socketOf connection) := by
  cases hvalid : connection.valid <;> simp only [sendOn, owned, hvalid]
  · rfl
  · exact safe_sendLoop rules fuel data

theorem safe_receiveOn (socketOf : Int → H) (connection : TcpConnection)
    (maxBytes : Int) :
    (sockets issued).monitor.Safe
      (fun _ held => held = owned socketOf connection)
      (receiveOn socketOf connection maxBytes)
      (owned socketOf connection) := by
  unfold receiveOn
  cases hvalid : connection.valid with
  | false => simp
  | true =>
      have howned : owned socketOf connection =
          [socketOf connection.handle] := by simp [owned, hvalid]
      rw [howned]
      split_ifs
      · rfl
      · refine safe_waitForSocket false 2000 fun ready => ?_
        cases ready with
        | false => rfl
        | true =>
            exact Handles.safe_use (fun _ => rfl) rfl rfl List.mem_cons_self
              fun _ => rfl

theorem safe_closeOn (socketOf : Int → H) (connection : TcpConnection) :
    (sockets issued).monitor.Safe (fun _ held => held = [])
      (closeOn socketOf connection) (owned socketOf connection) := by
  cases hvalid : connection.valid <;> simp only [closeOn, owned, hvalid]
  · rfl
  · exact Handles.safe_close (fun _ => rfl) rfl rfl List.mem_cons_self
      fun _ => by simp

end Contract

theorem Linux.keeps_tcp : Keeps Linux.tcp (fun _ => True) id where
  connect host port timeoutMs := by
    refine Handles.safe_open rfl rfl fun reply _ => ?_
    cases reply with
    | none => rfl
    | some socketFd =>
        refine Handles.safe_plain (fun _ => rfl) rfl rfl fun parsed => ?_
        split_ifs
        · exact safe_giveUp
        refine Handles.safe_use (fun _ => rfl) rfl rfl List.mem_cons_self
          fun flags => ?_
        split_ifs
        · exact safe_giveUp
        refine Handles.safe_use (fun _ => rfl) rfl rfl List.mem_cons_self
          fun status => ?_
        split_ifs
        · exact safe_giveUp
        refine Handles.safe_use (fun _ => rfl) rfl rfl List.mem_cons_self
          fun result => ?_
        cases result with
        | succeeded => rfl
        | failed error => exact safe_awaitConnection rfl timeoutMs
  send := safe_sendOn _ id
  receive := safe_receiveOn id
  close := safe_closeOn id

/-- The handle of a Windows socket tells the socket. -/
def Windows.Survives (socketFd : UInt64) : Prop :=
  socketOf (Platform.Windows.handleOf socketFd) = socketFd

/-- The sign is extended, so the values in the middle do not survive. -/
theorem Windows.survives_iff (socketFd : UInt64) :
    Survives socketFd ↔
      socketFd.toNat < 2 ^ 31 ∨ 2 ^ 64 - 2 ^ 31 ≤ socketFd.toNat := by
  have hlow : socketFd.toUInt32.toNat = socketFd.toNat % 2 ^ 32 :=
    UInt64.toNat_toUInt32 socketFd
  have hbound : socketFd.toNat < 2 ^ 64 := socketFd.toNat_lt
  have hhandle : Platform.Windows.handleOf socketFd =
      if 2 * socketFd.toUInt32.toNat < 2 ^ 32 then
        (socketFd.toUInt32.toNat : Int)
      else (socketFd.toUInt32.toNat : Int) - (2 ^ 32 : Nat) := by
    rw [Platform.Windows.handleOf, Int32.toInt, UInt32.toBitVec_toInt32,
      BitVec.toInt_eq_toNat_cond, UInt32.toNat_toBitVec]
  rw [Survives, socketOf, ← UInt64.toNat_inj, hhandle, UInt64.ofInt,
    UInt64.toNat_ofNat']
  split_ifs <;> omega

theorem Windows.keeps_tcp : Keeps Windows.tcp Survives socketOf where
  connect host port timeoutMs := by
    refine Handles.safe_plain (fun _ => rfl) rfl rfl fun ready => ?_
    cases ready with
    | false => rfl
    | true =>
    refine Handles.safe_open rfl rfl fun reply hissued => ?_
    cases reply with
    | none => rfl
    | some socketFd =>
        have hsurvives : Survives socketFd := (hissued socketFd rfl).1
        refine Handles.safe_plain (fun _ => rfl) rfl rfl fun parsed => ?_
        split_ifs
        · exact safe_giveUp
        refine Handles.safe_use (fun _ => rfl) rfl rfl List.mem_cons_self
          fun status => ?_
        split_ifs
        · exact safe_giveUp
        refine Handles.safe_use (fun _ => rfl) rfl rfl List.mem_cons_self
          fun result => ?_
        cases result with
        | succeeded =>
            change [socketFd] = [socketOf _]
            rw [hsurvives]
        | failed error =>
            dsimp only
            split_ifs
            · exact safe_giveUp
            · exact safe_awaitConnection hsurvives timeoutMs
  send := safe_sendOn _ socketOf
  receive := safe_receiveOn socketOf
  close := safe_closeOn socketOf

/-! ## The callers -/

section Callers

variable {H : Type} [DecidableEq H] {api : TcpApi H} {issued : H → Prop}
  {socketOf : Int → H}

theorem Keeps.safe_checkPort (h : Keeps api issued socketOf)
    (stopRequested : Bool) (host : Str) (port : Int) :
    (sockets issued).monitor.Safe (fun _ held => held = [])
      (api.checkPort stopRequested host port) [] := by
  unfold TcpApi.checkPort
  split_ifs
  · rfl
  refine (h.connect host port 2000).bind ?_
  rintro connection _ rfl
  split_ifs with hvalid
  · simpa [owned] using hvalid
  exact (h.close connection).bind fun _ _ hheld => hheld

theorem Keeps.safe_readReply (h : Keeps api issued socketOf)
    (connection : TcpConnection) :
    (sockets issued).monitor.Safe (fun _ held => held = [])
      (api.readReply connection) (owned socketOf connection) := by
  refine (h.receive connection 4096).bind ?_
  rintro response _ rfl
  exact (h.close connection).bind fun _ _ hheld => hheld

theorem Keeps.safe_exchange (h : Keeps api issued socketOf) (asks : Bool)
    (fuel : Nat) (request : Str) (connection : TcpConnection) :
    (sockets issued).monitor.Safe (fun _ held => held = [])
      (api.exchange asks fuel request connection)
      (owned socketOf connection) := by
  unfold TcpApi.exchange
  split_ifs
  · refine (h.send fuel connection request).bind ?_
    rintro _ _ rfl
    exact h.safe_readReply connection
  · exact h.safe_readReply connection

theorem Keeps.safe_probe (h : Keeps api issued socketOf) (fuel : Nat)
    (host : Str) (port : Int) :
    (sockets issued).monitor.Safe (fun _ held => held = [])
      (api.probe fuel host port) [] := by
  refine (h.connect host port 2000).bind ?_
  rintro connection _ rfl
  split_ifs with hvalid
  · simpa [owned] using hvalid
  · exact h.safe_exchange _ fuel Services.httpRequest connection

theorem Keeps.safe_grab (h : Keeps api issued socketOf) (fuel : Nat)
    (host : Str) (port : Int) :
    (sockets issued).monitor.Safe (fun _ held => held = [])
      (api.grab fuel host port) [] := by
  refine (h.connect host port 2000).bind ?_
  rintro connection _ rfl
  split_ifs with hvalid
  · simpa [owned] using hvalid
  · refine (h.safe_exchange _ fuel (headRequest host) connection).bind ?_
    exact fun _ _ hheld => hheld

end Callers

/-- Checking a port, probing a service and grabbing a banner work on sockets
that are open and leave none open behind them. -/
theorem callers_release (fuel : Nat) (stopRequested : Bool) (host : Str)
    (port : Int) :
    let linux : Handles (SocketCall Int) _ Int := sockets fun _ => True
    let windows := sockets Windows.Survives
    (linux.Releases (Linux.tcp.checkPort stopRequested host port) ∧
      linux.Releases (Linux.tcp.probe fuel host port) ∧
      linux.Releases (Linux.tcp.grab fuel host port)) ∧
    windows.Releases (Windows.tcp.checkPort stopRequested host port) ∧
      windows.Releases (Windows.tcp.probe fuel host port) ∧
      windows.Releases (Windows.tcp.grab fuel host port) := by
  have hlinux := Linux.keeps_tcp
  have hwindows := Windows.keeps_tcp
  refine ⟨⟨?_, ?_, ?_⟩, ?_, ?_, ?_⟩
  · exact Handles.releases_of_safe (hlinux.safe_checkPort stopRequested _ _)
  · exact Handles.releases_of_safe (hlinux.safe_probe fuel host port)
  · exact Handles.releases_of_safe (hlinux.safe_grab fuel host port)
  · exact Handles.releases_of_safe (hwindows.safe_checkPort stopRequested _ _)
  · exact Handles.releases_of_safe (hwindows.safe_probe fuel host port)
  · exact Handles.releases_of_safe (hwindows.safe_grab fuel host port)

/-! ## Fixed replies -/

section Fixed

variable {H : Type} (handleOf : H → Int)

/-- The attempt that a run makes: what it returns, and the handles it closes. -/
def attemptOf
    (ran : Option TcpConnection × Log (SocketCall H) SocketCall.Reply) :
    Option Attempt :=
  ran.1.map fun connection =>
    { connection := connection
      closed := ran.2.filterMap fun entry =>
        ((sockets fun _ => True).closed entry.1).map handleOf }

variable {handleOf} {replies : (c : SocketCall H) → c.Reply}

theorem attemptOf_cons {c : SocketCall H} {reply : c.Reply}
    (hclosed : (sockets fun _ => True).closed c = none)
    (ran : Option TcpConnection × Log (SocketCall H) SocketCall.Reply) :
    attemptOf handleOf (ran.1, ⟨c, reply⟩ :: ran.2) =
      attemptOf handleOf ran := by
  simp [attemptOf, hclosed]

theorem shows_next {c : SocketCall H}
    {rest : c.Reply → SocketProgram H TcpConnection} {attempt : Attempt}
    (hclosed : (sockets fun _ => True).closed c = none)
    (h : Program.Shows replies (attemptOf handleOf) (rest (replies c))
      attempt) :
    Program.Shows replies (attemptOf handleOf) (.call c .done >>= rest)
      attempt :=
  Program.shows_call (attemptOf_cons hclosed) h

theorem shows_giveUp (socketFd : H) :
    Program.Shows replies (attemptOf handleOf) (giveUp socketFd)
      { closed := [handleOf socketFd] } :=
  rfl

end Fixed

theorem refused_admissible (offered : Int) :
    (-1 : Int) = -1 ∨ 0 ≤ (-1 : Int) ∧ -1 ≤ offered :=
  .inl rfl

/-- `send` fails; no attempt to connect gets that far. -/
def refused (offered : Int) : SendReturn offered :=
  ⟨-1, refused_admissible offered⟩

namespace Linux

def repliesOf (sys : Platform.Linux.SystemCalls) :
    (c : SocketCall Int) → c.Reply
  | .startup => true
  | .socket => if sys.socket < 0 then none else some sys.socket
  | .inet_pton host => sys.inet_pton host
  | .getfl _ => sys.getfl
  | .setfl _ flags => sys.setfl flags
  | .ioctlsocket _ => 0
  | .connect _ address port => sys.connect address port
  | .select _ writeReady timeout => sys.select writeReady timeout
  | .getsockopt _ => sys.getsockopt
  | .send _ _ offered => refused offered
  | .recv _ _ => none
  | .close _ => ()

variable (sys : Platform.Linux.SystemCalls)

theorem shows_awaitConnection (socketFd timeoutMs : Int) :
    Program.Shows (repliesOf sys) (attemptOf id)
      (awaitConnection socketFd socketFd timeoutMs)
      (Platform.Linux.awaitConnection sys socketFd timeoutMs) := by
  refine shows_next rfl (Program.shows_ite (shows_giveUp socketFd) ?_)
  refine shows_next rfl (Program.shows_ite (shows_giveUp socketFd) ?_)
  rfl

theorem shows_tcpConnect (host : Str) (port timeoutMs : Int) :
    Program.Shows (repliesOf sys) (attemptOf id)
      (tcpConnect host port timeoutMs)
      (Platform.Linux.tcpConnect sys host port timeoutMs) := by
  refine shows_next rfl ?_
  rw [Platform.Linux.tcpConnect, repliesOf]
  by_cases hsocket : sys.socket < 0
  · rw [if_pos hsocket, if_pos hsocket]
    rfl
  rw [if_neg hsocket, if_neg hsocket]
  refine shows_next rfl (Program.shows_ite (shows_giveUp sys.socket) ?_)
  refine shows_next rfl (Program.shows_ite (shows_giveUp sys.socket) ?_)
  refine shows_next rfl (Program.shows_ite (shows_giveUp sys.socket) ?_)
  refine shows_next rfl ?_
  change Program.Shows (repliesOf sys) (attemptOf id)
    (match sys.connect (sys.inet_pton (cStr host)).2 (UInt16.ofInt port) with
      | .succeeded => .done ⟨sys.socket, true⟩
      | .failed _ => awaitConnection sys.socket sys.socket timeoutMs)
    (match sys.connect (sys.inet_pton (cStr host)).2 (UInt16.ofInt port) with
      | .succeeded => { connection := ⟨sys.socket, true⟩ }
      | .failed _ => Platform.Linux.awaitConnection sys sys.socket timeoutMs)
  cases sys.connect (sys.inet_pton (cStr host)).2 (UInt16.ofInt port) with
  | succeeded => rfl
  | failed error => exact shows_awaitConnection sys sys.socket timeoutMs

end Linux

namespace Windows

def repliesOf (sys : Platform.Windows.SystemCalls) :
    (c : SocketCall UInt64) → c.Reply
  | .startup => sys.initialized
  | .socket => sys.socket
  | .inet_pton host => sys.inet_pton host
  | .getfl _ => 0
  | .setfl _ _ => 0
  | .ioctlsocket _ => sys.ioctlsocket
  | .connect _ address port => sys.connect address port
  | .select _ writeReady timeout => sys.select writeReady timeout
  | .getsockopt _ => sys.getsockopt
  | .send _ _ offered => refused offered
  | .recv _ _ => none
  | .close _ => ()

variable (sys : Platform.Windows.SystemCalls)

theorem shows_tcpConnect (host : Str) (port timeoutMs : Int) :
    Program.Shows (repliesOf sys) (attemptOf Platform.Windows.handleOf)
      (tcpConnect host port timeoutMs)
      (Platform.Windows.tcpConnect sys host port timeoutMs) := by
  refine shows_next rfl (Program.shows_ite rfl ?_)
  refine shows_next rfl ?_
  rw [repliesOf]
  cases sys.socket with
  | none => rfl
  | some socketFd =>
      refine shows_next rfl (Program.shows_ite (shows_giveUp socketFd) ?_)
      refine shows_next rfl (Program.shows_ite (shows_giveUp socketFd) ?_)
      refine shows_next rfl ?_
      change Program.Shows (repliesOf sys) _ (match sys.connect
        (sys.inet_pton (cStr host)).2 (UInt16.ofInt port) with
          | .succeeded => _
          | .failed _ => _) _
      cases sys.connect (sys.inet_pton (cStr host)).2 (UInt16.ofInt port) with
      | succeeded => rfl
      | failed error =>
          refine Program.shows_ite (shows_giveUp socketFd) ?_
          refine shows_next rfl (Program.shows_ite (shows_giveUp socketFd) ?_)
          refine shows_next rfl (Program.shows_ite (shows_giveUp socketFd) ?_)
          rfl

end Windows

end SlipNet.Platform.Sockets
