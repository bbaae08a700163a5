import SlipNet.Service.ServiceDetector

/-!
# Connecting without blocking

`tcpConnect` opens a socket, makes it non-blocking, starts to connect and waits
until the socket is writable.  The results of the system calls are a parameter.
The Windows file gives up when the connect failed for any other reason than
being in progress; the Linux file does not look at `errno`, so it counts a
connect that failed at once as established whenever the socket is reported
writable with no pending error.
-/

namespace SlipNet.Platform

open SlipNet.Standard

structure TcpConnection where
  handle : Int := -1
  valid : Bool := false
  deriving DecidableEq, Repr

/-- What `tcpConnect` returns, and the sockets it closed on its way. -/
structure Attempt where
  connection : TcpConnection := {}
  closed : List Int := []
  deriving DecidableEq, Repr

/-- The value of `connect`, with the error code of a failure. -/
inductive ConnectOutcome
  | succeeded
  | failed (error : Int)
  deriving DecidableEq, Repr

structure Timeval where
  tv_sec : Int
  tv_usec : Int
  deriving DecidableEq, Repr

def timevalOf (timeoutMs : Int) : Timeval where
  tv_sec := timeoutMs.tdiv 1000
  tv_usec := timeoutMs.tmod 1000 * 1000

namespace Linux

def EINPROGRESS : Int := 115

def O_NONBLOCK : Int32 := 0o4000

/-- One outcome for each system call.  `inet_pton` gives its value and the
address it stores, `getsockopt` its value and the `SO_ERROR` it stores;
`select` is asked for writing or for reading. -/
structure SystemCalls where
  socket : Int
  inet_pton : Str → Int × UInt32
  getfl : Int32
  setfl : Int32 → Int
  connect : UInt32 → UInt16 → ConnectOutcome
  select : Bool → Timeval → Int
  getsockopt : Int × Int

def waitForSocket (sys : SystemCalls) (writeReady : Bool) (timeoutMs : Int) :
    Bool :=
  sys.select writeReady (timevalOf timeoutMs) > 0

/-- The branch for `result < 0`; it is taken for every error code. -/
def awaitConnection (sys : SystemCalls) (socketFd timeoutMs : Int) : Attempt :=
  if !waitForSocket sys true timeoutMs then { closed := [socketFd] }
  else if sys.getsockopt.1 ≠ 0 ∨ sys.getsockopt.2 ≠ 0 then
    { closed := [socketFd] }
  else { connection := ⟨socketFd, true⟩ }

def tcpConnect (sys : SystemCalls) (host : Str) (port timeoutMs : Int) :
    Attempt :=
  let socketFd := sys.socket
  let parsed := sys.inet_pton (cStr host)
  if socketFd < 0 then {}
  else if parsed.1 ≠ 1 then { closed := [socketFd] }
  else if sys.getfl < 0 then { closed := [socketFd] }
  else if sys.setfl (sys.getfl ||| O_NONBLOCK) < 0 then
    { closed := [socketFd] }
  else
    match sys.connect parsed.2 (UInt16.ofInt port) with
    | .succeeded => { connection := ⟨socketFd, true⟩ }
    | .failed _ => awaitConnection sys socketFd timeoutMs

end Linux

namespace Windows

def WSAEWOULDBLOCK : Int := 10035

def WSAEINPROGRESS : Int := 10036

def WSAEALREADY : Int := 10037

/-- `socket` is `none` for `INVALID_SOCKET`. -/
structure SystemCalls where
  initialized : Bool
  socket : Option UInt64
  inet_pton : Str → Int × UInt32
  ioctlsocket : Int
  connect : UInt32 → UInt16 → ConnectOutcome
  select : Bool → Timeval → Int
  getsockopt : Int × Int

def waitForSocket (sys : SystemCalls) (writeReady : Bool) (timeoutMs : Int) :
    Bool :=
  sys.select writeReady (timevalOf timeoutMs) > 0

/-- `static_cast<int>(socketFd)` -/
def handleOf (socketFd : UInt64) : Int := socketFd.toUInt32.toInt32.toInt

/-- The branch for `result == SOCKET_ERROR`. -/
def awaitConnection (sys : SystemCalls) (socketFd error timeoutMs : Int) :
    Attempt :=
  if error ≠ WSAEWOULDBLOCK ∧ error ≠ WSAEINPROGRESS ∧ error ≠ WSAEALREADY then
    { closed := [socketFd] }
  else if !waitForSocket sys true timeoutMs then { closed := [socketFd] }
  else if sys.getsockopt.1 ≠ 0 ∨ sys.getsockopt.2 ≠ 0 then
    { closed := [socketFd] }
  else { connection := ⟨socketFd, true⟩ }

def tcpConnect (sys : SystemCalls) (host : Str) (port timeoutMs : Int) :
    Attempt :=
  let parsed := sys.inet_pton (cStr host)
  if !sys.initialized then {}
  else
    match sys.socket with
    | none => {}
    | some socket =>
        let socketFd := handleOf socket
        if parsed.1 ≠ 1 then { closed := [socketFd] }
        else if sys.ioctlsocket ≠ 0 then { closed := [socketFd] }
        else
          match sys.connect parsed.2 (UInt16.ofInt port) with
          | .succeeded => { connection := ⟨socketFd, true⟩ }
          | .failed error => awaitConnection sys socketFd error timeoutMs

end Windows

/-! ## Valid connections -/

section Linux

open Linux

variable (sys : Linux.SystemCalls) (host : Str) (port timeoutMs : Int)

def Linux.SystemCalls.connected : ConnectOutcome :=
  sys.connect (sys.inet_pton (cStr host)).2 (UInt16.ofInt port)

def Linux.SystemCalls.ready : Prop :=
  0 ≤ sys.socket ∧ (sys.inet_pton (cStr host)).1 = 1 ∧ 0 ≤ sys.getfl ∧
    0 ≤ sys.setfl (sys.getfl ||| O_NONBLOCK)

def Linux.SystemCalls.writable : Prop :=
  0 < sys.select true (timevalOf timeoutMs) ∧ sys.getsockopt = (0, 0)

/-- The connection was established at once, or after being in progress. -/
def Linux.SystemCalls.established : Prop :=
  sys.connected host port = .succeeded ∨
    sys.connected host port = .failed EINPROGRESS ∧ sys.writable timeoutMs

/-- The connect failed at once, yet the socket is reported writable with no
pending error. -/
def Linux.SystemCalls.failedSilently : Prop :=
  sys.ready host ∧ sys.writable timeoutMs ∧
    ∃ error, error ≠ EINPROGRESS ∧ sys.connected host port = .failed error

theorem Linux.valid_awaitConnection_iff (socketFd : Int) :
    (awaitConnection sys socketFd timeoutMs).connection.valid = true ↔
      sys.writable timeoutMs := by
  unfold awaitConnection waitForSocket SystemCalls.writable
  split_ifs with hselect hstatus
  · simp_all
  · simp [Prod.ext_iff] at hstatus ⊢
    omega
  · simp_all [Prod.ext_iff]

theorem Linux.valid_tcpConnect_iff :
    (tcpConnect sys host port timeoutMs).connection.valid = true ↔
      sys.ready host ∧ (sys.connected host port = .succeeded ∨
        (∃ error, sys.connected host port = .failed error) ∧
          sys.writable timeoutMs) := by
  unfold tcpConnect SystemCalls.ready SystemCalls.connected
  by_cases hsocket : sys.socket < 0
  · simp [hsocket]
  by_cases hparsed : (sys.inet_pton (cStr host)).1 = 1
  · by_cases hgetfl : sys.getfl < 0
    · simp [hsocket, hparsed, hgetfl]
    by_cases hsetfl : sys.setfl (sys.getfl ||| O_NONBLOCK) < 0
    · simp [hsocket, hparsed, hgetfl, hsetfl]
    simp only [hsocket, hparsed, hgetfl, hsetfl, ne_eq, not_true, if_false]
    rw [not_lt] at hsocket hsetfl
    cases sys.connect (sys.inet_pton (cStr host)).2 (UInt16.ofInt port) with
    | succeeded => simp [hsocket, hsetfl, Int32.not_lt.mp hgetfl]
    | failed error =>
        simp [hsocket, hsetfl, Int32.not_lt.mp hgetfl,
          Linux.valid_awaitConnection_iff]
  · simp [hsocket, hparsed]

/-- A failed attempt closes the socket it opened, a successful one keeps it. -/
theorem Linux.closed_tcpConnect :
    let attempt := tcpConnect sys host port timeoutMs
    attempt.closed =
      if 0 ≤ sys.socket ∧ attempt.connection.valid = false then [sys.socket]
      else [] := by
  unfold tcpConnect awaitConnection
  by_cases hsocket : sys.socket < 0
  · simp [hsocket]
  · rw [not_lt] at hsocket
    simp only [not_lt.mpr hsocket, if_false, hsocket, true_and]
    repeat' split
    all_goals simp_all

end Linux

section Windows

open Windows

variable (sys : Windows.SystemCalls) (host : Str) (port timeoutMs : Int)

def Windows.SystemCalls.connected : ConnectOutcome :=
  sys.connect (sys.inet_pton (cStr host)).2 (UInt16.ofInt port)

def Windows.SystemCalls.established : Prop :=
  sys.connected host port = .succeeded ∨
    (∃ error ∈ [WSAEWOULDBLOCK, WSAEINPROGRESS, WSAEALREADY],
      sys.connected host port = .failed error) ∧
    0 < sys.select true (timevalOf timeoutMs) ∧ sys.getsockopt = (0, 0)

theorem Windows.established_of_valid_awaitConnection {socketFd error : Int}
    (herror : sys.connected host port = .failed error)
    (h : (awaitConnection sys socketFd error timeoutMs).connection.valid =
      true) : sys.established host port timeoutMs := by
  unfold awaitConnection waitForSocket at h
  split_ifs at h with hprogress hselect hstatus
  refine .inr ⟨⟨error, ?_, herror⟩, by simpa using hselect, ?_⟩
  · simp only [List.mem_cons, List.not_mem_nil, or_false]
    tauto
  · simpa [Prod.ext_iff] using hstatus

theorem Windows.established_of_valid
    (h : (tcpConnect sys host port timeoutMs).connection.valid = true) :
    sys.established host port timeoutMs := by
  unfold tcpConnect at h
  dsimp only at h
  split at h
  · cases h
  · split at h
    · cases h
    · next socket hsocket =>
        split at h
        · cases h
        · split at h
          · cases h
          · split at h
            · next hconnect => exact .inl hconnect
            · next error hconnect =>
                exact established_of_valid_awaitConnection sys host port
                  timeoutMs hconnect h

end Windows

/-! ## Open ports -/

/-- `checkPort` on the Linux `tcpConnect`. -/
def checkPort (stopRequested : Bool) (sys : Linux.SystemCalls) (host : Str)
    (port : Int) : Bool :=
  if stopRequested then false
  else (Linux.tcpConnect sys host port 2000).connection.valid

/-- The other end as the service detector meets it on Linux. -/
def peerOf (sys : Linux.SystemCalls) (answer : Str → Str) (host : Str)
    (port : Int) : Services.Peer where
  accepts := (Linux.tcpConnect sys host port 2000).connection.valid
  answer := answer

/-- Neither caller takes a port for open without an established connection. -/
structure CountsEstablishedOnly (sys : Linux.SystemCalls) (host : Str)
    (port : Int) : Prop where
  scanner : ∀ stopRequested, checkPort stopRequested sys host port = true →
    sys.established host port 2000
  detector : ∀ answer, Services.probe (peerOf sys answer) host port ≠ [] →
    sys.established host port 2000

theorem established_of_valid_iff (sys : Linux.SystemCalls) (host : Str)
    (port timeoutMs : Int) :
    ((Linux.tcpConnect sys host port timeoutMs).connection.valid = true →
        sys.established host port timeoutMs) ↔
      ¬ sys.failedSilently host port timeoutMs := by
  rw [Linux.valid_tcpConnect_iff]
  constructor
  · rintro h ⟨hready, hwritable, error, hne, herror⟩
    rcases h ⟨hready, .inr ⟨⟨error, herror⟩, hwritable⟩⟩ with hok | ⟨hprog, _⟩
    · rw [herror] at hok
      cases hok
    · rw [herror] at hprog
      exact hne (ConnectOutcome.failed.inj hprog)
  · rintro hsilent ⟨hready, hok | ⟨⟨error, herror⟩, hwritable⟩⟩
    · exact .inl hok
    · refine .inr ⟨?_, hwritable⟩
      by_contra hne
      exact hsilent ⟨hready, hwritable, error,
        fun h => hne (h ▸ herror), herror⟩

theorem valid_of_probe_ne_nil {sys : Linux.SystemCalls} {answer : Str → Str}
    {host : Str} {port : Int}
    (h : Services.probe (peerOf sys answer) host port ≠ []) :
    (Linux.tcpConnect sys host port 2000).connection.valid = true := by
  by_contra hvalid
  exact h (by simp [Services.probe, peerOf, hvalid])

theorem countsEstablishedOnly_iff (sys : Linux.SystemCalls) (host : Str)
    (port : Int) : CountsEstablishedOnly sys host port ↔
      ¬ sys.failedSilently host port 2000 := by
  rw [← established_of_valid_iff]
  constructor
  · exact fun h hvalid => h.scanner false hvalid
  · intro h
    refine ⟨fun stopRequested hopen => ?_, fun answer hprobe =>
      h (valid_of_probe_ne_nil hprobe)⟩
    cases stopRequested with
    | true => cases hopen
    | false => exact h hopen

/-- On Linux a valid connection is an established one exactly if the connect
did not fail at once on a socket that is then reported writable without error;
on Windows it always is. -/
theorem tcpConnect_established_iff (linux : Linux.SystemCalls)
    (windows : Windows.SystemCalls) (host : Str) (port timeoutMs : Int) :
    (((Linux.tcpConnect linux host port timeoutMs).connection.valid = true →
        linux.established host port timeoutMs) ↔
      ¬ linux.failedSilently host port timeoutMs) ∧
    (CountsEstablishedOnly linux host port ↔
      ¬ linux.failedSilently host port 2000) ∧
    ((Windows.tcpConnect windows host port timeoutMs).connection.valid = true →
      windows.established host port timeoutMs) :=
  ⟨established_of_valid_iff linux host port timeoutMs,
    countsEstablishedOnly_iff linux host port,
    Windows.established_of_valid windows host port timeoutMs⟩

/-- Connecting without a route: `connect` fails with `ENETUNREACH`, the closed
socket counts as writable and carries no pending error. -/
def noRoute : Linux.SystemCalls where
  socket := 3
  inet_pton _ := (1, 0x0a000005)
  getfl := 2
  setfl _ := 0
  connect _ _ := .failed 101
  select _ _ := 1
  getsockopt := (0, 0)

theorem tcpConnect_noRoute :
    (Linux.tcpConnect noRoute "10.0.0.5".toList 80 2000).connection.valid =
        true ∧
      ¬ noRoute.established "10.0.0.5".toList 80 2000 ∧
      ¬ CountsEstablishedOnly noRoute "10.0.0.5".toList 80 := by
  have hsilent : noRoute.failedSilently "10.0.0.5".toList 80 2000 :=
    ⟨⟨by decide, rfl, by decide, by decide⟩, ⟨by decide, rfl⟩,
      101, by decide, rfl⟩
  refine ⟨rfl, ?_, fun h => (countsEstablishedOnly_iff _ _ _).mp h hsilent⟩
  rintro (h | ⟨h, _⟩) <;> cases h

end SlipNet.Platform
