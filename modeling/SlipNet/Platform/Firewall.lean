import SlipNet.Platform.Tcp

/-!
# The two firewall probes

`probeTCP` tries the resolved addresses of a host one after the other and
classifies the port by the first one that tells.  Both files pass over an
address without a usable socket.  The Linux file also passes over one whose
connect or select failed; the Windows file stops there and leaves the port
unclassified, whatever the remaining addresses would tell.  A connection that
fails while `select` waits is told apart on Linux only: Winsock reports it in
the set of exceptions, which the Windows file does not pass.
-/

namespace SlipNet.Platform

open SlipNet.Standard

inductive FirewallProbeState
  | open
  | closed
  | filtered
  | unknown
  deriving DecidableEq, Repr

structure FirewallProbeResult where
  state : FirewallProbeState := .unknown
  port : Int := 0
  latencyMs : Int := -1
  evidence : Str := []
  deriving DecidableEq, Repr

/-! ## What both files share -/

def refusedEvidence : Str :=
  "Target actively refused the TCP connection.".toList

def silentEvidence : Str :=
  ("Connection attempt timed out without " ++
    "an explicit TCP response.").toList

def failedEvidence : Str :=
  ("TCP connection failed without sufficient " ++
    "evidence for a definitive classification.").toList

/-- The branch for a socket that `select` reported; `refused` is the error code
of a refusal. -/
def classifyError (refused socketError : Int) (result : FirewallProbeResult) :
    FirewallProbeResult :=
  if socketError = 0 then { result with state := .open }
  else if socketError = refused then
    { result with state := .closed, evidence := refusedEvidence }
  else { result with state := .unknown, evidence := failedEvidence }

/-- The end of `probeTCP`, behind the loop. -/
def conclude (latencyMs : Int) (result : FirewallProbeResult) :
    FirewallProbeResult :=
  let timed := { result with latencyMs := latencyMs }
  let opened :=
    if timed.state = .open then
      { timed with
        evidence := "TCP connection established successfully.".toList }
    else timed
  if opened.state = .unknown ∧ opened.evidence = [] then
    { opened with
      evidence := "Insufficient evidence for classification.".toList }
  else opened

/-- `probeTCP` around its loop.  `lookup` is the value of `getaddrinfo` with
the list it stores. -/
def probeWith {Calls : Type}
    (loop : List Calls → FirewallProbeResult → FirewallProbeResult)
    (lookup : Int × List Calls) (port latencyMs : Int) :
    FirewallProbeResult :=
  let result : FirewallProbeResult := { port := port }
  if port < 1 ∨ port > 65535 then
    { result with evidence := "Invalid TCP port.".toList }
  else if lookup.1 ≠ 0 ∨ lookup.2.isEmpty then
    { result with evidence := "Unable to resolve the target address.".toList }
  else conclude latencyMs (loop lookup.2 result)

/-! ## Linux -/

namespace Linux

def ECONNREFUSED : Int := 111

/-- The outcomes of the system calls for one address; `socketError` is what
`getsockopt` stores. -/
structure AddressCalls where
  socket : Int
  getfl : Int32
  setfl : Int32 → Int
  connect : ConnectOutcome
  select : Timeval → Int
  socketError : Int

def setNonBlocking (calls : AddressCalls) : Bool :=
  if calls.getfl < 0 then false
  else calls.setfl (calls.getfl ||| O_NONBLOCK) = 0

def probeAddresses (timeoutMs : Int) :
    List AddressCalls → FirewallProbeResult → FirewallProbeResult
  | [], result => result
  | calls :: addresses, result =>
      if calls.socket < 0 then probeAddresses timeoutMs addresses result
      else if !setNonBlocking calls then
        probeAddresses timeoutMs addresses result
      else
        match calls.connect with
        | .succeeded => { result with state := .open }
        | .failed error =>
            if error ≠ EINPROGRESS then
              if error = ECONNREFUSED then
                { result with state := .closed, evidence := refusedEvidence }
              else probeAddresses timeoutMs addresses result
            else
              let selected := calls.select (timevalOf timeoutMs)
              if selected = 0 then
                { result with state := .filtered, evidence := silentEvidence }
              else if selected < 0 then
                probeAddresses timeoutMs addresses result
              else classifyError ECONNREFUSED calls.socketError result

def probeTCP (lookup : Int × List AddressCalls)
    (port timeoutMs latencyMs : Int) : FirewallProbeResult :=
  probeWith (probeAddresses timeoutMs) lookup port latencyMs

end Linux

/-! ## Windows -/

namespace Windows

def WSAECONNREFUSED : Int := 10061

/-- `socket` is `none` for `INVALID_SOCKET`. -/
structure AddressCalls where
  socket : Option UInt64
  ioctlsocket : Int
  connect : ConnectOutcome
  select : Timeval → Int
  socketError : Int

/-- The loop over the addresses.  It goes on to the next one only without a
non-blocking socket. -/
def probeAddresses (timeoutMs : Int) :
    List AddressCalls → FirewallProbeResult → FirewallProbeResult
  | [], result => result
  | calls :: addresses, result =>
      if calls.socket = none then probeAddresses timeoutMs addresses result
      else if calls.ioctlsocket ≠ 0 then
        probeAddresses timeoutMs addresses result
      else
        match calls.connect with
        | .succeeded => { result with state := .open }
        | .failed error =>
            if error ≠ WSAEWOULDBLOCK ∧ error ≠ WSAEINPROGRESS then
              if error = WSAECONNREFUSED then
                { result with state := .closed, evidence := refusedEvidence }
              else result
            else
              let selected := calls.select (timevalOf timeoutMs)
              if selected = 0 then
                { result with state := .filtered, evidence := silentEvidence }
              else if selected < 0 then
                { result with
                  state := .unknown
                  evidence :=
                    "Unable to determine TCP connection state.".toList }
              else classifyError WSAECONNREFUSED calls.socketError result

def probeTCP (lookup : Int × List AddressCalls)
    (port timeoutMs latencyMs : Int) : FirewallProbeResult :=
  probeWith (probeAddresses timeoutMs) lookup port latencyMs

end Windows

/-! ## The outcomes of an address -/

/-- What becomes of the connection to an address, on either system. -/
inductive AddressOutcome
  | noSocket
  | blocking
  | connected
  | refused
  | failed
  | silent
  | selectFailed
  | connectedLater
  | refusedLater
  | failedLater
  deriving DecidableEq, Repr

namespace Linux

/-- The socket is there and does not block. -/
def AddressCalls.Usable (calls : AddressCalls) : Prop :=
  0 ≤ calls.socket ∧ setNonBlocking calls = true

/-- The connection is in progress when `select` returns this. -/
def AddressCalls.Selects (timeoutMs : Int) (calls : AddressCalls)
    (returns : Int → Prop) : Prop :=
  calls.Usable ∧ calls.connect = .failed EINPROGRESS ∧
    returns (calls.select (timevalOf timeoutMs))

/-- What the calls return for an address with the outcome. -/
def Reports (timeoutMs : Int) (calls : AddressCalls) : AddressOutcome → Prop
  | .noSocket => calls.socket < 0
  | .blocking => 0 ≤ calls.socket ∧ setNonBlocking calls = false
  | .connected => calls.Usable ∧ calls.connect = .succeeded
  | .refused => calls.Usable ∧ calls.connect = .failed ECONNREFUSED
  | .failed => calls.Usable ∧ ∃ error, calls.connect = .failed error ∧
      error ≠ EINPROGRESS ∧ error ≠ ECONNREFUSED
  | .silent => calls.Selects timeoutMs (· = 0)
  | .selectFailed => calls.Selects timeoutMs (· < 0)
  | .connectedLater => calls.Selects timeoutMs (0 < ·) ∧ calls.socketError = 0
  | .refusedLater => calls.Selects timeoutMs (0 < ·) ∧
      calls.socketError = ECONNREFUSED
  | .failedLater => calls.Selects timeoutMs (0 < ·) ∧
      calls.socketError ≠ 0 ∧ calls.socketError ≠ ECONNREFUSED

end Linux

namespace Windows

def AddressCalls.Usable (calls : AddressCalls) : Prop :=
  calls.socket ≠ none ∧ calls.ioctlsocket = 0

def AddressCalls.Selects (timeoutMs : Int) (calls : AddressCalls)
    (returns : Int → Prop) : Prop :=
  calls.Usable ∧
    (calls.connect = .failed WSAEWOULDBLOCK ∨
      calls.connect = .failed WSAEINPROGRESS) ∧
    returns (calls.select (timevalOf timeoutMs))

/-- What the calls return for an address with the outcome.  A connection that
fails later sets an exception only; `select`, asked for writability alone, goes
on waiting until the time is up. -/
def Reports (timeoutMs : Int) (calls : AddressCalls) : AddressOutcome → Prop
  | .noSocket => calls.socket = none
  | .blocking => calls.socket ≠ none ∧ calls.ioctlsocket ≠ 0
  | .connected => calls.Usable ∧ calls.connect = .succeeded
  | .refused => calls.Usable ∧ calls.connect = .failed WSAECONNREFUSED
  | .failed => calls.Usable ∧ ∃ error, calls.connect = .failed error ∧
      error ≠ WSAEWOULDBLOCK ∧ error ≠ WSAEINPROGRESS ∧
      error ≠ WSAECONNREFUSED
  | .silent | .refusedLater | .failedLater => calls.Selects timeoutMs (· = 0)
  | .selectFailed => calls.Selects timeoutMs (· < 0)
  | .connectedLater => calls.Selects timeoutMs (0 < ·) ∧ calls.socketError = 0

end Windows

namespace AddressOutcome

/-- Without a non-blocking socket the address is not tried. -/
def untried : AddressOutcome → Bool
  | .noSocket | .blocking => true
  | _ => false

/-- The attempt broke off without an answer. -/
def brokeOff : AddressOutcome → Bool
  | .failed | .selectFailed => true
  | _ => false

/-- The connection fails while `select` waits. -/
def failsLater : AddressOutcome → Bool
  | .refusedLater | .failedLater => true
  | _ => false

/-- The state the outcome is evidence for on Linux. -/
def state : AddressOutcome → FirewallProbeState
  | .connected | .connectedLater => .open
  | .refused | .refusedLater => .closed
  | .silent => .filtered
  | .noSocket | .blocking | .failed | .selectFailed | .failedLater => .unknown

/-- And on Windows, where a later failure looks like silence. -/
def windowsState (outcome : AddressOutcome) : FirewallProbeState :=
  if outcome.failsLater then .filtered else outcome.state

end AddressOutcome

/-- The state that the first address tells which is not passed over. -/
def stateOf (passes : AddressOutcome → Bool)
    (tells : AddressOutcome → FirewallProbeState) :
    List AddressOutcome → FirewallProbeState
  | [] => .unknown
  | outcome :: outcomes =>
      if passes outcome then stateOf passes tells outcomes else tells outcome

/-! ## The loops in terms of outcomes -/

@[simp] theorem state_conclude (latencyMs : Int)
    (result : FirewallProbeResult) :
    (conclude latencyMs result).state = result.state := by
  unfold conclude
  dsimp only
  split_ifs <;> rfl

section

variable {timeoutMs : Int} {result : FirewallProbeResult}
  {outcome : AddressOutcome}

namespace Linux

variable {calls : AddressCalls} {returns : Int → Prop}

theorem probeAddresses_of_usable (h : calls.Usable)
    (addresses : List AddressCalls) :
    probeAddresses timeoutMs (calls :: addresses) result =
      match calls.connect with
      | .succeeded => { result with state := .open }
      | .failed error =>
          if error ≠ EINPROGRESS then
            if error = ECONNREFUSED then
              { result with state := .closed, evidence := refusedEvidence }
            else probeAddresses timeoutMs addresses result
          else
            let selected := calls.select (timevalOf timeoutMs)
            if selected = 0 then
              { result with state := .filtered, evidence := silentEvidence }
            else if selected < 0 then
              probeAddresses timeoutMs addresses result
            else classifyError ECONNREFUSED calls.socketError result := by
  rw [probeAddresses, if_neg (not_lt.mpr h.1), if_neg (by simp [h.2])]

theorem probeAddresses_of_selects (h : calls.Selects timeoutMs returns)
    (addresses : List AddressCalls) :
    probeAddresses timeoutMs (calls :: addresses) result =
      if calls.select (timevalOf timeoutMs) = 0 then
        { result with state := .filtered, evidence := silentEvidence }
      else if calls.select (timevalOf timeoutMs) < 0 then
        probeAddresses timeoutMs addresses result
      else classifyError ECONNREFUSED calls.socketError result := by
  rw [probeAddresses_of_usable h.1, h.2.1]
  exact if_neg (not_not.mpr rfl)

theorem state_probeAddresses_cons (h : Reports timeoutMs calls outcome)
    (addresses : List AddressCalls) :
    (probeAddresses timeoutMs (calls :: addresses) result).state =
      if outcome.untried || outcome.brokeOff then
        (probeAddresses timeoutMs addresses result).state
      else outcome.state := by
  cases outcome with
  | noSocket =>
      rw [probeAddresses, if_pos (show calls.socket < 0 from h)]
      rfl
  | blocking =>
      rw [probeAddresses, if_neg (not_lt.mpr h.1), if_pos (by simp [h.2])]
      rfl
  | connected => rw [probeAddresses_of_usable h.1, h.2]; rfl
  | refused => rw [probeAddresses_of_usable h.1, h.2]; rfl
  | failed =>
      obtain ⟨husable, error, hconnect, hprogress, hrefused⟩ := h
      rw [probeAddresses_of_usable husable, hconnect]
      dsimp only
      rw [if_pos hprogress, if_neg hrefused]
      rfl
  | silent =>
      have hselects : calls.Selects timeoutMs (· = 0) := h
      rw [probeAddresses_of_selects hselects, if_pos hselects.2.2]
      rfl
  | selectFailed =>
      have hselects : calls.Selects timeoutMs (· < 0) := h
      rw [probeAddresses_of_selects hselects, if_neg (ne_of_lt hselects.2.2),
        if_pos hselects.2.2]
      rfl
  | connectedLater =>
      rw [probeAddresses_of_selects h.1, if_neg (ne_of_gt h.1.2.2),
        if_neg (not_lt_of_gt h.1.2.2), h.2]
      rfl
  | refusedLater =>
      rw [probeAddresses_of_selects h.1, if_neg (ne_of_gt h.1.2.2),
        if_neg (not_lt_of_gt h.1.2.2), h.2]
      rfl
  | failedLater =>
      rw [probeAddresses_of_selects h.1, if_neg (ne_of_gt h.1.2.2),
        if_neg (not_lt_of_gt h.1.2.2), classifyError, if_neg h.2.1,
        if_neg h.2.2]
      rfl

theorem state_probeAddresses (hresult : result.state = .unknown)
    {addresses : List AddressCalls} {outcomes : List AddressOutcome}
    (h : addresses.Forall₂ (Reports timeoutMs) outcomes) :
    (probeAddresses timeoutMs addresses result).state =
      stateOf (fun outcome => outcome.untried || outcome.brokeOff)
        AddressOutcome.state outcomes := by
  induction h with
  | nil => exact hresult
  | cons hreports _ ih => rw [state_probeAddresses_cons hreports, stateOf, ih]

end Linux

namespace Windows

variable {calls : AddressCalls} {returns : Int → Prop}

theorem probeAddresses_of_usable (h : calls.Usable)
    (addresses : List AddressCalls) :
    probeAddresses timeoutMs (calls :: addresses) result =
      match calls.connect with
      | .succeeded => { result with state := .open }
      | .failed error =>
          if error ≠ WSAEWOULDBLOCK ∧ error ≠ WSAEINPROGRESS then
            if error = WSAECONNREFUSED then
              { result with state := .closed, evidence := refusedEvidence }
            else result
          else
            let selected := calls.select (timevalOf timeoutMs)
            if selected = 0 then
              { result with state := .filtered, evidence := silentEvidence }
            else if selected < 0 then
              { result with
                state := .unknown
                evidence :=
                  "Unable to determine TCP connection state.".toList }
            else classifyError WSAECONNREFUSED calls.socketError result := by
  rw [probeAddresses, if_neg h.1, if_neg (not_not.mpr h.2)]

theorem probeAddresses_of_selects (h : calls.Selects timeoutMs returns)
    (addresses : List AddressCalls) :
    probeAddresses timeoutMs (calls :: addresses) result =
      if calls.select (timevalOf timeoutMs) = 0 then
        { result with state := .filtered, evidence := silentEvidence }
      else if calls.select (timevalOf timeoutMs) < 0 then
        { result with
          state := .unknown
          evidence := "Unable to determine TCP connection state.".toList }
      else classifyError WSAECONNREFUSED calls.socketError result := by
  rw [probeAddresses_of_usable h.1]
  rcases h.2.1 with hconnect | hconnect <;> rw [hconnect]
  · exact if_neg fun hnot => hnot.1 rfl
  · exact if_neg fun hnot => hnot.2 rfl

theorem state_probeAddresses_of_silence
    (h : calls.Selects timeoutMs (· = 0)) (addresses : List AddressCalls) :
    (probeAddresses timeoutMs (calls :: addresses) result).state =
      .filtered := by
  rw [probeAddresses_of_selects h, if_pos h.2.2]

theorem state_probeAddresses_cons (hresult : result.state = .unknown)
    (h : Reports timeoutMs calls outcome) (addresses : List AddressCalls) :
    (probeAddresses timeoutMs (calls :: addresses) result).state =
      if outcome.untried then
        (probeAddresses timeoutMs addresses result).state
      else outcome.windowsState := by
  cases outcome with
  | noSocket =>
      rw [probeAddresses, if_pos (show calls.socket = none from h)]
      rfl
  | blocking => rw [probeAddresses, if_neg h.1, if_pos h.2]; rfl
  | connected => rw [probeAddresses_of_usable h.1, h.2]; rfl
  | refused => rw [probeAddresses_of_usable h.1, h.2]; rfl
  | failed =>
      obtain ⟨husable, error, hconnect, hblock, hprogress, hrefused⟩ := h
      rw [probeAddresses_of_usable husable, hconnect]
      dsimp only
      rw [if_pos ⟨hblock, hprogress⟩, if_neg hrefused]
      exact hresult
  | silent => exact state_probeAddresses_of_silence h addresses
  | selectFailed =>
      have hselects : calls.Selects timeoutMs (· < 0) := h
      rw [probeAddresses_of_selects hselects, if_neg (ne_of_lt hselects.2.2),
        if_pos hselects.2.2]
      rfl
  | connectedLater =>
      rw [probeAddresses_of_selects h.1, if_neg (ne_of_gt h.1.2.2),
        if_neg (not_lt_of_gt h.1.2.2), h.2]
      rfl
  | refusedLater => exact state_probeAddresses_of_silence h addresses
  | failedLater => exact state_probeAddresses_of_silence h addresses

theorem state_probeAddresses (hresult : result.state = .unknown)
    {addresses : List AddressCalls} {outcomes : List AddressOutcome}
    (h : addresses.Forall₂ (Reports timeoutMs) outcomes) :
    (probeAddresses timeoutMs addresses result).state =
      stateOf AddressOutcome.untried AddressOutcome.windowsState outcomes := by
  induction h with
  | nil => exact hresult
  | cons hreports _ ih =>
      rw [state_probeAddresses_cons hresult hreports, stateOf, ih]

end Windows

end

/-! ## Where the probes differ -/

/-- Behind addresses that are passed over one tells the state. -/
def Tells (outcomes : List AddressOutcome) : Prop :=
  ∃ between telling after, outcomes = between ++ telling :: after ∧
    (∀ outcome ∈ between, (outcome.untried || outcome.brokeOff) = true) ∧
    telling.state ≠ .unknown

/-- The first address that is tried fails later, or it breaks off and one
behind it tells the state. -/
def Diverges (outcomes : List AddressOutcome) : Prop :=
  ∃ before first rest, outcomes = before ++ first :: rest ∧
    (∀ outcome ∈ before, outcome.untried = true) ∧
    (first.failsLater = true ∨ first.brokeOff = true ∧ Tells rest)

theorem not_untried_of_state {outcome : AddressOutcome}
    (h : outcome.state ≠ .unknown) :
    (outcome.untried || outcome.brokeOff) = false := by
  cases outcome <;> simp_all [AddressOutcome.state, AddressOutcome.untried,
    AddressOutcome.brokeOff]

theorem stateOf_ne_unknown_iff {outcomes : List AddressOutcome} :
    stateOf (fun outcome => outcome.untried || outcome.brokeOff)
        AddressOutcome.state outcomes ≠ .unknown ↔ Tells outcomes := by
  constructor
  · intro h
    induction outcomes with
    | nil => exact absurd rfl h
    | cons outcome outcomes ih =>
        rw [stateOf] at h
        split_ifs at h with hpass
        · obtain ⟨between, telling, after, rfl, hbetween, htelling⟩ := ih h
          exact ⟨outcome :: between, telling, after, rfl,
            List.forall_mem_cons.mpr ⟨hpass, hbetween⟩, htelling⟩
        · exact ⟨[], outcome, outcomes, rfl, by simp, h⟩
  · rintro ⟨between, telling, after, rfl, hbetween, htelling⟩
    induction between with
    | nil =>
        rw [List.nil_append, stateOf, not_untried_of_state htelling]
        exact htelling
    | cons outcome between ih =>
        rw [List.forall_mem_cons] at hbetween
        rw [List.cons_append, stateOf, if_pos hbetween.1]
        exact ih hbetween.2

theorem diverges_cons_of_untried {outcome : AddressOutcome}
    {outcomes : List AddressOutcome} (huntried : outcome.untried = true) :
    Diverges (outcome :: outcomes) ↔ Diverges outcomes := by
  constructor
  · rintro ⟨before, first, rest, houtcomes, hbefore, hfirst⟩
    cases before with
    | nil =>
        obtain ⟨rfl, _⟩ := List.cons.inj houtcomes
        cases outcome <;> simp_all [AddressOutcome.untried,
          AddressOutcome.brokeOff, AddressOutcome.failsLater]
    | cons other before =>
        obtain ⟨_, houtcomes⟩ := List.cons.inj houtcomes
        exact ⟨before, first, rest, houtcomes,
          (List.forall_mem_cons.mp hbefore).2, hfirst⟩
  · rintro ⟨before, first, rest, rfl, hbefore, hfirst⟩
    exact ⟨outcome :: before, first, rest, rfl,
      List.forall_mem_cons.mpr ⟨huntried, hbefore⟩, hfirst⟩

theorem diverges_cons_of_tried {outcome : AddressOutcome}
    {outcomes : List AddressOutcome} (htried : outcome.untried = false) :
    Diverges (outcome :: outcomes) ↔ outcome.failsLater = true ∨
      outcome.brokeOff = true ∧ Tells outcomes := by
  constructor
  · rintro ⟨before, first, rest, houtcomes, hbefore, hfirst⟩
    cases before with
    | nil =>
        obtain ⟨rfl, rfl⟩ := List.cons.inj houtcomes
        exact hfirst
    | cons other before =>
        obtain ⟨rfl, _⟩ := List.cons.inj houtcomes
        rw [(List.forall_mem_cons.mp hbefore).1] at htried
        cases htried
  · exact fun hfirst => ⟨[], outcome, outcomes, rfl, by simp, hfirst⟩

theorem stateOf_eq_iff (outcomes : List AddressOutcome) :
    stateOf (fun outcome => outcome.untried || outcome.brokeOff)
          AddressOutcome.state outcomes =
        stateOf AddressOutcome.untried AddressOutcome.windowsState outcomes ↔
      ¬ Diverges outcomes := by
  induction outcomes with
  | nil => simp [stateOf, Diverges]
  | cons outcome outcomes ih =>
      by_cases huntried : outcome.untried = true
      · rw [diverges_cons_of_untried huntried, ← ih, stateOf, stateOf]
        simp [huntried]
      rw [Bool.not_eq_true] at huntried
      rw [diverges_cons_of_tried huntried, ← stateOf_ne_unknown_iff, stateOf,
        stateOf, huntried, AddressOutcome.windowsState]
      -- Linux goes on behind a failure at which Windows is left unclassified
      cases outcome <;> simp [AddressOutcome.brokeOff, AddressOutcome.state,
        AddressOutcome.failsLater]

/-- For every list of outcomes, with calls that report them on either system,
the two probes classify the port alike exactly if the outcomes do not
diverge. -/
theorem probeTCP_agree_iff {timeoutMs : Int} {outcomes : List AddressOutcome}
    {linux : List Linux.AddressCalls} {windows : List Windows.AddressCalls}
    (hlinux : linux.Forall₂ (Linux.Reports timeoutMs) outcomes)
    (hwindows : windows.Forall₂ (Windows.Reports timeoutMs) outcomes)
    (port latencyMs latencyMs' : Int) :
    (Linux.probeTCP (0, linux) port timeoutMs latencyMs).state =
        (Windows.probeTCP (0, windows) port timeoutMs latencyMs').state ↔
      ¬ (1 ≤ port ∧ port ≤ 65535 ∧ Diverges outcomes) := by
  unfold Linux.probeTCP Windows.probeTCP probeWith
  dsimp only
  by_cases hport : port < 1 ∨ port > 65535
  · rw [if_pos hport, if_pos hport]
    exact iff_of_true rfl (by omega)
  have hvalid : 1 ≤ port ∧ port ≤ 65535 := by omega
  rw [if_neg hport, if_neg hport]
  cases outcomes with
  | nil =>
      cases hlinux
      cases hwindows
      simp [Diverges]
  | cons outcome outcomes =>
      have hcalls : ∀ {calls : List Linux.AddressCalls}, calls.Forall₂
          (Linux.Reports timeoutMs) (outcome :: outcomes) →
          calls.isEmpty = false := by
        rintro _ (_ | _)
        rfl
      have hcalls' : ∀ {calls : List Windows.AddressCalls}, calls.Forall₂
          (Windows.Reports timeoutMs) (outcome :: outcomes) →
          calls.isEmpty = false := by
        rintro _ (_ | _)
        rfl
      simp only [hcalls hlinux, hcalls' hwindows, ne_eq, not_true,
        Bool.false_eq_true, or_self, if_false, state_conclude]
      rw [Linux.state_probeAddresses rfl hlinux,
        Windows.state_probeAddresses rfl hwindows, stateOf_eq_iff]
      simp [hvalid]

/-! ## Two addresses -/

def Linux.immediate (connect : ConnectOutcome) : AddressCalls where
  socket := 3
  getfl := 2
  setfl := fun _ => 0
  connect := connect
  select := fun _ => 0
  socketError := 0

def Windows.immediate (connect : ConnectOutcome) : AddressCalls where
  socket := some 0x120
  ioctlsocket := 0
  connect := connect
  select := fun _ => 0
  socketError := 0

theorem Linux.usable_immediate (connect : ConnectOutcome) :
    (immediate connect).Usable :=
  ⟨show (0 : Int) ≤ 3 by decide, rfl⟩

theorem Windows.usable_immediate (connect : ConnectOutcome) :
    (immediate connect).Usable :=
  ⟨nofun, rfl⟩

theorem probeTCP_agree_secondSocket :
    (Linux.probeTCP (0, [{ Linux.immediate .succeeded with socket := -1 },
        Linux.immediate .succeeded]) 80 1500 3).state =
      (Windows.probeTCP
        (0, [{ Windows.immediate .succeeded with socket := none },
          Windows.immediate .succeeded]) 80 1500 4).state := by
  have hlinux : [{ Linux.immediate .succeeded with socket := -1 },
      Linux.immediate .succeeded].Forall₂ (Linux.Reports 1500)
        [.noSocket, .connected] := by
    refine .cons ?_ (.cons ⟨Linux.usable_immediate _, rfl⟩ .nil)
    change (-1 : Int) < 0
    decide
  have hwindows : [{ Windows.immediate .succeeded with socket := none },
      Windows.immediate .succeeded].Forall₂ (Windows.Reports 1500)
        [.noSocket, .connected] :=
    .cons (Eq.refl (none : Option UInt64))
      (.cons ⟨Windows.usable_immediate _, rfl⟩ .nil)
  refine (probeTCP_agree_iff hlinux hwindows 80 3 4).mpr ?_
  rintro ⟨_, _, hdiverges⟩
  exact absurd hdiverges ((stateOf_eq_iff _).mp (by decide))

/-- The first address is unreachable at once (`ENETUNREACH`), the second one
accepts. -/
theorem not_probeTCP_agree_unreachable :
    let linux := [Linux.immediate (.failed 101), Linux.immediate .succeeded]
    let windows :=
      [Windows.immediate (.failed 10051), Windows.immediate .succeeded]
    linux.Forall₂ (Linux.Reports 1500) [.failed, .connected] ∧
      windows.Forall₂ (Windows.Reports 1500) [.failed, .connected] ∧
      (Linux.probeTCP (0, linux) 80 1500 3).state = .open ∧
      (Windows.probeTCP (0, windows) 80 1500 3).state = .unknown := by
  have hlinux := Linux.usable_immediate
  have hwindows := Windows.usable_immediate
  exact ⟨.cons ⟨hlinux _, 101, rfl, by decide⟩ (.cons ⟨hlinux _, rfl⟩ .nil),
    .cons ⟨hwindows _, 10051, rfl, by decide⟩
      (.cons ⟨hwindows _, rfl⟩ .nil), by decide⟩

end SlipNet.Platform
