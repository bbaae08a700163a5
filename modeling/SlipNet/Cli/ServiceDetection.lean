import SlipNet.Cli.CommandHandler
import SlipNet.Standard.Searching

/-!
# Detected services and connections

The probe answers a failed connection with an empty response, the answer of a
silent server.  The classification names a service without a response on the
ports of DNS and PostgreSQL, so there a failed connection becomes a detected
service.  The network may change from one attempt to the next.
-/

namespace SlipNet.Cli

open SlipNet.Standard
open SlipNet.Core
open SlipNet.Services

/-- One turn of the loop over the ports: what its `tcpConnect` met, and what
was made of it. -/
structure Attempt where
  peer : Peer
  service : Service

def attempts (network : Nat → Str → Int → Peer) (host : Str)
    (ports : List Int) : List Attempt :=
  ports.mapIdx fun turn port =>
    ⟨network turn host port, detect (network turn) host port⟩

def reported (network : Nat → Str → Int → Peer) (host : Str)
    (ports : List Int) : List Attempt :=
  (attempts network host ports).filter fun attempt => attempt.service.detected

def detectInTurn (network : Nat → Str → Int → Peer) (host : Str)
    (ports : List Int) : List Service :=
  (reported network host ports).map Attempt.service

theorem detectAll_eq_detectInTurn (network : Str → Int → Peer) (host : Str)
    (ports : List Int) :
    detectAll network host ports =
      detectInTurn (fun _ => network) host ports := by
  have hattempts : attempts (fun _ => network) host ports =
      ports.map fun port => ⟨network host port, detect network host port⟩ :=
    List.mapIdx_eq_iff.mpr fun turn => by simp
  rw [detectInTurn, reported, hattempts, List.filter_map, List.map_map,
    detectAll, List.filter_map]
  rfl

/-- A service is reported, and stored by `handleServiceDetect`, only for a port
on which the connection succeeded. -/
structure DetectsConnected (network : Nat → Str → Int → Peer) (host : Str)
    (ports : List Int) : Prop where
  connected : ∀ attempt ∈ reported network host ports,
    attempt.peer.accepts = true
  stored : ∀ (state : NetworkState), ∀ record ∈
    (storeServices host (detectInTurn network host ports) state).getServices,
      record ∈ state.getServices ∨ ∃ attempt ∈ attempts network host ports,
        attempt.peer.accepts = true ∧ attempt.service.detected = true ∧
          record = detectedInfo host attempt.service

/-! ## The empty response -/

/-- Without a response only the ports of PostgreSQL and DNS tell. -/
theorem detected_identify_nil (port : Int) :
    (identify port []).detected = true ↔ port = 53 ∨ port = 5432 := by
  have hother : identify port [] =
      identifyOther port [] (unidentified port []) := by
    simp [identify, looksLikeFtp]
  rw [hother, identifyOther, identifyByPort]
  by_cases hpostgres : port = 5432
  · subst hpostgres
    decide
  · by_cases hdns : port = 53
    · subst hdns
      decide
    · simp [unidentified, hpostgres, hdns]

theorem detected_of_refused {network : Str → Int → Peer} {host : Str}
    {port : Int} (h : (network host port).accepts = false) :
    (detect network host port).detected = true ↔ port = 53 ∨ port = 5432 := by
  have hprobe : probe network host port = [] := by
    simp [probe, h]
  rw [detect, hprobe]
  split_ifs with hrange
  · refine iff_of_false (by decide) ?_
    omega
  · exact detected_identify_nil port

/-! ## The whole list -/

variable {network : Nat → Str → Int → Peer} {host : Str} {ports : List Int}

theorem mem_attempts {attempt : Attempt} :
    attempt ∈ attempts network host ports ↔
      ∃ turn port, ports[turn]? = some port ∧ attempt =
        ⟨network turn host port, detect (network turn) host port⟩ := by
  rw [attempts, List.mem_mapIdx]
  constructor
  · rintro ⟨turn, hturn, rfl⟩
    exact ⟨turn, ports[turn], List.getElem?_eq_getElem hturn, rfl⟩
  · rintro ⟨turn, port, hport, rfl⟩
    obtain ⟨hturn, rfl⟩ := List.getElem?_eq_some_iff.mp hport
    exact ⟨turn, hturn, rfl⟩

theorem detectsConnected_of_connected
    (h : ∀ attempt ∈ reported network host ports,
      attempt.peer.accepts = true) :
    DetectsConnected network host ports where
  connected := h
  stored := by
    intro state record hrecord
    rcases mem_getServices_storeServices hrecord with
      hold | ⟨service, hservice, rfl⟩
    · exact .inl hold
    · obtain ⟨attempt, hattempt, rfl⟩ := List.mem_map.mp hservice
      obtain ⟨hmem, hdetected⟩ := List.mem_filter.mp hattempt
      exact .inr ⟨attempt, hmem, h attempt hattempt, hdetected, rfl⟩

/-- Detection is sound exactly if no connection to the port of DNS or of
PostgreSQL fails. -/
theorem detectsConnected_iff (network : Nat → Str → Int → Peer) (host : Str)
    (ports : List Int) :
    DetectsConnected network host ports ↔
      ∀ turn port, ports[turn]? = some port → port = 53 ∨ port = 5432 →
        (network turn host port).accepts = true := by
  constructor
  · intro h turn port hport hsilent
    by_contra hrefused
    have hdetected :=
      (detected_of_refused (eq_false_of_ne_true hrefused)).mpr hsilent
    exact hrefused (h.connected _ (List.mem_filter.mpr
      ⟨mem_attempts.mpr ⟨turn, port, hport, rfl⟩, hdetected⟩))
  · intro h
    refine detectsConnected_of_connected fun attempt hattempt => ?_
    obtain ⟨hmem, hdetected⟩ := List.mem_filter.mp hattempt
    obtain ⟨turn, port, hport, rfl⟩ := mem_attempts.mp hmem
    by_contra hrefused
    have hsilent := (detected_of_refused (eq_false_of_ne_true hrefused)).mp
      hdetected
    exact hrefused (h turn port hport hsilent)

def nothingListens : Nat → Str → Int → Peer := fun _ _ _ => ⟨false, fun _ => []⟩

/-- Nothing listens, and a DNS server is detected and stored. -/
theorem not_detectsConnected_refusing :
    (storeServices "10.0.0.5".toList
        (detectInTurn nothingListens "10.0.0.5".toList [53]) {}).getServices =
      [{ ip := "10.0.0.5".toList, port := 53, protocol := "TCP".toList,
         service := "DNS".toList, version := [] }] ∧
    ¬ DetectsConnected nothingListens "10.0.0.5".toList [53] := by
  refine ⟨by decide, fun h => ?_⟩
  have hall : ∀ attempt ∈ reported nothingListens "10.0.0.5".toList [53],
      attempt.peer.accepts = true := h.connected
  revert hall
  decide

end SlipNet.Cli
