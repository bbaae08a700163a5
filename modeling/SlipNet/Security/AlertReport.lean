import SlipNet.Security.SecurityDetector

/-!
# The alert report

Every check offers a list of alerts to the accumulator, and that list is a
function of the open port numbers and of the services of the host.  An alert's
type fixes its severity, so dropping a repeated type and description drops
nothing else, and the reported set depends on these two multisets only.
-/

namespace SlipNet.Security.SecurityDetector

open SlipNet.Foundation
open SlipNet.Standard
open SlipNet.Core

def openNumbers (ports : List PortInfo) : List Int :=
  (ports.filter isOpen).map PortInfo.port

def servicesOf (ip : Str) (services : List ServiceInfo) : List ServiceInfo :=
  services.filter fun service => service.ip = ip

def alertKey (alert : Alert) : Str × Str := (alert.type, alert.description)

/-- `a` may stand before `b`. -/
def Precedes (a b : Alert) : Prop :=
  b.severity < a.severity ∨ a.severity = b.severity ∧ a.type ≤ b.type

def catalog : List (Str × Int) :=
  (legacyProtocols ++ exposedDatabases ++ remoteAdministration ++
    managementServices ++ cleartextServices ++ highRiskServices).map
      (fun rule => (rule.type, rule.severity)) ++
  [("SMB_EXPOSED".toList, 3), ("NETBIOS_EXPOSED".toList, 2),
    ("LEGACY_SERVICE_DETECTED".toList, 3),
    ("SERVICE_STATE_MISMATCH".toList, 1),
    ("VERY_LARGE_ATTACK_SURFACE".toList, 3),
    ("LARGE_ATTACK_SURFACE".toList, 2), ("MULTIPLE_ADMIN_SERVICES".toList, 2)]

theorem catalog_pairwise : catalog.Pairwise fun a b => a.1 = b.1 → a.2 = b.2 :=
  by decide

theorem catalog_functional : ∀ a ∈ catalog, ∀ b ∈ catalog, a.1 = b.1 →
    a.2 = b.2 := by
  have hsymm : Std.Symm fun a b : Str × Int => a.1 = b.1 → a.2 = b.2 :=
    ⟨fun _ _ h htype => (h htype.symm).symm⟩
  intro a ha b hb
  exact catalog_pairwise.forall_of_forall (fun _ _ _ => rfl) ha hb

/-! ## Offers -/

/-- The check adds the first alerts among those it offers, whose severities are
the catalogued ones. -/
structure Offers (check : List Alert → List Alert) (offered : List Alert) :
    Prop where
  adds : ∀ alerts, check alerts = offered.foldl (keep alertKey) alerts
  listed : ∀ alert ∈ offered, (alert.type, alert.severity) ∈ catalog

def Agree (first second : List Alert → List Alert) : Prop :=
  ∃ offered others, Offers first offered ∧ Offers second others ∧
    ∀ alert, alert ∈ offered ↔ alert ∈ others

variable {ip : Str} {check next first second : List Alert → List Alert}
  {offered others : List Alert}

theorem addAlert_eq (alerts : List Alert) (type description : Str)
    (severity : Int) :
    addAlert alerts type description severity =
      keep alertKey alerts ⟨type, description, severity⟩ := by
  have htaken : (alerts.any fun existing => existing.type = type &&
      existing.description = description) =
      (lookup alertKey (type, description) alerts).isSome := by
    rw [lookup, List.isSome_find?]
    refine congrArg (alerts.any ·) (funext fun existing => ?_)
    simp [alertKey]
  rw [addAlert, htaken]
  rfl

theorem Offers.nothing : Offers (fun alerts => alerts) [] where
  adds _ := rfl
  listed := by simp

theorem Offers.add {type : Str} {severity : Int}
    (h : (type, severity) ∈ catalog) (description : Str) :
    Offers (fun alerts => addAlert alerts type description severity)
      [⟨type, description, severity⟩] where
  adds alerts := addAlert_eq alerts type description severity
  listed := by simpa using h

theorem Offers.andThen (hcheck : Offers check offered)
    (hnext : Offers next others) :
    Offers (fun alerts => next (check alerts)) (offered ++ others) where
  adds alerts := by rw [List.foldl_append, ← hcheck.adds, ← hnext.adds]
  listed alert hmem := (List.mem_append.mp hmem).elim
    (hcheck.listed alert) (hnext.listed alert)

theorem Offers.guard {applies : Prop} [Decidable applies]
    (h : Offers check offered) :
    Offers (fun alerts => if applies then check alerts else alerts)
      (if applies then offered else []) := by
  split
  · exact h
  · exact .nothing

theorem Offers.agree (h : Offers check offered) : Agree check check :=
  ⟨offered, offered, h, h, fun _ => Iff.rfl⟩

theorem Agree.andThen {next' : List Alert → List Alert}
    (hcheck : Agree first second) (hnext : Agree next next') :
    Agree (fun alerts => next (first alerts))
      (fun alerts => next' (second alerts)) := by
  obtain ⟨offered, others, hfirst, hsecond, hsame⟩ := hcheck
  obtain ⟨offered', others', hfirst', hsecond', hsame'⟩ := hnext
  refine ⟨_, _, hfirst.andThen hfirst', hsecond.andThen hsecond',
    fun alert => ?_⟩
  rw [List.mem_append, List.mem_append, hsame, hsame']

theorem Agree.loop {α : Type} {step : List Alert → α → List Alert}
    (hstep : ∀ x, ∃ offered, Offers (fun alerts => step alerts x) offered)
    {xs ys : List α} (hperm : xs.Perm ys) :
    Agree (xs.foldl step) (ys.foldl step) := by
  choose offers hoffers using hstep
  have hloop : ∀ xs : List α,
      Offers (fun alerts => xs.foldl step alerts) (xs.flatMap offers) := by
    intro xs
    induction xs with
    | nil => exact .nothing
    | cons x xs ih => exact (hoffers x).andThen ih
  exact ⟨_, _, hloop xs, hloop ys, fun _ =>
    (hperm.flatMap_right offers).mem_iff⟩

/-! ## The checks on two inputs -/

section TwoInputs

variable {ports ports' : List PortInfo} {services services' : List ServiceInfo}

theorem foldl_ports_eq {step : List Alert → Int → List Alert}
    (ports : List PortInfo) (alerts : List Alert) :
    ports.foldl (fun alerts port =>
      if !isOpen port then alerts else step alerts port.port) alerts =
      (openNumbers ports).foldl step alerts := by
  rw [openNumbers, List.foldl_map, List.foldl_filter]
  congr 1
  funext alerts port
  cases isOpen port <;> simp

theorem foldl_services_eq {step : List Alert → ServiceInfo → List Alert}
    (ip : Str) (services : List ServiceInfo) (alerts : List Alert) :
    services.foldl (fun alerts service =>
      if service.ip ≠ ip then alerts else step alerts service) alerts =
      (servicesOf ip services).foldl step alerts := by
  rw [servicesOf, List.foldl_filter]
  congr 1
  funext alerts service
  by_cases h : service.ip = ip <;> simp [h]

theorem any_open_eq_mem (ports : List PortInfo) (number : Int) :
    (ports.any fun port => isOpen port && port.port = number) =
      decide (number ∈ openNumbers ports) := by
  rw [Bool.eq_iff_iff]
  simp [openNumbers, and_assoc]

theorem any_open_congr
    (hports : (openNumbers ports).Perm (openNumbers ports')) (number : Int) :
    (ports'.any fun port => port.isOpen && port.port = number) =
      ports.any fun port => port.isOpen && port.port = number := by
  refine (any_open_eq_mem ports' number).trans ?_
  rw [decide_eq_decide.mpr hports.symm.mem_iff]
  exact (any_open_eq_mem ports number).symm

theorem agree_checkPorts {rules : List PortRule}
    (hlisted : ∀ rule ∈ rules, (rule.type, rule.severity) ∈ catalog)
    (ip : Str) (hports : (openNumbers ports).Perm (openNumbers ports')) :
    Agree (checkPorts rules ip ports) (checkPorts rules ip ports') := by
  let step (alerts : List Alert) (number : Int) : List Alert :=
    (rules.find? fun rule => number = rule.port).elim alerts fun rule =>
      addAlert alerts rule.type (rule.description ip) rule.severity
  have hloop : ∀ ports, checkPorts rules ip ports =
      (openNumbers ports).foldl step := by
    intro ports
    funext alerts
    rw [← foldl_ports_eq, checkPorts]
    congr 1
    funext alerts port
    cases hfind : rules.find? fun rule => port.port = rule.port <;>
      simp [step, hfind]
  rw [hloop, hloop]
  refine Agree.loop (fun number => ?_) hports
  dsimp only [step]
  cases hfind : rules.find? fun rule => number = rule.port with
  | none => exact ⟨_, .nothing⟩
  | some rule =>
      exact ⟨_, .add (hlisted rule (List.mem_of_find?_eq_some hfind)) _⟩

theorem agree_checkServiceExposure (ip : Str)
    (hservices : (servicesOf ip services).Perm (servicesOf ip services')) :
    Agree (checkServiceExposure ip services)
      (checkServiceExposure ip services') := by
  have hloop : ∀ services, checkServiceExposure ip services = _ :=
    fun services => funext fun alerts => foldl_services_eq ip services alerts
  rw [hloop, hloop]
  refine Agree.loop (fun service => ?_) hservices
  split
  · exact ⟨_, .nothing⟩
  · split
    · exact ⟨_, .add (by simp [catalog]) _⟩
    · exact ⟨_, .nothing⟩

theorem agree_checkServicePortConsistency (ip : Str)
    (hports : (openNumbers ports).Perm (openNumbers ports'))
    (hservices : (servicesOf ip services).Perm (servicesOf ip services')) :
    Agree (checkServicePortConsistency ip ports services)
      (checkServicePortConsistency ip ports' services') := by
  have hsame : checkServicePortConsistency ip ports' services' =
      checkServicePortConsistency ip ports services' := by
    unfold checkServicePortConsistency
    simp only [any_open_congr hports]
  rw [hsame]
  have hloop : ∀ services,
      checkServicePortConsistency ip ports services = _ :=
    fun services => funext fun alerts => foldl_services_eq ip services alerts
  rw [hloop, hloop]
  refine Agree.loop (fun service => ?_) hservices
  dsimp only
  split
  · exact ⟨_, .add (by simp [catalog]) _⟩
  · exact ⟨_, .nothing⟩

theorem agree_checkFileSharing (ip : Str)
    (hports : (openNumbers ports).Perm (openNumbers ports')) :
    Agree (checkFileSharing ip ports) (checkFileSharing ip ports') := by
  have hsame : checkFileSharing ip ports' = checkFileSharing ip ports := by
    unfold checkFileSharing isOpen
    simp only [any_open_congr hports]
  rw [hsame]
  exact ((Offers.add (by simp [catalog]) _).guard.andThen
    (Offers.add (by simp [catalog]) _).guard).agree

theorem agree_checkAttackSurface (ip : Str)
    (hports : (openNumbers ports).Perm (openNumbers ports')) :
    Agree (checkAttackSurface ip ports) (checkAttackSurface ip ports') := by
  have hcount : ∀ ports : List PortInfo,
      ports.countP PortInfo.isOpen = (openNumbers ports).length := by
    intro ports
    rw [openNumbers, List.length_map, ← List.countP_eq_length_filter]
    rfl
  have hsame : checkAttackSurface ip ports' = checkAttackSurface ip ports := by
    unfold checkAttackSurface
    rw [hcount, hcount, hports.length_eq]
  rw [hsame]
  unfold checkAttackSurface
  dsimp only
  split
  · exact (Offers.add (by simp [catalog]) _).agree
  · exact (Offers.add (by simp [catalog]) _).guard.agree

theorem agree_checkAdministrativeExposure (ip : Str)
    (hports : (openNumbers ports).Perm (openNumbers ports')) :
    Agree (checkAdministrativeExposure ip ports)
      (checkAdministrativeExposure ip ports') := by
  have hsame : checkAdministrativeExposure ip ports' =
      checkAdministrativeExposure ip ports := by
    unfold checkAdministrativeExposure
    simp only [any_open_congr hports]
  rw [hsame]
  exact (Offers.add (by simp [catalog]) _).guard.agree

end TwoInputs

/-! ## The whole report -/

theorem agree_collect {ports ports' : List PortInfo}
    {services services' : List ServiceInfo} (ip : Str)
    (hports : (openNumbers ports).Perm (openNumbers ports'))
    (hservices : (servicesOf ip services).Perm (servicesOf ip services')) :
    Agree (collect ip ports services) (collect ip ports' services') := by
  have hrules : ∀ rules ∈ [legacyProtocols, exposedDatabases,
      remoteAdministration, managementServices, cleartextServices,
      highRiskServices], Agree (checkPorts rules ip ports)
        (checkPorts rules ip ports') := by
    intro rules hrules
    refine agree_checkPorts (fun rule hrule => ?_) ip hports
    refine List.mem_append_left _ (List.mem_map_of_mem ?_)
    simp only [List.mem_cons, List.not_mem_nil, or_false] at hrules
    rcases hrules with rfl | rfl | rfl | rfl | rfl | rfl <;> simp [hrule]
  exact (hrules legacyProtocols (by simp)).andThen <|
    (hrules exposedDatabases (by simp)).andThen <|
    (hrules remoteAdministration (by simp)).andThen <|
    (hrules managementServices (by simp)).andThen <|
    (agree_checkFileSharing ip hports).andThen <|
    (hrules cleartextServices (by simp)).andThen <|
    (hrules highRiskServices (by simp)).andThen <|
    (agree_checkServiceExposure ip hservices).andThen <|
    (agree_checkServicePortConsistency ip hports hservices).andThen <|
    (agree_checkAttackSurface ip hports).andThen
      (agree_checkAdministrativeExposure ip hports)

theorem Offers.firsts_eq (h : Offers check offered) :
    check [] = firsts alertKey offered := h.adds []

theorem Offers.key_injective (h : Offers check offered) :
    ∀ a ∈ offered, ∀ b ∈ offered, alertKey a = alertKey b → a = b := by
  intro a ha b hb hkey
  obtain ⟨htype, hdescription⟩ := Prod.mk.inj hkey
  have hseverity := catalog_functional _ (h.listed a ha) _ (h.listed b hb) htype
  cases a
  cases b
  simp_all

def alertOrderKey (alert : Alert) : ℤᵒᵈ ×ₗ Str :=
  toLex (.toDual alert.severity, alert.type)

theorem alertOrder_iff (a b : Alert) :
    alertOrder a b = true ↔ alertOrderKey a < alertOrderKey b := by
  simp only [alertOrderKey, Prod.Lex.toLex_lt_toLex,
    OrderDual.toDual_lt_toDual, OrderDual.toDual_inj]
  unfold alertOrder
  split_ifs with hseverity
  · simp [hseverity]
  · rw [ne_eq, not_not] at hseverity
    simp [hseverity]

theorem alertOrder_strictWeakOrder : StrictWeakOrder alertOrder :=
  .of_key alertOrderKey alertOrder_iff

theorem alertOrder_eq_false_iff {a b : Alert} :
    alertOrder b a = false ↔ Precedes a b := by
  rw [← Bool.not_eq_true, alertOrder_iff, not_lt, Precedes]
  simp only [alertOrderKey, Prod.Lex.toLex_le_toLex,
    OrderDual.toDual_lt_toDual, OrderDual.toDual_inj]

/-- The reported alerts depend on the open port numbers and the services of the
host only; no two of them are alike and the gravest come first. -/
theorem analyze_reports (std other : SortRoutine Alert) (ip : Str)
    {ports ports' : List PortInfo} {services services' : List ServiceInfo}
    (hports : (openNumbers ports).Perm (openNumbers ports'))
    (hservices : (servicesOf ip services).Perm (servicesOf ip services')) :
    (∀ alert, alert ∈ analyze std ip ports services ↔
      alert ∈ analyze other ip ports' services') ∧
    ((analyze std ip ports services).map alertKey).Nodup ∧
    (analyze std ip ports services).Pairwise Precedes := by
  obtain ⟨offered, others, hfirst, hsecond, hsame⟩ :=
    agree_collect ip hports hservices
  have hanalyze : ∀ (std : SortRoutine Alert) {ports services offered},
      Offers (collect ip ports services) offered →
      analyze std ip ports services =
        std.sort alertOrder (firsts alertKey offered) :=
    fun std _ _ _ h => congrArg (std.sort alertOrder) h.firsts_eq
  rw [hanalyze std hfirst, hanalyze other hsecond]
  refine ⟨fun alert => ?_, ?_, ?_⟩
  · rw [std.mem_sort alertOrder_strictWeakOrder,
      other.mem_sort alertOrder_strictWeakOrder,
      mem_firsts_iff_mem hfirst.key_injective,
      mem_firsts_iff_mem hsecond.key_injective, hsame]
  · exact ((std.perm alertOrder_strictWeakOrder _).map alertKey).nodup_iff.mpr
      (nodup_key_firsts offered)
  · exact (std.sorted alertOrder_strictWeakOrder _).imp
      alertOrder_eq_false_iff.mp

/-- A closed port, another host's service and the order make no difference. -/
theorem analyze_reports_telnet :
    let ip := "10.0.0.5".toList
    let ports : List PortInfo :=
      [{ port := 23, isOpen := true }, { port := 22, isOpen := true }]
    let ports' : List PortInfo :=
      [{ port := 22, isOpen := true }, { port := 80 },
        { port := 23, isOpen := true, service := "telnet".toList }]
    let services : List ServiceInfo :=
      [{ ip := ip, port := 23, service := "Telnet".toList }]
    let services' : List ServiceInfo :=
      { ip := "10.0.0.6".toList, port := 21 } :: services
    let std := SortRoutine.merge Alert
    (∀ alert, alert ∈ analyze std ip ports services ↔
      alert ∈ analyze std ip ports' services') ∧
    ((analyze std ip ports services).map alertKey).Nodup ∧
    (analyze std ip ports services).Pairwise Precedes :=
  analyze_reports _ _ _ (by decide) (by decide)

end SlipNet.Security.SecurityDetector
