import SlipNet.Security.LegacySoftware
import SlipNet.Security.VulnerabilityReport
import SlipNet.Standard.Numerals
import SlipNet.Standard.Searching

/-!
# Release families

The legacy rules compare versions as texts.  A prefix that ends within a number
also takes the numbers that go on, and a search for a release finds it at the
end of a longer one, so the rules fire on neighbouring families.
-/

namespace SlipNet.Security

open SlipNet.Foundation
open SlipNet.Standard
open SlipNet.Core
open SlipNet.Security.VulnerabilityScanner

/-- The version is the release, or goes on with something but a digit. -/
def IsRelease (version release : Str) : Prop :=
  ∃ rest, lower version = release ++ rest ∧ NoDigitAhead rest

def firstComponent (version : Str) : Str :=
  (version.dropWhile fun c => !isdigit c).takeWhile isdigit

def secondComponent (version : Str) : Str :=
  match (version.dropWhile fun c => !isdigit c).dropWhile isdigit with
  | '.' :: rest => rest.takeWhile isdigit
  | _ => []

def InFamily (version : Str) (major minor : Nat) : Prop :=
  secondComponent version ≠ [] ∧
    digitsValue (firstComponent version) = major ∧
    digitsValue (secondComponent version) = minor

/-- The legacy rules fire on their own release families only. -/
structure RespectsFamilies (std : SortRoutine VulnerabilityFinding)
    (service : ServiceInfo) : Prop where
  nginx : Reported std service "SLP-LEGACY-NGINX".toList →
    IsRelease service.version "nginx/1.1".toList
  apache : Reported std service "SLP-LEGACY-APACHE".toList →
    IsRelease service.version "apache/2.2".toList
  mysql : Reported std service "SLP-LEGACY-MYSQL".toList →
    InFamily service.version 5 0 ∨ InFamily service.version 5 1

/-- A service of the product whose version goes on with a digit where the
release ends. -/
def IsNeighbour (product release : Str) (service : ServiceInfo) : Prop :=
  contains service.service product = true ∧ ∃ digit : Char,
    digit.isDigit = true ∧
      startsWith (lower service.version) (release ++ [digit]) = true

/-- A MySQL service with `5.0` or `5.1` anywhere but in the first two
components of its version. -/
def MentionsFamily (service : ServiceInfo) : Prop :=
  contains service.service "mysql".toList = true ∧
    (contains service.version "5.0".toList = true ∨
      contains service.version "5.1".toList = true) ∧
    ¬ InFamily service.version 5 0 ∧ ¬ InFamily service.version 5 1

/-! ## What is reported for one service -/

theorem mem_raised_of_mem_scan {std : SortRoutine VulnerabilityFinding}
    {service : ServiceInfo} {finding : VulnerabilityFinding}
    (h : finding ∈ scan std [service]) : finding ∈ raised service := by
  rw [mem_scan_iff, List.flatMap_singleton] at h
  exact mem_of_lookup h

theorem reported_iff (std : SortRoutine VulnerabilityFinding)
    (service : ServiceInfo) (id : Str) :
    Reported std service id ↔ ∃ finding ∈ raised service, finding.id = id := by
  constructor
  · rintro ⟨finding, hmem, rfl⟩
    exact ⟨finding, mem_raised_of_mem_scan hmem, rfl⟩
  · rintro ⟨finding, hmem, rfl⟩
    cases hfirst : lookup findingKey (findingKey finding) (raised service) with
    | none =>
        rw [lookup_eq_none_iff] at hfirst
        exact absurd (List.mem_map_of_mem hmem) hfirst
    | some first =>
        have hkey := key_of_lookup hfirst
        refine ⟨first, ?_, (Prod.mk.inj (Prod.mk.inj hkey).2).2⟩
        rw [mem_scan_iff, List.flatMap_singleton, hkey]
        exact hfirst

theorem mem_raised_of_legacy {service : ServiceInfo}
    {finding : VulnerabilityFinding} (hid : finding.id ∉ exposureIds) :
    finding ∈ raised service ↔ finding ∈ checkLegacyVersion service [] := by
  rw [← List.nil_append (raised service), ← checkService_eq, checkService,
    (raises_checkLegacyVersion service).appends, List.mem_append]
  refine or_iff_right fun hexposure => ?_
  rcases mem_exposureChecks hexposure with h | h
  · simp at h
  · exact hid (id_mem_exposureIds h)

def legacyRules (service : ServiceInfo) : List (Bool × VulnerabilityFinding) :=
  [(contains service.service "openssh".toList &&
      startsWith (lower service.version) "openssh_7.".toList,
      legacyOpenSsh service),
    (contains service.service "apache".toList &&
      startsWith (lower service.version) "apache/2.2".toList,
      legacyApache service),
    (contains service.service "nginx".toList &&
      startsWith (lower service.version) "nginx/1.1".toList,
      legacyNginx service),
    (contains service.service "mysql".toList &&
      (contains service.version "5.0".toList ||
        contains service.version "5.1".toList),
      legacyMysql service)]

theorem mem_checkLegacyVersion {service : ServiceInfo}
    {finding : VulnerabilityFinding} :
    finding ∈ checkLegacyVersion service [] ↔ service.version ≠ [] ∧
      (true, finding) ∈ legacyRules service := by
  have hlower : ∀ start ∈ ["openssh_7.".toList, "apache/2.2".toList,
      "nginx/1.1".toList], lower start = start := by decide
  simp only [List.forall_mem_cons] at hlower
  unfold checkLegacyVersion
  by_cases hversion : service.version = []
  · simp [hversion]
  · simp only [if_false, mem_pushIf, List.not_mem_nil, false_or,
      versionStartsWith, lower_lower, contains_lower, hlower, legacyRules,
      List.mem_cons, Prod.mk.injEq, or_false, hversion, ne_eq,
      not_false_eq_true, true_and, eq_comm (a := true), or_assoc]

/-- A legacy rule is told by the id of its finding. -/
theorem reported_rule_iff {service : ServiceInfo} {applies : Bool}
    {pushed : VulnerabilityFinding} (id : Str) (hlegacy : id ∉ exposureIds)
    (hrule : (applies, pushed) ∈ legacyRules service) (hid : pushed.id = id)
    (std : SortRoutine VulnerabilityFinding) :
    Reported std service id ↔ service.version ≠ [] ∧ applies = true := by
  have hids : (legacyRules service).map (fun rule => rule.2.id) =
      ["SLP-LEGACY-OPENSSH".toList, "SLP-LEGACY-APACHE".toList,
        "SLP-LEGACY-NGINX".toList, "SLP-LEGACY-MYSQL".toList] := rfl
  have hnodup : ((legacyRules service).map fun rule => rule.2.id).Nodup := by
    rw [hids]
    decide
  rw [reported_iff]
  constructor
  · rintro ⟨finding, hraised, rfl⟩
    rw [mem_raised_of_legacy hlegacy, mem_checkLegacyVersion] at hraised
    have hsame : ((true, finding) : Bool × VulnerabilityFinding) =
        (applies, pushed) :=
      List.inj_on_of_nodup_map hnodup hraised.2 hrule hid.symm
    exact ⟨hraised.1, (Prod.mk.inj hsame).1.symm⟩
  · rintro ⟨hversion, rfl⟩
    exact ⟨pushed, (mem_raised_of_legacy (hid ▸ hlegacy)).mpr
      (mem_checkLegacyVersion.mpr ⟨hversion, hrule⟩), hid⟩

section Rules
variable (std : SortRoutine VulnerabilityFinding) (service : ServiceInfo)

theorem reported_nginx_iff :
    Reported std service "SLP-LEGACY-NGINX".toList ↔
      contains service.service "nginx".toList = true ∧
        startsWith (lower service.version) "nginx/1.1".toList = true := by
  refine (reported_rule_iff "SLP-LEGACY-NGINX".toList (by decide)
    (.tail _ (.tail _ (.head _))) rfl std).trans ?_
  rw [Bool.and_eq_true]
  exact and_iff_right_of_imp fun h hempty => by simp [hempty, lower] at h

theorem reported_apache_iff :
    Reported std service "SLP-LEGACY-APACHE".toList ↔
      contains service.service "apache".toList = true ∧
        startsWith (lower service.version) "apache/2.2".toList = true := by
  refine (reported_rule_iff "SLP-LEGACY-APACHE".toList (by decide)
    (.tail _ (.head _)) rfl std).trans ?_
  rw [Bool.and_eq_true]
  exact and_iff_right_of_imp fun h hempty => by simp [hempty, lower] at h

theorem reported_mysql_iff :
    Reported std service "SLP-LEGACY-MYSQL".toList ↔
      contains service.service "mysql".toList = true ∧
        (contains service.version "5.0".toList = true ∨
          contains service.version "5.1".toList = true) := by
  refine (reported_rule_iff "SLP-LEGACY-MYSQL".toList (by decide)
    (.tail _ (.tail _ (.tail _ (.head _)))) rfl std).trans ?_
  rw [Bool.and_eq_true, Bool.or_eq_true]
  refine and_iff_right_of_imp fun h hempty => ?_
  rw [hempty] at h
  exact absurd h.2 (by decide)

end Rules

/-! ## Where a release ends -/

theorem isRelease_iff {version release : Str}
    (h : startsWith (lower version) release = true) :
    IsRelease version release ↔ ¬ ∃ digit : Char, digit.isDigit = true ∧
      startsWith (lower version) (release ++ [digit]) = true := by
  obtain ⟨rest, hrest⟩ := List.isPrefixOf_iff_prefix.mp h
  have hnext : ∀ digit, startsWith (lower version) (release ++ [digit]) =
      true ↔ rest.head? = some digit := by
    intro digit
    rw [startsWith, List.isPrefixOf_iff_prefix, ← hrest,
      List.prefix_append_right_inj]
    cases rest <;> simp [eq_comm]
  have hrelease : IsRelease version release ↔ NoDigitAhead rest := by
    constructor
    · rintro ⟨other, hother, hahead⟩
      rwa [List.append_cancel_left (hrest.trans hother)]
    · exact fun hahead => ⟨rest, hrest.symm, hahead⟩
  simp only [hnext, hrelease, NoDigitAhead, not_exists, not_and',
    Bool.not_eq_true]

theorem isRelease_of_reported_iff {product release : Str}
    (service : ServiceInfo) :
    (contains service.service product = true ∧
        startsWith (lower service.version) release = true →
      IsRelease service.version release) ↔
      ¬ IsNeighbour product release service := by
  constructor
  · rintro h ⟨hproduct, digit, hdigit, hstart⟩
    have hrelease := startsWith_of_append hstart
    exact (isRelease_iff hrelease).mp (h ⟨hproduct, hrelease⟩)
      ⟨digit, hdigit, hstart⟩
  · rintro h ⟨hproduct, hstart⟩
    exact (isRelease_iff hstart).mpr fun hdigit => h ⟨hproduct, hdigit⟩

/-- The legacy rules keep to their families exactly on services that are no
neighbour of one. -/
theorem respectsFamilies_iff (std : SortRoutine VulnerabilityFinding)
    (service : ServiceInfo) :
    RespectsFamilies std service ↔
      ¬ IsNeighbour "nginx".toList "nginx/1.1".toList service ∧
      ¬ IsNeighbour "apache".toList "apache/2.2".toList service ∧
      ¬ MentionsFamily service := by
  have hmysql : (Reported std service "SLP-LEGACY-MYSQL".toList →
      InFamily service.version 5 0 ∨ InFamily service.version 5 1) ↔
      ¬ MentionsFamily service := by
    rw [reported_mysql_iff, MentionsFamily]
    tauto
  rw [← hmysql, ← isRelease_of_reported_iff, ← isRelease_of_reported_iff,
    ← reported_nginx_iff std, ← reported_apache_iff std]
  exact ⟨fun h => ⟨h.nginx, h.apache, h.mysql⟩, fun h => ⟨h.1, h.2.1, h.2.2⟩⟩

theorem not_isRelease {version release : Str} (digit : Char)
    (hdigit : digit.isDigit = true)
    (h : startsWith (lower version) (release ++ [digit]) = true) :
    ¬ IsRelease version release := by
  rw [isRelease_iff (startsWith_of_append h), not_not]
  exact ⟨digit, hdigit, h⟩

/-- Later releases of nginx, Apache and MySQL, each with a legacy finding. -/
theorem not_respectsFamilies_later :
    let std := SortRoutine.merge VulnerabilityFinding
    ¬ RespectsFamilies std
      { ip := "10.0.0.5".toList, port := 80, service := "nginx".toList,
        version := "nginx/1.18.0".toList } ∧
    ¬ RespectsFamilies std
      { ip := "10.0.0.5".toList, port := 80, service := "Apache".toList,
        version := "Apache/2.20".toList } ∧
    ¬ RespectsFamilies std
      { ip := "10.0.0.5".toList, port := 3306, service := "MySQL".toList,
        version := "8.5.1".toList } := by
  intro std
  refine ⟨fun h => ?_, fun h => ?_, fun h => ?_⟩
  · exact not_isRelease '8' (by decide) (by decide)
      (h.nginx ((reported_nginx_iff std _).mpr (by decide)))
  · exact not_isRelease '0' (by decide) (by decide)
      (h.apache ((reported_apache_iff std _).mpr (by decide)))
  · have hfamily := h.mysql ((reported_mysql_iff std _).mpr (by decide))
    revert hfamily
    unfold InFamily
    decide

end SlipNet.Security
