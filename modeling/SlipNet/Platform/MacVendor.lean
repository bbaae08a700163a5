import SlipNet.Capture.CaptureFile
import SlipNet.Standard.Searching

/-!
# Vendors of network cards on Linux

`lookupLinuxVendor` searches the lines of three databases, of which it keeps
the hexadecimal digits, for the first eight characters of an address, which it
takes with the colons.  So it finds no vendor for any address.
-/

namespace SlipNet.Platform

open SlipNet.Standard
open SlipNet.Capture

/-! ## The lookup -/

def isxdigit (c : Char) : Bool := c.isHexDigit

def isValidMac (mac : Str) : Bool :=
  if mac.length ≠ 17 then false
  else [2, 5, 8, 11, 14].all fun i => mac[i]? = some ':'

def databases : List Str :=
  ["/usr/share/ieee-data/oui.txt".toList, "/usr/share/misc/oui.txt".toList,
    "/usr/share/ieee-data/oui.csv".toList]

def normalized (line : Str) : Str := upper (line.filter isxdigit)

/-- What stands behind the first tab or from the first two blanks on, if it is
anything. -/
def vendorOf (line : Str) : Option Str :=
  let tabbed :=
    match findChar '\t' line with
    | some tab =>
        if line.drop (tab + 1) ≠ [] then some (line.drop (tab + 1)) else none
    | none => none
  let spaced :=
    match find "  ".toList line with
    | some space =>
        if line.drop space ≠ [] then some (line.drop space) else none
    | none => none
  tabbed.or spaced

def vendorIn (oui : Str) : List Str → Option Str
  | [] => none
  | line :: lines =>
      if find oui (normalized line) = none then vendorIn oui lines
      else (vendorOf line).or (vendorIn oui lines)

def lookupLinuxVendor (disk : Disk) (mac : Str) : Str :=
  if mac.length < 8 then "Unknown".toList
  else
    let oui := mac.take 8
    let vendor := databases.findSome? fun path =>
      (disk path).bind fun text => vendorIn oui (getlines '\n' text)
    vendor.getD "Unknown".toList

/-! ## The neighbours of the machine -/

structure MacPlatformResolution where
  found : Bool := false
  mac : Str := []
  vendor : Str := []
  interfaceName : Str := []
  deriving DecidableEq, Repr

/-- One line of the table: address, hardware type, flags, hardware address,
mask and device. -/
def resolveLine (disk : Disk) (ip line : Str) : Option MacPlatformResolution :=
  match words line with
  | address :: _ :: _ :: mac :: _ :: device :: _ =>
      if address ≠ ip then none
      else if mac = "00:00:00:00:00:00".toList then none
      else if !isValidMac mac then none
      else
        some
          { found := true
            mac := mac
            interfaceName := device
            vendor := lookupLinuxVendor disk mac }
  | _ => none

def resolveMacAddress (disk : Disk) (ip : Str) : MacPlatformResolution :=
  match disk "/proc/net/arp".toList with
  | none => {}
  | some text =>
      ((getlines '\n' text).tail.findSome? (resolveLine disk ip)).getD {}

/-! ## No line is found -/

def xdigits : Str := "0123456789abcdefABCDEF".toList

theorem mem_xdigits {c : Char} (h : isxdigit c = true) : c ∈ xdigits := by
  have hrange : 48 ≤ c.toNat ∧ c.toNat ≤ 57 ∨ 97 ≤ c.toNat ∧ c.toNat ≤ 102 ∨
      65 ≤ c.toNat ∧ c.toNat ≤ 70 := by
    simp only [isxdigit, Char.isHexDigit, Char.isDigit, ge_iff_le,
      Bool.or_eq_true, Bool.and_eq_true, decide_eq_true_eq,
      UInt32.le_iff_toNat_le] at h
    exact or_assoc.mp h
  rw [← Char.ofNat_toNat c]
  generalize c.toNat = n at hrange
  rcases hrange with ⟨hlow, hhigh⟩ | ⟨hlow, hhigh⟩ | ⟨hlow, hhigh⟩ <;>
    interval_cases n <;> decide

theorem toUpper_xdigits : ∀ c ∈ xdigits, isxdigit c.toUpper = true ∧
    c.toUpper ≠ ':' ∧ c.toUpper ≠ 'M' :=
  forall_mem_of_all (by decide)

theorem colon_notMem_normalized (line : Str) : ':' ∉ normalized line := by
  intro hmem
  obtain ⟨c, hc, hcolon⟩ := List.mem_map.mp hmem
  exact (toUpper_xdigits c (mem_xdigits (List.mem_filter.mp hc).2)).2.1 hcolon

theorem vendorIn_eq_none {oui : Str} (h : ':' ∈ oui) (lines : List Str) :
    vendorIn oui lines = none := by
  induction lines with
  | nil => rfl
  | cons line lines ih =>
      rw [vendorIn,
        if_pos (find_eq_none_of_mem h (colon_notMem_normalized line)), ih]

theorem lookupLinuxVendor_eq_unknown {mac : Str} (h : ':' ∈ mac.take 8)
    (disk : Disk) : lookupLinuxVendor disk mac = "Unknown".toList := by
  have hnone : (databases.findSome? fun path => (disk path).bind fun text =>
      vendorIn (mac.take 8) (getlines '\n' text)) = none := by
    rw [List.findSome?_eq_none_iff]
    intro path _
    cases disk path with
    | none => rfl
    | some text => exact vendorIn_eq_none h _
  unfold lookupLinuxVendor
  dsimp only
  rw [hnone, Option.getD_none, ite_self]

theorem colon_mem_of_isValidMac {mac : Str} (h : isValidMac mac = true) :
    ':' ∈ mac.take 8 := by
  unfold isValidMac at h
  split_ifs at h with hlength
  have hcolon : mac[2]? = some ':' := by
    simp only [List.all_cons, Bool.and_eq_true, decide_eq_true_eq] at h
    exact h.1
  rw [List.mem_iff_getElem?]
  exact ⟨2, by rw [List.getElem?_take_of_lt (by decide), hcolon]⟩

theorem vendor_resolveLine {disk : Disk} {ip line : Str}
    {resolution : MacPlatformResolution}
    (h : resolveLine disk ip line = some resolution) :
    resolution.vendor = "Unknown".toList := by
  unfold resolveLine at h
  split at h
  · next address hardwareType flags mac mask device more hwords =>
      split_ifs at h with haddress hzero hvalid
      obtain rfl := Option.some.inj h
      have hmac : isValidMac mac = true := by simpa using hvalid
      exact lookupLinuxVendor_eq_unknown (colon_mem_of_isValidMac hmac) disk
  · cases h

/-- Every neighbour that is found has an unknown vendor. -/
theorem vendor_resolveMacAddress {disk : Disk} {ip : Str}
    (h : (resolveMacAddress disk ip).found = true) :
    (resolveMacAddress disk ip).vendor = "Unknown".toList := by
  unfold resolveMacAddress at h ⊢
  cases htable : disk "/proc/net/arp".toList with
  | none =>
      rw [htable] at h
      cases h
  | some text =>
      rw [htable] at h
      dsimp only at h ⊢
      cases hfound : (getlines '\n' text).tail.findSome?
          (resolveLine disk ip) with
      | none =>
          rw [hfound] at h
          cases h
      | some resolution =>
          obtain ⟨line, _, hline⟩ := List.exists_of_findSome?_eq_some hfound
          exact vendor_resolveLine hline

/-! ## The lines that list an address -/

structure Octet where
  high : Char
  low : Char
  isHex : isxdigit high = true ∧ isxdigit low = true

def Octet.text (octet : Octet) : Str := [octet.high, octet.low]

structure MacAddress where
  first : Octet
  second : Octet
  third : Octet
  fourth : Octet
  fifth : Octet
  sixth : Octet

namespace MacAddress

variable (mac : MacAddress)

def text : Str :=
  mac.first.text ++ ':' :: mac.second.text ++ ':' :: mac.third.text ++
    ':' :: mac.fourth.text ++ ':' :: mac.fifth.text ++ ':' :: mac.sixth.text

def oui : Str := upper (mac.first.text ++ mac.second.text ++ mac.third.text)

/-- `AA-BB-CC   (hex)<tab><tab>Vendor` -/
def standardLine (vendor : Str) : Str :=
  upper (mac.first.text ++ '-' :: mac.second.text ++ '-' :: mac.third.text) ++
    ("   (hex)\t\t".toList ++ vendor)

/-- The field of a line that states an OUI: the second one of a registry entry
separated by commas, else the digits and hyphens the line starts with. -/
def ouiField (line : Str) : Str :=
  if startsWith line "MA-L,".toList then
    (line.drop 5).takeWhile (· ≠ ',')
  else line.takeWhile fun c => isxdigit c || c = '-'

def Lists (line : Str) : Prop := normalized (ouiField line) = mac.oui

instance : DecidablePred mac.Lists := fun _ =>
  inferInstanceAs (Decidable (_ = _))

theorem lists_standardLine (vendor : Str) :
    mac.Lists (mac.standardLine vendor) := by
  have hhigh (octet : Octet) :=
    toUpper_xdigits octet.high (mem_xdigits octet.isHex.1)
  have hlow (octet : Octet) :=
    toUpper_xdigits octet.low (mem_xdigits octet.isHex.2)
  have hhyphen : Char.toUpper '-' = '-' := by decide
  have hblank : isxdigit ' ' = false := by decide
  have hhyphen' : isxdigit '-' = false := by decide
  have hfield : ouiField (mac.standardLine vendor) =
      upper (mac.first.text ++ '-' :: mac.second.text ++
        '-' :: mac.third.text) := by
    simp [ouiField, standardLine, Octet.text, upper, startsWith, hhyphen,
      hhigh, hlow, hblank, (hhigh mac.first).2.2.symm]
  rw [Lists, hfield]
  simp [normalized, oui, Octet.text, upper, hhyphen, hhyphen', hhigh, hlow]

end MacAddress

def databaseLines (disk : Disk) : List Str :=
  databases.flatMap fun path => ((disk path).map (getlines '\n')).getD []

/-- The lookup returns the vendor of the first line that lists the address, if
it has the standard form, and only vendors of lines that list it. -/
structure FindsVendor (disk : Disk) (mac : MacAddress) : Prop where
  complete : ∀ vendor, (databaseLines disk).find? (mac.Lists ·) =
      some (mac.standardLine vendor) →
    lookupLinuxVendor disk mac.text = vendor
  sound : ∀ vendor, vendor ≠ "Unknown".toList →
    lookupLinuxVendor disk mac.text = vendor →
    ∃ line ∈ databaseLines disk, mac.Lists line ∧ vendorOf line = some vendor

/-- The vendor is right only where there is none to be found. -/
theorem findsVendor_iff (disk : Disk) (mac : MacAddress) :
    FindsVendor disk mac ↔
      ∀ vendor, (databaseLines disk).find? (mac.Lists ·) =
        some (mac.standardLine vendor) → vendor = "Unknown".toList := by
  have hcolon : ':' ∈ mac.text.take 8 := by
    simp [MacAddress.text, Octet.text]
  have hunknown := lookupLinuxVendor_eq_unknown hcolon disk
  constructor
  · intro h vendor hfirst
    rw [← h.complete vendor hfirst, hunknown]
  · intro h
    constructor
    · intro vendor hfirst
      rw [hunknown, h vendor hfirst]
    · intro vendor hne hvendor
      exact absurd (hvendor.symm.trans hunknown) hne

def listedAddress : MacAddress where
  first := ⟨'0', '0', by decide⟩
  second := ⟨'2', '2', by decide⟩
  third := ⟨'7', '2', by decide⟩
  fourth := ⟨'0', '0', by decide⟩
  fifth := ⟨'0', '0', by decide⟩
  sixth := ⟨'0', '1', by decide⟩

def oneDatabase (path : Str) : Option Str :=
  if path = "/usr/share/ieee-data/oui.txt".toList then
    some "00-22-72   (hex)\t\tFuel Devices\n".toList
  else none

theorem not_findsVendor_listed : ¬ FindsVendor oneDatabase listedAddress := by
  intro h
  exact absurd (h.complete "Fuel Devices".toList (by decide)) (by decide)

end SlipNet.Platform
