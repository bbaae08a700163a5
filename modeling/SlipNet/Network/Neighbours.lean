import SlipNet.Network.MacResolver
import SlipNet.Platform.Adapters
import SlipNet.Standard.Words

/-!
# mac|:resolve

Linux prints hardware addresses into a table of neighbours, where they are
looked up; Windows hands over the bytes, which are printed in another case.
`MacResolver::resolve` shows both in one form, from which the bytes can be read
back.
-/

namespace SlipNet.Platform.Windows

open SlipNet.Standard
open SlipNet.Network

/-! ## The Windows lookup -/

/-- `sendArp` gives the bytes that are stored, `none` if the status is not
`NO_ERROR`. -/
structure NeighbourCalls where
  sendArp : UInt32 → Option (List UInt8)
  getBestInterface : UInt32 → Option UInt32
  adapters : Option (List AdapterAddresses)

def formatMac (address : List UInt8) : Str :=
  List.intercalate ":".toList (address.map fun byte => upper (hexByte byte))

def findInterfaceName (calls : NeighbourCalls) (ip : Str) : Str :=
  match (inetPton (cStr ip)).bind calls.getBestInterface with
  | none => "Unknown".toList
  | some interfaceIndex =>
      match (calls.adapters.getD []).find? fun adapter =>
        adapter.ifIndex = interfaceIndex with
      | none => "Unknown".toList
      | some adapter => adapter.friendlyName.getD "Unknown".toList

def resolveMacAddress (calls : NeighbourCalls) (ip : Str) :
    MacPlatformResolution :=
  match (inetPton (cStr ip)).bind calls.sendArp with
  | none => {}
  | some bytes =>
      if bytes.length < 6 then {}
      else if formatMac bytes = [] then {}
      else
        { found := true
          mac := formatMac bytes
          interfaceName := findInterfaceName calls ip
          vendor := "Unknown".toList }

end SlipNet.Platform.Windows

namespace SlipNet.Network

open SlipNet.Standard
open SlipNet.Platform

/-- `MacResolver::resolve` over what the platform returns. -/
def resolution (platformResult : MacPlatformResolution) (ip : Str) :
    MacResolution :=
  if !platformResult.found then { ip := ip }
  else
    { found := true
      ip := ip
      mac := normalizeMac platformResult.mac
      vendor := platformResult.vendor
      interfaceName := platformResult.interfaceName }

/-- A line of `/proc/net/arp`, which prints the bytes of the hardware address
as pairs of digits in lower case. -/
structure Neighbour where
  line : Str
  address : Str
  hardwareType : Str
  flags : Str
  mac : List UInt8
  mask : Str
  device : Str
  words_eq : words line =
    [address, hardwareType, flags, Windows.macToString mac, mask, device]
  oneLine : '\n' ∉ line
  length_mac : mac.length = 6

/-- The hardware address that is not shown.  An entry that has never been
answered has it; the flags are not looked at. -/
def noMac : List UInt8 := [0, 0, 0, 0, 0, 0]

def Neighbour.answers (ip : Str) (neighbour : Neighbour) : Bool :=
  neighbour.address = ip && neighbour.mac ≠ noMac

/-! ## Bytes and digits -/

variable {mac other : List UInt8}

end SlipNet.Network
