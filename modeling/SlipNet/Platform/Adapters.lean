import SlipNet.Network.Inet
import SlipNet.Network.NetworkDiscovery
import SlipNet.Platform.RouteReaders

/-!
# The adapters of the machine

Both platforms read them in several places: `getNetworkInterfaces` lists those
with an IPv4 address, `detectActiveInterface` chooses one of them,
`getNetworkStatus` looks one up by its name, and on Windows
`getLocalTopologyInfo` reads the route of one.  What the system lists is a
parameter.
-/

namespace SlipNet.Platform

open SlipNet.Standard
open SlipNet.Network

structure NetworkStatus where
  interfaceName : Str := []
  ipv4Address : Str := []
  up : Bool := false
  rxPackets : UInt64 := 0
  txPackets : UInt64 := 0
  rxBytes : UInt64 := 0
  txBytes : UInt64 := 0
  rxErrors : UInt64 := 0
  txErrors : UInt64 := 0
  rxDropped : UInt64 := 0
  txDropped : UInt64 := 0
  deriving DecidableEq, Repr

def isIPv4 (address : Option Sockaddr) : Bool :=
  address.any fun address => address.sa_family = AF_INET

/-- Both platforms print an IPv4 address like this, and nothing else. -/
def ipv4ToString (address : Option Sockaddr) : Str :=
  match address with
  | none => []
  | some address => addressToString address

namespace Linux

/-! ## Linux -/

def IFF_UP : UInt32 := 0x1

def IFF_LOOPBACK : UInt32 := 0x8

def IFF_RUNNING : UInt32 := 0x40

def Ifaddrs.has (current : Ifaddrs) (flag : UInt32) : Bool :=
  current.ifa_flags &&& flag ≠ 0

def interfaceInfo (name : Str) (current : Ifaddrs) : NetworkInterfaceInfo where
  name := name
  description := name
  ipv4Address := ipv4ToString current.ifa_addr
  netmask := ipv4ToString current.ifa_netmask
  up := current.has IFF_UP
  macAddress :=
    if current.has IFF_LOOPBACK then "00:00:00:00:00:00".toList else []

def interfaceOf (current : Ifaddrs) : Option NetworkInterfaceInfo :=
  match current.ifa_name with
  | none => none
  | some name =>
      if !isIPv4 current.ifa_addr then none
      else if name = "lo".toList then none
      else
        let info := interfaceInfo name current
        if info.ipv4Address = [] then none else some info

/-- `getifaddrs` gives the list it stores, `none` if it fails. -/
def getNetworkInterfaces (getifaddrs : Option (List Ifaddrs)) :
    List NetworkInterfaceInfo :=
  (getifaddrs.getD []).filterMap interfaceOf

/-- `file >> value` for a counter, which is zero before. -/
def extractUInt64 (text : Str) : UInt64 :=
  match scanInteger text with
  | none => 0
  | some scanned =>
      if scanned.magnitude < 2 ^ 64 then
        if scanned.negative then 0 - UInt64.ofNat scanned.magnitude
        else UInt64.ofNat scanned.magnitude
      else 0xFFFFFFFFFFFFFFFF

/-- `files` gives the content of a file that can be opened. -/
def readCounter (files : Str → Option Str) (interfaceName counter : Str) :
    UInt64 :=
  match files ("/sys/class/net/".toList ++ interfaceName ++
      "/statistics/".toList ++ counter) with
  | none => 0
  | some text => extractUInt64 text

def getIPv4Address (getifaddrs : Option (List Ifaddrs))
    (interfaceName : Str) : Str :=
  match (getifaddrs.getD []).find? fun current =>
    current.ifa_name = some interfaceName && isIPv4 current.ifa_addr with
  | none => []
  | some current => ipv4ToString current.ifa_addr

def getNetworkStatus (files : Str → Option Str)
    (getifaddrs : Option (List Ifaddrs)) (interfaceName : Str) :
    NetworkStatus :=
  if interfaceName = [] then {}
  else
    let state := match files ("/sys/class/net/".toList ++ interfaceName ++
        "/operstate".toList) with
      | none => []
      | some text => (words text).head?.getD []
    let counter := fun counter => readCounter files interfaceName counter
    { interfaceName := interfaceName
      ipv4Address := getIPv4Address getifaddrs interfaceName
      up := state = "up".toList
      rxBytes := counter "rx_bytes".toList
      txBytes := counter "tx_bytes".toList
      rxPackets := counter "rx_packets".toList
      txPackets := counter "tx_packets".toList
      rxErrors := counter "rx_errors".toList
      txErrors := counter "tx_errors".toList
      rxDropped := counter "rx_dropped".toList
      txDropped := counter "tx_dropped".toList }

/-- The loop, with the fallback found so far. -/
def detectFrom (fallback : Str) : List Ifaddrs → Str
  | [] => fallback
  | current :: addresses =>
      match current.ifa_name with
      | none => detectFrom fallback addresses
      | some name =>
          if !isIPv4 current.ifa_addr then detectFrom fallback addresses
          else if name = "lo".toList then detectFrom fallback addresses
          else if !current.has IFF_UP then detectFrom fallback addresses
          else if current.has IFF_RUNNING then name
          else detectFrom (if fallback = [] then name else fallback) addresses

def detectActiveInterface (getifaddrs : Option (List Ifaddrs)) : Str :=
  detectFrom [] (getifaddrs.getD [])

end Linux

namespace Windows

/-! ## Windows -/

structure UnicastAddress where
  lpSockaddr : Option Sockaddr
  onLinkPrefixLength : UInt8
  deriving DecidableEq, Repr

/-- An entry of `GetAdaptersAddresses`.  Wide names are given as the files
narrow them, and the state and the type as what the files ask of them. -/
structure AdapterAddresses where
  ifIndex : UInt32
  friendlyName : Option Str
  description : Option Str
  operStatusUp : Bool
  softwareLoopback : Bool
  physicalAddress : List UInt8
  firstUnicastAddress : List UnicastAddress
  firstGatewayAddress : List (Option Sockaddr)
  deriving DecidableEq, Repr

/-- The first unicast address that the loops do not skip. -/
def AdapterAddresses.firstIPv4 (adapter : AdapterAddresses) :
    Option UnicastAddress :=
  adapter.firstUnicastAddress.find? fun address => isIPv4 address.lpSockaddr

def hexByte (byte : UInt8) : Str :=
  [Nat.digitChar (byte.toNat / 16), Nat.digitChar (byte.toNat % 16)]

def macToString (address : List UInt8) : Str :=
  List.intercalate ":".toList (address.map hexByte)

def prefixLengthToNetmask (prefixLength : UInt8) : Str :=
  if prefixLength > 32 then []
  else if prefixLength = 0 then "0.0.0.0".toList
  else integerToIP (0xFFFFFFFF <<< (32 - prefixLength).toUInt32)

/-- The members that an address fills stay empty without one. -/
def interfaceInfo (adapter : AdapterAddresses) : NetworkInterfaceInfo where
  name := adapter.friendlyName.getD []
  description := adapter.description.getD []
  up := adapter.operStatusUp
  macAddress := macToString adapter.physicalAddress
  ipv4Address := adapter.firstIPv4.elim [] fun address =>
    ipv4ToString address.lpSockaddr
  netmask := adapter.firstIPv4.elim [] fun address =>
    prefixLengthToNetmask address.onLinkPrefixLength

def interfaceOf (adapter : AdapterAddresses) : Option NetworkInterfaceInfo :=
  let info := interfaceInfo adapter
  if info.ipv4Address ≠ [] then some info else none

/-- `adapters` is what the two calls of `GetAdaptersAddresses` give, `none` if
one of them does not return what the files expect. -/
def getNetworkInterfaces (adapters : Option (List AdapterAddresses)) :
    List NetworkInterfaceInfo :=
  (adapters.getD []).filterMap interfaceOf

def activeName (adapter : AdapterAddresses) : Option Str :=
  if !adapter.operStatusUp then none
  else if adapter.softwareLoopback then none
  else if !adapter.firstIPv4.isSome then none
  else adapter.friendlyName.or adapter.description

def detectActiveInterface (adapters : Option (List AdapterAddresses)) : Str :=
  ((adapters.getD []).findSome? activeName).getD []

def readAdapter (adapter : AdapterAddresses) (info : LocalTopologyInfo) :
    LocalTopologyInfo :=
  let info := match adapter.friendlyName with
    | none => info
    | some name => { info with interfaceName := name }
  let info := match adapter.firstIPv4 with
    | none => info
    | some address =>
        { info with localAddress := ipv4ToString address.lpSockaddr }
  match adapter.firstGatewayAddress with
  | [] => info
  | gateway :: _ =>
      if isIPv4 gateway then
        { info with gatewayAddress := ipv4ToString gateway }
      else info

def readAdapters (info : LocalTopologyInfo) :
    List AdapterAddresses → LocalTopologyInfo
  | [] => info
  | adapter :: adapters =>
      if !adapter.operStatusUp then readAdapters info adapters
      else if adapter.softwareLoopback then readAdapters info adapters
      else
        let info := readAdapter adapter info
        if info.localAddress ≠ [] then info else readAdapters info adapters

def getLocalTopologyInfo (adapters : Option (List AdapterAddresses)) :
    LocalTopologyInfo :=
  readAdapters {} (adapters.getD [])

/-- A row of `GetIfTable2`. -/
structure IfRow where
  aliasName : Str
  description : Str
  interfaceIndex : UInt32
  operStatusUp : Bool
  inOctets : UInt64
  outOctets : UInt64
  inUcastPkts : UInt64
  inNUcastPkts : UInt64
  outUcastPkts : UInt64
  outNUcastPkts : UInt64
  inErrors : UInt64
  outErrors : UInt64
  inDiscards : UInt64
  outDiscards : UInt64
  deriving DecidableEq, Repr

/-- The loop over the adapters leaves when an address is found. -/
def addressOfIndex (interfaceIndex : UInt32) : List AdapterAddresses → Str
  | [] => []
  | adapter :: adapters =>
      if adapter.ifIndex ≠ interfaceIndex then
        addressOfIndex interfaceIndex adapters
      else
        match (adapter.firstUnicastAddress.map fun address =>
          ipv4ToString address.lpSockaddr).find? fun ipv4 => ipv4 ≠ [] with
        | some ipv4 => ipv4
        | none => addressOfIndex interfaceIndex adapters

/-- `table` is `none` if `GetIfTable2` fails or stores a null pointer. -/
def getNetworkStatus (table : Option (List IfRow))
    (adapters : Option (List AdapterAddresses)) (interfaceName : Str) :
    NetworkStatus :=
  match (table.getD []).find? fun row =>
    interfaceName = row.aliasName || interfaceName = row.description with
  | none => { interfaceName := interfaceName }
  | some row =>
      { interfaceName := row.aliasName
        up := row.operStatusUp
        rxBytes := row.inOctets
        txBytes := row.outOctets
        rxPackets := row.inUcastPkts + row.inNUcastPkts
        txPackets := row.outUcastPkts + row.outNUcastPkts
        rxErrors := row.inErrors
        txErrors := row.outErrors
        rxDropped := row.inDiscards
        txDropped := row.outDiscards
        ipv4Address := addressOfIndex row.interfaceIndex (adapters.getD []) }

end Windows

end SlipNet.Platform
