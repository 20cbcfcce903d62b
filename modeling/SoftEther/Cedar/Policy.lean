import Mathlib.Logic.Basic

/-!
# Security policies

`POLICY` of `Account.h`.
-/

namespace SoftEther

structure Policy where
  access : Bool := false
  dhcpFilter : Bool := false
  dhcpNoServer : Bool := false
  dhcpForce : Bool := false
  noBridge : Bool := false
  noRouting : Bool := false
  checkMac : Bool := false
  checkIP : Bool := false
  arpDhcpOnly : Bool := false
  privacyFilter : Bool := false
  noServer : Bool := false
  noBroadcastLimiter : Bool := false
  monitorPort : Bool := false
  maxConnection : UInt32 := 0
  timeOut : UInt32 := 0
  maxMac : UInt32 := 0
  maxIP : UInt32 := 0
  maxUpload : UInt32 := 0
  maxDownload : UInt32 := 0
  fixPassword : Bool := false
  multiLogins : UInt32 := 0
  noQoS : Bool := false
  rsAndRAFilter : Bool := false
  raFilter : Bool := false
  dhcpv6Filter : Bool := false
  dhcpv6NoServer : Bool := false
  noRoutingV6 : Bool := false
  checkIPv6 : Bool := false
  noServerV6 : Bool := false
  maxIPv6 : UInt32 := 0
  noSavePassword : Bool := false
  autoDisconnect : UInt32 := 0
  filterIPv4 : Bool := false
  filterIPv6 : Bool := false
  filterNonIP : Bool := false
  noIPv6DefaultRouterInRA : Bool := false
  noIPv6DefaultRouterInRAWhenIPv6 : Bool := false
  vLanId : UInt32 := 0
  ver3 : Bool := false
  deriving DecidableEq

end SoftEther
